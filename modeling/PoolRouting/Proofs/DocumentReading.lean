import PoolRouting.Document.Config
import PoolRouting.Document.Swap
import PoolRouting.Document.Transaction
import PoolRouting.Proofs.NumeralReading

/-!
Written documents read back. A record is written with its own fields only, each once, so every field
is found under its name and a field that was left out is absent; what is read is then what the
readers of the fields make of it. All of them give back what was written, save that a decimal zero
loses its minus sign.
-/

namespace PoolRouting

theorem lookup_later {κ β : Type} [DecidableEq κ] {key other : κ} (different : key ≠ other)
    (value : β) (entries : List (κ × β)) :
    List.lookup key ((other, value) :: entries) = entries.lookup key := by
  have unequal : (key == other) = false := by simpa using different
  rw [List.lookup_cons, unequal]

/-! Fields of records. -/
namespace Record

/-- Fields that are written in the declared order are all known, and none is repeated. -/
theorem of_fields_written {names : List String} {fields : List (String × Json)}
    (distinct : names.Nodup) (written : (fields.map Prod.fst).Sublist names) :
    ofFields? names fields = some ⟨fields, false⟩ := by
  have known : fields.filter (fun field => names.contains field.1) = fields := by
    rw [List.filter_eq_self]
    intro field member
    simpa using written.subset (List.mem_map_of_mem member)
  rw [ofFields?, known, if_pos (distinct.sublist written)]

theorem of_json_written {names : List String} {fields : List (String × Json)}
    (distinct : names.Nodup) (written : (fields.map Prod.fst).Sublist names) :
    ofJson? names (.object fields) = some ⟨fields, false⟩ := of_fields_written distinct written

section Fields
variable {α : Type} {name field : String} {fields : List (String × Json)} {positional : Bool}

@[simp]
theorem required_here (document : Json) (read : Reader α) :
    required ⟨(name, document) :: fields, positional⟩ name read = read document := by
  rw [required, List.lookup_cons_self, Option.bind_some]

@[simp]
theorem required_later (other : name ≠ field) (document : Json) (read : Reader α) :
    required ⟨(field, document) :: fields, positional⟩ name read =
      required ⟨fields, positional⟩ name read := by
  rw [required, required, lookup_later other]

@[simp]
theorem defaulted_here (document : Json) (default : α) (read : Reader α) :
    defaulted ⟨(name, document) :: fields, positional⟩ name default read = read document := by
  rw [defaulted, List.lookup_cons_self]

@[simp]
theorem defaulted_later (other : name ≠ field) (document : Json) (default : α)
    (read : Reader α) :
    defaulted ⟨(field, document) :: fields, positional⟩ name default read =
      defaulted ⟨fields, positional⟩ name default read := by
  rw [defaulted, defaulted, lookup_later other]

@[simp]
theorem defaulted_absent (default : α) (read : Reader α) :
    defaulted ⟨[], positional⟩ name default read = some default := rfl

@[simp]
theorem omissible_object (read : Reader α) :
    omissible ⟨fields, false⟩ name read = defaulted ⟨fields, false⟩ name none (.optional read) := by
  rw [omissible, if_neg Bool.false_ne_true]

end Fields
end Record

/-! Readers of single values. -/
namespace Reader
variable {α : Type}

theorem natural_of_nat {value limit : Nat} (below : value < limit) :
    natural limit (.ofNat value) = some value := by
  simp [natural, Json.ofNat, below]

@[simp]
theorem word32_of_nat (value : UInt32) : word32 (.ofNat value.toNat) = some value := by
  rw [word32, natural_of_nat value.toNat_lt, Option.map_some, UInt32.ofNat_toNat]

@[simp]
theorem word64_of_nat (value : UInt64) : word64 (.ofNat value.toNat) = some value := by
  rw [word64, natural_of_nat value.toNat_lt, Option.map_some, UInt64.ofNat_toNat]

@[simp]
theorem amount_document (value : Amount) : amount (Amount.document value) = some value :=
  Amount.of_chars_text value

@[simp]
theorem decimal_document (value : Decimal) : decimal value.document = some value.cleared :=
  Decimal.of_text_text value

@[simp]
theorem text_string (raw : String) : text (.string raw) = some raw := rfl

@[simp]
theorem optional_amount_document (value : Amount) :
    optional amount (Amount.document value) = some (some value) :=
  congrArg (Option.map some) (amount_document value)

@[simp]
theorem optional_decimal_document (value : Decimal) :
    optional decimal value.document = some (some value.cleared) :=
  congrArg (Option.map some) (decimal_document value)

/-- A list is read item by item. -/
theorem list_document {read : Reader α} {document : α → Json} {kept : α → α}
    (back : ∀ item, read (document item) = some (kept item)) (items : List α) :
    list read (.array (items.map document)) = some (items.map kept) := by
  induction items with
  | nil => rfl
  | cons item items ih =>
    simp only [list, List.map_cons] at ih ⊢
    simp [back, ih]

end Reader

/-! Identifiers and choices. -/

@[simp]
theorem TokenId.read_document (token : TokenId) : read token.document = some token := rfl

@[simp]
theorem Address.read_document (address : Address) : read address.document = some address := rfl

@[simp]
theorem PoolState.read_document (state : PoolState) : read state.document = some state := by
  cases state <;> rfl

@[simp]
theorem PoolState.read_merged_document (state : PoolState) :
    readMerged state.document = some state := by
  cases state <;> rfl

@[simp]
theorem SwapType.read_document (type : SwapType) : read type.document = some type := by
  cases type <;> rfl

@[simp]
theorem Network.read_document (network : Network) : read network.document = some network := by
  cases network <;> rfl

/-! What is kept of a record: everything but the minus signs of its zeros. -/

def Pool.cleared (pool : Pool) : Pool := { pool with feeFraction := pool.feeFraction.cleared }

def Route.cleared (route : Route) : Route := { route with pools := route.pools.map Pool.cleared }

def SimulatedRoute.cleared (simulated : SimulatedRoute) : SimulatedRoute :=
  { simulated with route := simulated.route.cleared }

def Snapshot.cleared (snapshot : Snapshot) : Snapshot :=
  { snapshot with pools := snapshot.pools.map Pool.cleared }

def SwapRequest.cleared (request : SwapRequest) : SwapRequest :=
  { request with tolerance := request.tolerance.cleared }

def Quote.cleared (quote : Quote) : Quote :=
  { quote with
    route := quote.route.cleared
    priceIn := quote.priceIn.cleared
    priceOut := quote.priceOut.cleared
    tolerance := quote.tolerance.cleared
    maxPriceDeviation := quote.maxPriceDeviation.cleared
    priceDeviation := quote.priceDeviation.map Decimal.cleared }

/-! Records. -/

-- A field at a time and by rewriting: the checker would compare two stages of a reader by evaluating
-- both, and the congruence for `Option.bind` would visit the later fields once more for every field.
theorem bind_found {α β : Type} (value : α) (next : α → Option β) :
    (some value >>= next) = next value := by
  rw [Option.bind_eq_bind, Option.bind_some]

@[simp]
theorem Token.read_document (token : Token) : read token.document = some token := by
  have opened : Record.ofJson? fieldNames token.document = some ⟨_, false⟩ :=
    Record.of_json_written (by decide) (by exact .refl _)
  simp [read, opened, bind_found, -Option.bind_eq_bind]

/-- However the state is read, a pool is read back. -/
theorem Pool.read_with_document {readState : Reader PoolState}
    (back : ∀ state : PoolState, readState state.document = some state) (pool : Pool) :
    readWith readState pool.document = some pool.cleared := by
  have opened : Record.ofJson? fieldNames pool.document = some ⟨_, false⟩ :=
    Record.of_json_written (by decide) (by exact .refl _)
  simp [readWith, opened, bind_found, -Option.bind_eq_bind, back, cleared]

theorem Pool.read_document (pool : Pool) : read pool.document = some pool.cleared :=
  read_with_document PoolState.read_document pool

theorem Pool.read_merged_document (pool : Pool) : readMerged pool.document = some pool.cleared :=
  read_with_document PoolState.read_merged_document pool

/-- The fields of a route are found whatever fields stand behind them. -/
theorem Route.of_record_fields {readPool : Reader Pool}
    (back : ∀ pool : Pool, readPool pool.document = some pool.cleared) (route : Route)
    (others : List (String × Json)) :
    ofRecord? readPool ⟨route.fields ++ others, false⟩ = some route.cleared := by
  have tokens := Reader.list_document TokenId.read_document route.tokens
  have pools := Reader.list_document back route.pools
  simp [ofRecord?, fields, tokens, pools, bind_found, -Option.bind_eq_bind, cleared]

theorem Route.read_document (route : Route) : read route.document = some route.cleared := by
  have opened : Record.ofJson? fieldNames route.document = some ⟨route.fields ++ [], false⟩ :=
    Record.of_json_written (by decide) (by exact .refl _)
  rw [read, opened, Option.bind_some]
  exact route.of_record_fields Pool.read_document []

theorem SimulatedRoute.required_amounts (route : Route) (amounts : List Amount) :
    Record.required ⟨route.fields ++
        [("intermediaryAmounts", .array (amounts.map Amount.document))], false⟩
      "intermediaryAmounts" (Reader.list Reader.amount) = some amounts := by
  simpa [Route.fields] using Reader.list_document Reader.amount_document amounts

@[simp]
theorem SimulatedRoute.read_document (simulated : SimulatedRoute) :
    read simulated.document = some simulated.cleared := by
  rw [document, read, Record.of_fields_written (by decide)]
  · simp [Route.of_record_fields Pool.read_merged_document, required_amounts, bind_found,
      -Option.bind_eq_bind, cleared]
  · exact .refl _

theorem SwapDirection.read_document (direction : SwapDirection) :
    read direction.document = some direction := by
  have opened : Record.ofJson? fieldNames direction.document = some ⟨_, false⟩ :=
    Record.of_json_written (by decide) (by exact .refl _)
  simp [read, opened, bind_found, -Option.bind_eq_bind, readType]

theorem SwapRequest.read_document (request : SwapRequest) :
    read request.document = some request.cleared := by
  have opened : Record.ofJson? fieldNames request.document = some ⟨_, false⟩ :=
    Record.of_json_written (by decide) (by
      cases request.amountIn <;> cases request.amountOut <;> simp [fieldNames, optionalField])
  obtain ⟨tokenIn, tokenOut, amountIn, amountOut, tolerance⟩ := request
  cases amountIn <;> cases amountOut <;>
    simp [read, opened, bind_found, -Option.bind_eq_bind, optionalField, cleared]

theorem Quote.read_document (quote : Quote) : read quote.document = some quote.cleared := by
  have opened : Record.ofJson? fieldNames quote.document = some ⟨_, false⟩ :=
    Record.of_json_written (by decide) (by
      cases quote.priceDeviation <;> simp [fieldNames, optionalField])
  cases deviation : quote.priceDeviation <;>
    simp [read, opened, deviation, bind_found, -Option.bind_eq_bind, optionalField, cleared]

theorem Transaction.read_document (transaction : Transaction) :
    read transaction.document = some transaction := by
  have opened : Record.ofJson? fieldNames transaction.document = some ⟨_, false⟩ :=
    Record.of_json_written (by decide) (by exact .refl _)
  simp [read, opened, bind_found, -Option.bind_eq_bind]

theorem RoutingConfig.read_document (routing : RoutingConfig) :
    read routing.document =
      some { routing with maxPriceDeviation := routing.maxPriceDeviation.cleared } := by
  have opened : Record.ofJson? fieldNames routing.document = some ⟨_, false⟩ :=
    Record.of_json_written (by decide) (by exact .refl _)
  simp [read, opened, bind_found, -Option.bind_eq_bind]

theorem ContractsConfig.read_document (contracts : ContractsConfig) :
    read contracts.document = some contracts := by
  have opened : Record.ofJson? fieldNames contracts.document = some ⟨_, false⟩ :=
    Record.of_json_written (by decide) (by exact .refl _)
  simp [read, opened, bind_found, -Option.bind_eq_bind]

theorem GasConfig.read_document (gas : GasConfig) : read gas.document = some gas := by
  have opened : Record.ofJson? fieldNames gas.document = some ⟨_, false⟩ :=
    Record.of_json_written (by decide) (by exact .refl _)
  simp [read, opened, bind_found, -Option.bind_eq_bind]

theorem RouterConfig.read_fields_document (config : RouterConfig) :
    readFields config.document =
      some { config with
        routing := { config.routing with
          maxPriceDeviation := config.routing.maxPriceDeviation.cleared } } := by
  have opened : Record.ofJson? fieldNames config.document = some ⟨_, false⟩ :=
    Record.of_json_written (by decide) (by exact .refl _)
  simp [readFields, opened, RoutingConfig.read_document, ContractsConfig.read_document,
    GasConfig.read_document, bind_found, -Option.bind_eq_bind]

namespace Snapshot

-- Of two prices for one token the later is found first in the reversed list and the only one kept.
theorem lookup_latest (prices : List (TokenId × String)) (token : TokenId) :
    (latest prices).reverse.lookup token = prices.reverse.lookup token := by
  induction prices with
  | nil => rfl
  | cons entry rest ih =>
    obtain ⟨key, price⟩ := entry
    by_cases again : key ∈ rest.map Prod.fst
    · rw [latest, if_pos (by simpa using again), ih, List.reverse_cons, List.lookup_append]
      by_cases same : token = key
      · subst same
        obtain ⟨other, listed, named⟩ := List.mem_map.mp again
        have found : (rest.reverse.lookup token).isSome = true := by
          rw [List.lookup_isSome_iff]
          exact ⟨other, List.mem_reverse.mpr listed, by simp [named]⟩
        rw [Option.or_of_isSome found]
      · simp [lookup_later same]
    · simp [latest, again, List.lookup_append, ih]

theorem latest_of_distinct {prices : List (TokenId × String)}
    (distinct : (prices.map Prod.fst).Nodup) : latest prices = prices := by
  induction prices with
  | nil => rfl
  | cons entry rest ih =>
    obtain ⟨apart, later⟩ := List.nodup_cons.mp distinct
    simp [latest, apart, ih later]

theorem read_prices_document (prices : List (TokenId × String)) :
    readPrices (.object (prices.map fun (token, price) => (token.text, .string price))) =
      some (latest prices) := by
  have each : (prices.map fun (token, price) => (token.text, Json.string price)).mapM
      (fun (token, price) => (Reader.text price).map fun price => (TokenId.mk token, price)) =
      some prices := by
    induction prices with
    | nil => rfl
    | cons entry rest ih => simp [ih]
  rw [readPrices, each, Option.map_some]

/-- A snapshot is read with the prices that hold. -/
theorem read_document (snapshot : Snapshot) :
    read snapshot.document =
      some { snapshot.cleared with prices := latest snapshot.prices } := by
  have opened : Record.ofJson? fieldNames snapshot.document = some ⟨_, false⟩ :=
    Record.of_json_written (by decide) (by exact .refl _)
  have pools := Reader.list_document Pool.read_document snapshot.pools
  have tokens := Reader.list_document Token.read_document snapshot.tokens
  simp [read, opened, pools, tokens, read_prices_document, bind_found, -Option.bind_eq_bind,
    cleared]

end Snapshot
end PoolRouting
