import PoolRouting.Proofs.DocumentReading
import PoolRouting.Proofs.QuoteScale

/-!
A quote is handed over as a document between its resolution and the building of its transactions.
Nothing is lost on the way but minus signs of zeros, and of these only that of the tolerance matters:
a tolerance with a minus sign is refused, even at zero. No router gives a quote with such a tolerance.
-/

namespace PoolRouting

theorem resembling_cleared (pools : List Pool) : Resembling pools (pools.map Pool.cleared) := by
  induction pools with
  | nil => exact .nil
  | cons pool pools ih => exact .cons ⟨rfl, fun _ => rfl, rfl⟩ ih

theorem config_read_back {config : RouterConfig} (valid : config.validate = .ok config) :
    RouterConfig.ofJson (some config.document) = .ok config := by
  have faultless : config.fault? = none := by
    unfold RouterConfig.validate at valid
    split at valid
    · cases valid
    · assumption
  have unsigned : config.routing.maxPriceDeviation.negative = false := by
    unfold RouterConfig.fault? at faultless
    split_ifs at faultless
    simp_all
  have kept : config.routing.maxPriceDeviation.cleared = config.routing.maxPriceDeviation :=
    Decimal.cleared_of_signed (by simp [unsigned])
  rw [RouterConfig.ofJson, Option.bind_some, RouterConfig.read_fields_document, kept]
  exact valid

namespace Quote
variable (config : RouterConfig) (sender : Address) (quote : Quote)

/-- The quote with its tolerance as a document gives it back. -/
def toleranceCleared (quote : Quote) : Quote :=
  { quote with tolerance := quote.tolerance.cleared }

-- Fees, prices and deviations play no part in transactions; the tolerance does.
theorem transactions_cleared :
    quote.cleared.transactions config sender =
      quote.toleranceCleared.transactions config sender := by
  have resembling : Resembling quote.toleranceCleared.route.route.pools
      (quote.route.route.pools.map Pool.cleared) := resembling_cleared _
  exact transactions_resembling config sender resembling

variable {quote}

theorem valid_of_transactions {txs : List Transaction}
    (built : quote.transactions config sender = .ok txs) :
    validTolerance quote.tolerance = true := by
  obtain ⟨_, built⟩ := (check_ok_iff ..).mp built
  obtain ⟨bounds, bounded, _⟩ := (bind_ok_iff ..).mp built
  exact SwapBounds.valid_of_compute ((bounds_ok_iff quote bounds).mp bounded).1

theorem tolerance_cleared_of_signed
    (signed : quote.tolerance.negative = true → quote.tolerance.mantissa ≠ 0) :
    quote.toleranceCleared = quote := by
  rw [toleranceCleared, Decimal.cleared_of_signed signed]

/-- What the transactions of a quote have to do with those of the quote read from its document. -/
structure Rebuilds (config : RouterConfig) (sender : Address) (quote : Quote) : Prop where
  rebuilt : (read quote.document).map (transactions config sender) =
    some (quote.toleranceCleared.transactions config sender)
  same : (quote.tolerance.negative = true → quote.tolerance.mantissa ≠ 0) →
    (read quote.document).map (transactions config sender) =
      some (quote.transactions config sender)
  refused : quote.tolerance.negative = true → ∀ txs, quote.transactions config sender ≠ .ok txs

theorem rebuilds (config : RouterConfig) (sender : Address) (quote : Quote) :
    Rebuilds config sender quote := by
  have rebuilt : (read quote.document).map (transactions config sender) =
      some (quote.toleranceCleared.transactions config sender) := by
    rw [read_document, Option.map_some, transactions_cleared]
  exact
    { rebuilt := rebuilt
      same := fun signed => by rw [rebuilt, tolerance_cleared_of_signed signed]
      refused := by
        intro negative txs built
        obtain ⟨sign, _⟩ := (valid_tolerance_iff _).mp (valid_of_transactions config sender built)
        rw [sign] at negative
        cases negative }

end Quote

/-- Reading what was written gives it back, without the minus signs of its zeros. -/
structure ReadBack : Prop where
  /-- Mantissa and scale are kept, and so is the sign of everything but a zero. -/
  decimals : ∀ value : Decimal, ∃ back, Reader.decimal value.document = some back ∧
    back.mantissa = value.mantissa ∧ back.scale = value.scale ∧
      back.negative = (value.negative && value.mantissa != 0)
  pools : ∀ pool : Pool, Pool.read pool.document = some pool.cleared
  routes : ∀ route : Route, Route.read route.document = some route.cleared
  simulations : ∀ simulated : SimulatedRoute,
    SimulatedRoute.read simulated.document = some simulated.cleared
  quotes : ∀ quote : Quote, Quote.read quote.document = some quote.cleared
  directions : ∀ direction : SwapDirection,
    SwapDirection.read direction.document = some direction
  requests : ∀ request : SwapRequest, SwapRequest.read request.document = some request.cleared
  transactions : ∀ transaction : Transaction,
    Transaction.read transaction.document = some transaction
  snapshots : ∀ snapshot : Snapshot, (snapshot.prices.map Prod.fst).Nodup →
    Snapshot.read snapshot.document = some snapshot.cleared
  /-- Of several prices for one token the one that holds is kept. -/
  prices : ∀ snapshot : Snapshot, ∃ back, Snapshot.read snapshot.document = some back ∧
    back.pools = snapshot.cleared.pools ∧ back.tokens = snapshot.tokens ∧
      ∀ token, (Ledger.ofSnapshot back).price token = (Ledger.ofSnapshot snapshot).price token
  configs : ∀ config : RouterConfig, config.validate = .ok config →
    RouterConfig.ofJson (some config.document) = .ok config

theorem read_back : ReadBack where
  decimals := fun value => ⟨value.cleared, Reader.decimal_document value, rfl, rfl, rfl⟩
  pools := Pool.read_document
  routes := Route.read_document
  simulations := SimulatedRoute.read_document
  quotes := Quote.read_document
  directions := SwapDirection.read_document
  requests := SwapRequest.read_document
  transactions := Transaction.read_document
  snapshots := by
    intro snapshot distinct
    rw [Snapshot.read_document, Snapshot.latest_of_distinct distinct]
    rfl
  prices := by
    intro snapshot
    refine ⟨_, Snapshot.read_document snapshot, rfl, rfl, fun token => ?_⟩
    have kept := Snapshot.lookup_latest snapshot.prices token
    simp only [Ledger.price, Ledger.ofSnapshot, kept]
  configs := fun _ => config_read_back

/-- Documents hand over whatever there is to be handed over, and a quote that a router gave has the
same transactions afterwards. -/
theorem documents_read_back :
    ReadBack ∧ (∀ config sender quote, Quote.Rebuilds config sender quote) ∧
      ∀ config ledger earlier request quote,
        (((Session.start config ledger).after earlier).resolve request).1 = .ok quote →
        ∀ sender, (Quote.read quote.document).map (Quote.transactions config sender) =
          some (quote.transactions config sender) := by
  refine ⟨read_back, Quote.rebuilds, ?_⟩
  intro config ledger earlier request quote given sender
  have bounded := Session.valid_of_resolve given
  apply (Quote.rebuilds config sender quote).same
  intro negative
  rw [((valid_tolerance_iff _).mp bounded).1] at negative
  cases negative

/-- The quote of two hops over the default configuration has its transactions after the handover. -/
theorem documents_read_back_two_hops :
    RouterConfig.ofJson (some RouterConfig.default.document) = .ok .default ∧
      (Quote.read (Sample.quote 80 1 [1, 873, 80]).document).map
          (Quote.transactions .default ⟨"erd1sender"⟩) =
        some ((Sample.quote 80 1 [1, 873, 80]).transactions .default ⟨"erd1sender"⟩) :=
  ⟨documents_read_back.1.configs .default rfl,
    (documents_read_back.2.1 .default ⟨"erd1sender"⟩ _).same (by decide)⟩

namespace Sample

theorem minus_zero_refused :
    minusZero.transactions .default ⟨"erd1sender"⟩ =
      .error (.invalidAmount (.tolerance minusZero.tolerance)) := by
  decide +kernel

end Sample

/-- A quote that is refused may have transactions once it has been written and read. -/
theorem read_quote_can_be_built :
    (∃ txs, (Quote.read Sample.minusZero.document).map
      (Quote.transactions .default ⟨"erd1sender"⟩) = some (.ok txs)) ∧
    Sample.minusZero.transactions .default ⟨"erd1sender"⟩ =
      .error (.invalidAmount (.tolerance Sample.minusZero.tolerance)) := by
  refine ⟨?_, Sample.minus_zero_refused⟩
  have accepted : (Sample.minusZero.cleared.transactions .default
      ⟨"erd1sender"⟩).toOption.isSome = true := by
    decide +kernel
  rw [Quote.read_document, Option.map_some]
  cases built : Sample.minusZero.cleared.transactions .default ⟨"erd1sender"⟩ with
  | error error =>
    rw [built] at accepted
    cases accepted
  | ok txs => exact ⟨txs, rfl⟩

end PoolRouting
