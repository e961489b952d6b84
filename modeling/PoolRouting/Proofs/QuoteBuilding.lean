import PoolRouting.Proofs.SessionLookup
import PoolRouting.Proofs.TransactionDecoding

/-!
Every quote that a router gives can be built by the same router, unless a pool on its route is no
contract. The builder checks again what the quote was made with: the shape of the route, its ends,
the number of its amounts, the tolerance and the amount to transfer. No amount on the way is nothing,
so none becomes an empty argument.
-/

namespace PoolRouting

theorem is_contract_iff (address : Address) :
    address.isContract = true ↔
      ∃ key, address.bytes? = some key ∧ key.length = 32 ∧ ∀ byte ∈ key.take 8, byte = 0 := by
  unfold Address.isContract
  cases address.bytes? with
  | none => simp
  | some key => simp [List.all_eq_true]

namespace Quote

/-- What the making of a quote leaves for its transactions to rest on. -/
structure Sourced (config : RouterConfig) (quote : Quote) : Prop where
  offered : ∃ pools direction, 0 < direction.amount ∧ direction.type = quote.type ∧
    Offer config quote.tokenIn quote.tokenOut pools direction quote.route
  bounded : validTolerance quote.tolerance = true
  paid : transferred quote.type quote.route quote.tolerance = .ok quote.amountIn

theorem direction_pos {inquiry : Inquiry} (checked : inquiry.check = .ok ()) (facts : PairFacts) :
    0 < (directionOf inquiry facts).amount := by
  have positive := ((inquiry_check_ok_iff inquiry).mp checked).1
  cases fixed : inquiry.direction with
  | none =>
    rw [directionOf, fixed]
    exact place_value_pos _
  | some direction =>
    rw [directionOf, fixed]
    exact positive direction fixed

theorem sourced_of_issued {config : RouterConfig} {quote : Quote}
    (issued : Session.Issued config quote) : Sourced config quote := by
  obtain ⟨ledger, inquiry, reads, checked, quoted⟩ := issued
  obtain ⟨pools, graph, facts, ready⟩ := ready_of_answer quoted
  rw [answer_of_ready reads ready, assemble_ok_iff] at quoted
  obtain ⟨best, amountIn, chosen, paid, rfl⟩ := quoted
  have offer := (best_route_spec ready.accepted chosen).1
  exact
    { offered := ⟨pools, _, direction_pos checked facts, rfl, offer⟩
      bounded := ((inquiry_check_ok_iff inquiry).mp checked).2
      paid := paid }

section Sourced
variable {config : RouterConfig} {quote : Quote} (sourced : Sourced config quote)
include sourced

theorem validate_of_sourced : quote.route.route.validate = .ok () := by
  obtain ⟨pools, direction, _, _, offer⟩ := sourced.offered
  exact offer.admissible.validate

theorem amounts_pos_of_sourced : ∀ amount ∈ quote.route.amounts, 0 < amount := by
  obtain ⟨pools, direction, positive, _, offer⟩ := sourced.offered
  exact Route.simulate_amounts_pos positive offer.simulated

theorem fault_none_of_sourced :
    quote.fault? config.contracts = none ↔
      ∀ pool ∈ quote.route.route.pools, pool.address.isContract = true := by
  obtain ⟨pools, direction, _, _, offer⟩ := sourced.offered
  have counted := (Route.length_simulated offer.simulated).trans
    (joined_length offer.admissible.joined).symm
  rw [fault_none_iff]
  exact ⟨fun valid => valid.2.2,
    fun contracts => ⟨counted, ⟨offer.admissible.starts, offer.admissible.ends⟩, contracts⟩⟩

-- The service raises the first amount of the route, and the bounds raise it again from the list.
theorem bounds_of_sourced : ∃ bounds, quote.bounds = .ok bounds := by
  obtain ⟨pools, direction, _, _, offer⟩ := sourced.offered
  have counted := Route.length_simulated offer.simulated
  have moves := offer.admissible.moves
  obtain ⟨first, rest, listed⟩ := List.exists_cons_of_length_eq_add_one counted
  have more : rest ≠ [] := by
    rintro rfl
    rw [listed, List.length_singleton] at counted
    omega
  have entry : quote.route.amountIn = first := by
    rw [SimulatedRoute.amountIn, listed]
    rfl
  have paid := sourced.paid
  simp only [bounds_ok_iff, listed]
  cases fixed : quote.type with
  | fixedInput =>
    obtain ⟨next, later, rfl⟩ := List.exists_cons_of_ne_nil more
    rw [fixed] at paid
    rw [SwapBounds.compute, min_amount_out_ok _ sourced.bounded]
    exact ⟨_, rfl, entry.symm.trans (Except.ok.inj paid)⟩
  | fixedOutput =>
    rw [fixed] at paid
    have raised := (max_amount_in_ok quote.route.amountIn sourced.bounded).symm.trans paid
    rw [entry] at raised
    refine ⟨_, SwapBounds.compute_output_ok first more sourced.bounded, ?_⟩
    exact (SwapBounds.raised_by_all (List.length_pos_iff.mpr more) _ first).trans
      (Except.ok.inj raised)

theorem amount_in_pos_of_sourced : 0 < quote.amountIn := by
  obtain ⟨pools, direction, _, _, offer⟩ := sourced.offered
  have counted := Route.length_simulated offer.simulated
  obtain ⟨first, rest, listed⟩ := List.exists_cons_of_length_eq_add_one counted
  have positive : 0 < quote.route.amountIn := by
    have each := amounts_pos_of_sourced sourced
    rw [listed] at each
    rw [SimulatedRoute.amountIn, listed]
    exact each first List.mem_cons_self
  have paid := sourced.paid
  cases fixed : quote.type with
  | fixedInput =>
    rw [fixed] at paid
    exact Except.ok.inj paid ▸ positive
  | fixedOutput =>
    rw [fixed] at paid
    have raised := (max_amount_in_ok quote.route.amountIn sourced.bounded).symm.trans paid
    rw [← Except.ok.inj raised]
    refine Nat.lt_of_lt_of_le positive ((Nat.le_div_iff_mul_le (place_value_pos _)).mpr ?_)
    exact Nat.mul_le_mul_left _ (Nat.le_add_right _ _)

end Sourced
end Quote

/-! The arguments of a call at which an amount stands. -/
namespace Transaction

/-- The transferred amount comes second, and the limit of a hop last of the four that follow. -/
def AmountPlace (place : Nat) : Prop := place = 1 ∨ ∃ hop, place = 4 * hop + 6

/-- No amount in the data is an empty argument. -/
def AmountsWritten (tx : Transaction) : Prop :=
  ∃ call, Call.ofChars? tx.data.toList = some call ∧
    ∀ place argument, AmountPlace place → call.arguments[place]? = some argument → argument ≠ []

theorem count_ne_nil {amount : Amount} (positive : 0 < amount) : Call.count amount ≠ [] := by
  rw [Call.count, Text.natBytes, if_neg (Nat.ne_of_gt positive)]
  simp

theorem hop_arguments_ok (type : SwapType) {pools : List Pool} (tokens : List TokenId)
    (limits : List Amount) (contracts : ∀ pool ∈ pools, pool.address.isContract = true) :
    ∃ arguments, hopArguments type pools tokens limits = .ok arguments := by
  induction pools generalizing tokens limits with
  | nil => exact ⟨[], by simp [hopArguments]⟩
  | cons pool pools ih =>
    obtain ⟨first, others⟩ := List.forall_mem_cons.mp contracts
    obtain ⟨key, decoded, _⟩ := (is_contract_iff pool.address).mp first
    cases tokens with
    | nil => exact ⟨[], by simp [hopArguments]⟩
    | cons token tokens =>
      cases limits with
      | nil => exact ⟨[], by simp [hopArguments]⟩
      | cons limit limits =>
        obtain ⟨later, written⟩ := ih tokens limits others
        exact ⟨_, by simp only [hopArguments, decoded, written]; rfl⟩

theorem limit_of_place {type : SwapType} {pools : List Pool} {tokens : List TokenId}
    {limits : List Amount} {arguments : List (List UInt8)}
    (written : hopArguments type pools tokens limits = .ok arguments) {hop : Nat}
    {argument : List UInt8} (placed : arguments[4 * hop + 3]? = some argument) :
    ∃ limit ∈ limits, argument = Call.count limit := by
  induction pools generalizing tokens limits arguments hop with
  | nil =>
    simp only [hopArguments] at written
    cases written
    cases placed
  | cons pool pools ih =>
    cases tokens with
    | nil =>
      simp only [hopArguments] at written
      cases written
      cases placed
    | cons token tokens =>
      cases limits with
      | nil =>
        simp only [hopArguments] at written
        cases written
        cases placed
      | cons limit limits =>
        rw [hopArguments] at written
        split at written
        · cases written
        · obtain ⟨later, writes, rfl⟩ := (map_ok_iff ..).mp written
          cases hop with
          | zero =>
            cases placed
            exact ⟨limit, List.mem_cons_self, rfl⟩
          | succ hop =>
            have earlier : later[4 * hop + 3]? = some argument := placed
            obtain ⟨found, member, same⟩ := ih writes earlier
            exact ⟨found, List.mem_cons_of_mem _ member, same⟩

theorem wrap_written (config : RouterConfig) (sender : Address) (amount : Amount) :
    AmountsWritten (wrap config sender amount) := by
  refine ⟨_, (wrap_wraps config sender amount).call, fun place argument _ placed => ?_⟩
  cases placed

theorem transfer_written {tx : Transaction} {call : Call}
    (data : tx.data = call.text) (transfer : call.function = tokenTransfer)
    (filled : ∀ place argument, AmountPlace place → call.arguments[place]? = some argument →
      argument ≠ []) : AmountsWritten tx := by
  have plain : Call.separator ∉ call.function.toList := by
    rw [transfer]
    decide
  refine ⟨call, ?_, filled⟩
  rw [data, Call.text, String.toList_ofList]
  exact Call.of_chars_chars call plain

theorem unwrap_written (config : RouterConfig) (sender : Address) {amount : Amount}
    (positive : 0 < amount) : AmountsWritten (unwrap config sender amount) := by
  have data : (unwrap config sender amount).data = (unwrapCall config amount).text := rfl
  refine transfer_written data rfl ?_
  rintro place argument (rfl | ⟨hop, rfl⟩) placed
  · cases placed
    exact count_ne_nil positive
  · cases placed

theorem swap_written {config : RouterConfig} {sender : Address} {quote : Quote}
    {bounds : SwapBounds} {tx : Transaction} (transferred : 0 < bounds.amountIn)
    (limited : ∀ limit ∈ bounds.limits, 0 < limit)
    (written : swap config sender quote bounds = .ok tx) : AmountsWritten tx := by
  obtain ⟨call, called, rfl⟩ := (map_ok_iff ..).mp written
  obtain ⟨arguments, listed, rfl⟩ := (map_ok_iff ..).mp called
  refine transfer_written rfl rfl ?_
  rintro place argument (rfl | ⟨hop, rfl⟩) placed
  · cases placed
    exact count_ne_nil transferred
  · obtain ⟨limit, member, rfl⟩ := limit_of_place listed placed
    exact count_ne_nil (limited limit member)

end Transaction

namespace Quote
section Build
variable {config : RouterConfig} {quote : Quote}

theorem transactions_ok_iff (sourced : Sourced config quote) (sender : Address) :
    (∃ txs, quote.transactions config sender = .ok txs) ↔
      ∀ pool ∈ quote.route.route.pools, pool.address.isContract = true := by
  have shaped := validate_of_sourced sourced
  have faultless := fault_none_of_sourced sourced
  constructor
  · rintro ⟨txs, built⟩
    obtain ⟨valid, _⟩ := (check_ok_iff ..).mp built
    exact faultless.mp ((validate_ok_iff ..).mp valid).2
  · intro contracts
    have valid := (validate_ok_iff config.contracts quote).mpr ⟨shaped, faultless.mpr contracts⟩
    obtain ⟨bounds, bounded⟩ := bounds_of_sourced sourced
    obtain ⟨arguments, written⟩ := Transaction.hop_arguments_ok quote.type
      quote.route.route.tokens.tail bounds.limits contracts
    simp only [transactions, valid, bounded, Transaction.swap, Transaction.swapCall, written,
      Except.bind, Except.map]
    exact ⟨_, rfl⟩

theorem transactions_error (sourced : Sourced config quote) (sender : Address)
    (foreign : ¬ ∀ pool ∈ quote.route.route.pools, pool.address.isContract = true) :
    ∃ fault, quote.transactions config sender = .error (.invalidRoute fault) := by
  have shaped := validate_of_sourced sourced
  cases found : quote.fault? config.contracts with
  | none => exact (foreign ((fault_none_of_sourced sourced).mp found)).elim
  | some fault => exact ⟨fault, by simp [transactions, validate, shaped, found, Except.bind]⟩

end Build

theorem quotes_build (config : RouterConfig) (session : Session)
    (reached : session.Reached config) (request : SwapRequest) (quote : Quote)
    (given : (session.resolve request).1 = .ok quote) (sender : Address) :
    ((∃ txs, quote.transactions config sender = .ok txs) ↔
      ∀ pool ∈ quote.route.route.pools, ∃ key, pool.address.bytes? = some key ∧
        key.length = 32 ∧ ∀ byte ∈ key.take 8, byte = 0) ∧
    ((¬ ∃ txs, quote.transactions config sender = .ok txs) →
      ∃ fault, quote.transactions config sender = .error (.invalidRoute fault)) ∧
    ∀ txs, quote.transactions config sender = .ok txs →
      txs.length = 1 + (config.contracts.isNative quote.tokenIn).toNat +
        (config.contracts.isNative quote.tokenOut).toNat ∧
      quote.amountIn ≠ 0 ∧
      (∃ bounds, quote.bounds = .ok bounds ∧ bounds.amountIn = quote.amountIn ∧
        ∀ limit ∈ bounds.limits, limit ≠ 0) ∧
      ∀ tx ∈ txs, tx.AmountsWritten := by
  have trusted := Session.reached_trusted reached
  have sourced := sourced_of_issued ((Session.resolve_trusted trusted request).2 quote given)
  have decides := transactions_ok_iff sourced sender
  have positive := amounts_pos_of_sourced sourced
  have paid := amount_in_pos_of_sourced sourced
  refine ⟨?_, ?_, ?_⟩
  · simpa only [is_contract_iff] using decides
  · intro refused
    exact transactions_error sourced sender fun contracts => refused (decides.mpr contracts)
  · intro txs built
    obtain ⟨_, built⟩ := (check_ok_iff ..).mp built
    obtain ⟨bounds, bounded, built⟩ := (bind_ok_iff ..).mp built
    obtain ⟨swap, written, rfl⟩ := (map_ok_iff ..).mp built
    obtain ⟨computed, same⟩ := (bounds_ok_iff quote bounds).mp bounded
    have limited := SwapBounds.limits_pos computed positive
    have out : 0 < quote.route.amountOut := by
      obtain ⟨last, ends⟩ : ∃ last, quote.route.amounts.getLast? = some last := by
        have counted := SwapBounds.length_limits computed
        cases found : quote.route.amounts.getLast? with
        | some last => exact ⟨last, rfl⟩
        | none => simp [List.getLast?_eq_none_iff.mp found] at counted
      rw [SimulatedRoute.amountOut, ends]
      exact positive last (List.mem_of_getLast? ends)
    refine ⟨?_, Nat.ne_of_gt paid, ⟨bounds, bounded, same, ?_⟩, ?_⟩
    · cases config.contracts.isNative quote.tokenIn <;>
        cases config.contracts.isNative quote.tokenOut <;> rfl
    · exact fun limit member => Nat.ne_of_gt (limited limit member)
    · intro tx member
      rw [List.mem_append, List.mem_cons] at member
      rcases member with first | rfl | last
      · split at first
        · cases List.mem_singleton.mp first
          exact Transaction.wrap_written ..
        · cases first
      · exact Transaction.swap_written (same ▸ paid) limited written
      · split at last
        · cases List.mem_singleton.mp last
          exact Transaction.unwrap_written config sender out
        · cases last

-- Two pools that are contracts, and the native currency at the end: a swap and an unwrap.
theorem quotes_build_two_hops :
    ∃ quote txs,
      ((Session.start .default Sample.ledger).resolve
        ⟨Sample.usdc, Sample.native, none, some 80, Sample.half⟩).1 = .ok quote ∧
      quote.transactions .default ⟨"erd1sender"⟩ = .ok txs ∧ txs.length = 2 ∧
      quote.amountIn ≠ 0 := by
  have given : ((Session.start .default Sample.ledger).resolve
      ⟨Sample.usdc, Sample.native, none, some 80, Sample.half⟩).1 =
      .ok (Sample.quote 80 1 [1, 873, 80]) := by
    rw [Session.resolve_eq]
    exact (Session.lookup_start .default Sample.ledger _).trans
      (Sample.quoted 80 1 [1, 873, 80] rfl rfl)
  obtain ⟨decides, _, described⟩ := quotes_build .default (.start .default Sample.ledger)
    (.start Sample.ledger) _ _ given ⟨"erd1sender"⟩
  have contracts : ∀ pool ∈ Sample.longRoute.pools, pool.address.isContract = true := by
    decide +kernel
  obtain ⟨txs, built⟩ := decides.mpr fun pool through =>
    (is_contract_iff pool.address).mp (contracts pool through)
  obtain ⟨counted, paid, _⟩ := described txs built
  exact ⟨_, txs, given, built, counted, paid⟩

end Quote
end PoolRouting
