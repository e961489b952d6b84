import PoolRouting.Proofs.CheckedBuilding
import PoolRouting.Proofs.QuoteBuilding
import PoolRouting.Proofs.SlippageBounds

/-!
Which quotes can be built. A quote may be read from any document, so nothing is known of it; its
transactions are built exactly when it holds together, tolerates a fraction and transfers what its
route asks for, and otherwise it is refused for the first of these that fails. The builder checks
twice what the route and the contracts settle before, and those checks never speak.
-/

namespace PoolRouting

/-- A fault that only a later check could find in a quote that passed the earlier ones. -/
inductive RouteFault.Late : RouteFault → Prop where
  | tooFewAmounts : Late .tooFewAmounts
  | undecodable (pool : Address) : Late (.undecodable pool)

/-- What the sender transfers for the first amount of a route. -/
def charged (type : SwapType) (tolerance : ℚ) (first : Amount) : Amount :=
  match type with
  | .fixedInput => first
  | .fixedOutput => ⌊(first : ℚ) * (1 + tolerance)⌋₊

namespace Quote

/-- A quote that holds together, whatever it tolerates and transfers. -/
structure Structured (contracts : ContractsConfig) (quote : Quote) : Prop where
  shaped : quote.route.route.validate = .ok ()
  counted : quote.route.amounts.length = quote.route.route.tokens.length
  starts : quote.route.route.tokens.head? = some (contracts.routingToken quote.tokenIn)
  ends : quote.route.route.tokens.getLast? = some (contracts.routingToken quote.tokenOut)
  contracts : ∀ pool ∈ quote.route.route.pools, pool.address.isContract = true

/-- The quote transfers what its route asks for. -/
def Paid (quote : Quote) : Prop :=
  ∃ first, quote.route.amounts.head? = some first ∧
    quote.amountIn = charged quote.type quote.tolerance.value first

end Quote

/-! The faults of a shape are never late. -/

theorem gap_early {tokens : List TokenId} {pools : List Pool} {fault : RouteFault}
    (found : Route.gap? tokens pools = some fault) : ¬ fault.Late := by
  induction pools generalizing tokens with
  | nil => cases tokens <;> simp [Route.gap?] at found
  | cons pool pools ih =>
    rcases tokens with _ | ⟨left, _ | ⟨right, tokens⟩⟩
    · simp [Route.gap?] at found
    · simp [Route.gap?] at found
    · rw [Route.gap?] at found
      split at found
      · exact ih found
      · cases found
        rintro ⟨⟩

theorem repeated_early {tokens : List TokenId} {fault : RouteFault}
    (found : Route.repeated? tokens = some fault) : ¬ fault.Late := by
  induction tokens with
  | nil => cases found
  | cons token rest ih =>
    rw [Route.repeated?] at found
    split at found
    · cases found
      rintro ⟨⟩
    · exact ih found

theorem Route.fault_early {route : Route} {fault : RouteFault} (found : route.fault? = some fault) :
    ¬ fault.Late := by
  unfold fault? at found
  split at found
  · cases found
    rintro ⟨⟩
  split at found
  · cases found
    rintro ⟨⟩
  · rcases Option.or_eq_some_iff.mp found with gap | ⟨_, repeated⟩
    · exact gap_early gap
    · exact repeated_early repeated

namespace Quote
variable {config : RouterConfig} {quote : Quote}

theorem fault_early {contracts : ContractsConfig} {fault : RouteFault}
    (found : quote.fault? contracts = some fault) : ¬ fault.Late := by
  unfold fault? at found
  dsimp only at found
  split at found
  · cases found
    rintro ⟨⟩
  split at found
  · cases found
    rintro ⟨⟩
  · obtain ⟨pool, _, rfl⟩ := Option.map_eq_some_iff.mp found
    rintro ⟨⟩

theorem structured_iff (contracts : ContractsConfig) (quote : Quote) :
    quote.validate contracts = .ok () ↔ quote.Structured contracts := by
  rw [validate_ok_iff, fault_none_iff]
  constructor
  · rintro ⟨shaped, counted, ⟨starts, ends⟩, contracts⟩
    exact ⟨shaped, counted, starts, ends, contracts⟩
  · rintro ⟨shaped, counted, starts, ends, contracts⟩
    exact ⟨shaped, counted, ⟨starts, ends⟩, contracts⟩

section Refused
variable (config quote) (sender : Address)

theorem refused_unstructured (apart : ¬ quote.Structured config.contracts) :
    ∃ fault, quote.transactions config sender = .error (.invalidRoute fault) ∧ ¬ fault.Late := by
  rw [← structured_iff, validate, Route.validate_eq] at apart
  rw [transactions, validate, Route.validate_eq]
  cases shaped : quote.route.route.fault? with
  | some fault => exact ⟨fault, rfl, Route.fault_early shaped⟩
  | none =>
    cases found : quote.fault? config.contracts with
    | some fault => exact ⟨fault, rfl, fault_early found⟩
    | none =>
      rw [shaped, found] at apart
      exact (apart rfl).elim

end Refused

section Structured
variable (structured : quote.Structured config.contracts)
include structured

theorem amounts_of_structured :
    ∃ first later, quote.route.amounts = first :: later ∧ later ≠ [] := by
  obtain ⟨moves, joined, _⟩ := (Route.validate_ok_iff quote.route.route).mp structured.shaped
  have counted := structured.counted.trans (joined_length joined)
  obtain ⟨first, later, listed⟩ := List.exists_cons_of_length_eq_add_one counted
  refine ⟨first, later, listed, ?_⟩
  rintro rfl
  rw [listed, List.length_singleton] at counted
  exact moves (List.length_eq_zero_iff.mp (Nat.succ.inj counted).symm)

theorem transactions_of_bounds (sender : Address) :
    quote.transactions config sender = quote.bounds.bind fun bounds =>
      (Transaction.swap config sender quote bounds).map fun swap =>
        (if config.contracts.isNative quote.tokenIn then
          [Transaction.wrap config sender bounds.amountIn] else []) ++ swap ::
        (if config.contracts.isNative quote.tokenOut then
          [Transaction.unwrap config sender quote.route.amountOut] else []) := by
  rw [transactions, (structured_iff config.contracts quote).mpr structured]
  rfl

theorem refused_intolerable (sender : Address) (intolerable : ¬ quote.tolerance.Tolerable) :
    quote.transactions config sender =
      .error (.invalidAmount (.tolerance quote.tolerance)) := by
  obtain ⟨first, later, listed, several⟩ := amounts_of_structured structured
  rw [transactions_of_bounds structured, Quote.bounds, listed,
    SwapBounds.compute_refused quote.type first several intolerable]
  rfl

section Tolerable
variable (tolerable : quote.tolerance.Tolerable)
include tolerable

theorem bounds_charge : ∃ first bounds, quote.route.amounts.head? = some first ∧
    SwapBounds.compute quote.type quote.route.amounts quote.tolerance = .ok bounds ∧
      bounds.amountIn = charged quote.type quote.tolerance.value first := by
  obtain ⟨first, later, listed, several⟩ := amounts_of_structured structured
  rw [listed]
  cases quote.type with
  | fixedInput =>
    have ends := List.getLast?_eq_some_getLast several
    exact ⟨first, _, rfl, SwapBounds.compute_input_ok first ends tolerable, rfl⟩
  | fixedOutput =>
    have bounded := (tolerable_iff quote.tolerance).mp tolerable
    have hops := List.length_pos_iff.mpr several
    have whole : ((later.length : ℚ) / later.length) = 1 :=
      div_self (Nat.cast_ne_zero.mpr (Nat.ne_of_gt hops))
    refine ⟨first, _, rfl, SwapBounds.compute_output_ok first several bounded, ?_⟩
    rw [SwapBounds.ofOutput, SwapBounds.raised_eq_floor tolerable hops, whole, mul_one]
    rfl

theorem refused_unpaid (sender : Address) (unpaid : ¬ quote.Paid) :
    ∃ fault, quote.transactions config sender = .error (.invalidRoute fault) ∧ ¬ fault.Late := by
  obtain ⟨first, bounds, starts, computed, charges⟩ := bounds_charge structured tolerable
  have apart : bounds.amountIn ≠ quote.amountIn := fun same =>
    unpaid ⟨first, starts, same.symm.trans charges⟩
  refine ⟨.amountMismatch quote.amountIn bounds.amountIn, ?_, by rintro ⟨⟩⟩
  rw [transactions_of_bounds structured, Quote.bounds, computed]
  simp only [Except.bind, if_neg apart]

theorem built_of_paid (sender : Address) (paid : quote.Paid) :
    ∃ txs, quote.transactions config sender = .ok txs := by
  obtain ⟨first, bounds, starts, computed, charges⟩ := bounds_charge structured tolerable
  obtain ⟨asked, starts', same⟩ := paid
  cases starts.symm.trans starts'
  have bounded := (bounds_ok_iff quote bounds).mpr ⟨computed, charges.trans same.symm⟩
  obtain ⟨arguments, written⟩ := Transaction.hop_arguments_ok quote.type
    quote.route.route.tokens.tail bounds.limits structured.contracts
  rw [transactions_of_bounds structured, bounded, Except.bind, Transaction.swap,
    Transaction.swapCall, written]
  exact ⟨_, rfl⟩

end Tolerable
end Structured

/-- Exactly the well-formed quotes are built. Any other one is refused, for its tolerance if that
is what fails first and for its route otherwise, and nothing is read out of range either way. -/
theorem built_exactly (config : RouterConfig) (sender : Address) (quote : Quote) :
    ((∃ txs, quote.transactions config sender = .ok txs) ↔
      quote.Structured config.contracts ∧ quote.tolerance.Tolerable ∧ quote.Paid) ∧
    (quote.Structured config.contracts → ¬ quote.tolerance.Tolerable →
      quote.transactions config sender =
        .error (.invalidAmount (.tolerance quote.tolerance))) ∧
    (¬ quote.Structured config.contracts ∨ quote.tolerance.Tolerable ∧ ¬ quote.Paid →
      ∃ fault, quote.transactions config sender = .error (.invalidRoute fault) ∧ ¬ fault.Late) ∧
    Checked.Survives (Checked.transactions config sender quote) ∧
    Checked.transactions config sender quote =
      Checked.lift (quote.transactions config sender) := by
  have agree := Checked.transactions_agree config sender quote
  have unrouted : ¬ quote.Structured config.contracts ∨ quote.tolerance.Tolerable ∧ ¬ quote.Paid →
      ∃ fault, quote.transactions config sender = .error (.invalidRoute fault) ∧ ¬ fault.Late := by
    intro failed
    by_cases structured : quote.Structured config.contracts
    · obtain ⟨tolerable, unpaid⟩ := failed.resolve_left (not_not_intro structured)
      exact refused_unpaid structured tolerable sender unpaid
    · exact refused_unstructured config quote sender structured
  have untolerated (structured : quote.Structured config.contracts) :=
    refused_intolerable structured sender
  refine ⟨⟨?_, ?_⟩, untolerated, unrouted, agree ▸ Checked.survives_lift _, agree⟩
  · rintro ⟨txs, built⟩
    have structured : quote.Structured config.contracts := by
      by_contra apart
      obtain ⟨fault, refused, _⟩ := unrouted (Or.inl apart)
      cases built.symm.trans refused
    have tolerable : quote.tolerance.Tolerable := by
      by_contra intolerable
      cases built.symm.trans (untolerated structured intolerable)
    have paid : quote.Paid := by
      by_contra unpaid
      obtain ⟨fault, refused, _⟩ := unrouted (Or.inr ⟨tolerable, unpaid⟩)
      cases built.symm.trans refused
    exact ⟨structured, tolerable, paid⟩
  · rintro ⟨structured, tolerable, paid⟩
    exact built_of_paid structured tolerable sender paid

-- The number of the tolerance is that of a plain zero; with its minus sign it is not tolerable.
theorem signed_zero_refused :
    Sample.minusZero.Structured ContractsConfig.default ∧
      (0 ≤ Sample.minusZero.tolerance.value ∧ Sample.minusZero.tolerance.value < 1) ∧
      Sample.minusZero.Paid ∧
      ¬ ∃ txs, Sample.minusZero.transactions .default ⟨"erd1sender"⟩ = .ok txs := by
  have structured : Sample.minusZero.Structured ContractsConfig.default :=
    (structured_iff _ _).mp (by decide +kernel)
  have zero : Sample.minusZero.tolerance.value = 0 := by
    rw [Decimal.value]
    exact zero_div _
  have intolerable : ¬ Sample.minusZero.tolerance.Tolerable := fun signed => by cases signed.1
  have refused : Sample.minusZero.transactions .default ⟨"erd1sender"⟩ =
      .error (.invalidAmount (.tolerance Sample.minusZero.tolerance)) :=
    refused_intolerable structured ⟨"erd1sender"⟩ intolerable
  refine ⟨structured, by rw [zero]; exact ⟨le_refl 0, one_pos⟩, ⟨1, rfl, ?_⟩, ?_⟩
  · change 1 = ⌊((1 : ℕ) : ℚ) * (1 + Sample.minusZero.tolerance.value)⌋₊
    rw [zero, add_zero, mul_one, Nat.floor_natCast]
  · rintro ⟨txs, built⟩
    cases built.symm.trans refused

end Quote
end PoolRouting
