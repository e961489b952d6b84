import PoolRouting.Proofs.DecimalScale
import PoolRouting.Proofs.SessionLookup

/-!
Two questions that share a key differ at most in the scale of their tolerance. They are refused
alike, and their quotes differ in nothing but that scale, so a stored quote may answer both. Every
computation reads the pools once, whatever it comes to.
-/

namespace PoolRouting

namespace Decimal

theorem place_value_split {scale : Nat} (fits : scale ≤ maxScale) :
    placeValue (maxScale - scale) * placeValue scale = placeValue maxScale := by
  unfold placeValue
  rw [Nat.pow_eq, Nat.pow_eq, Nat.pow_eq, ← Nat.pow_add, Nat.sub_add_cancel fits]

theorem at_max_scale_eq_iff (left right : Decimal) :
    left.atMaxScale = right.atMaxScale ↔ left.sameValue right = true := by
  have splitLeft : ((placeValue (maxScale - left.scale) : Nat) : Int) * placeValue left.scale =
      placeValue maxScale := by exact_mod_cast place_value_split left.scale_le
  have splitRight : ((placeValue (maxScale - right.scale) : Nat) : Int) * placeValue right.scale =
      placeValue maxScale := by exact_mod_cast place_value_split right.scale_le
  have places : ((placeValue left.scale : Nat) : Int) * placeValue right.scale ≠ 0 := by
    have first := place_value_pos left.scale
    have second := place_value_pos right.scale
    exact mul_ne_zero (by omega) (by omega)
  have whole : ((placeValue maxScale : Nat) : Int) ≠ 0 := by
    have positive := place_value_pos maxScale
    omega
  rw [same_value_iff, atMaxScale, atMaxScale]
  generalize ((placeValue (maxScale - left.scale) : Nat) : Int) = shortLeft at *
  generalize ((placeValue (maxScale - right.scale) : Nat) : Int) = shortRight at *
  generalize ((placeValue left.scale : Nat) : Int) = longLeft at *
  generalize ((placeValue right.scale : Nat) : Int) = longRight at *
  generalize ((placeValue maxScale : Nat) : Int) = all at *
  -- Both equations are one, multiplied by the places of the other side.
  have scaled : left.signed * shortLeft * (longLeft * longRight) =
      all * (left.signed * longRight) := by rw [← splitLeft]; ring
  have other : right.signed * shortRight * (longLeft * longRight) =
      all * (right.signed * longLeft) := by rw [← splitRight]; ring
  constructor
  · intro same
    rw [same, other] at scaled
    exact (mul_left_cancel₀ whole scaled).symm
  · intro same
    rw [same, ← other] at scaled
    exact mul_right_cancel₀ places scaled

end Decimal

/-- The same question, tolerances compared by value. -/
def Inquiry.repeats (one two : Inquiry) : Bool :=
  decide (one.tokenIn = two.tokenIn) && decide (one.tokenOut = two.tokenOut) &&
    decide (one.direction = two.direction) && one.tolerance.sameValue two.tolerance

theorem repeats_iff (one two : Inquiry) : one.repeats two = true ↔ one.key = two.key := by
  simp only [Inquiry.repeats, Inquiry.key, Bool.and_eq_true, decide_eq_true_eq, QuoteKey.mk.injEq,
    Decimal.at_max_scale_eq_iff, and_assoc]

namespace Quote

/-- The same refusal, or quotes that differ at most in the scale of the tolerance. -/
def Agrees : Except RouterError Quote → Except RouterError Quote → Prop :=
  Matches fun quote other => ∃ tolerance : Decimal,
    tolerance.sameValue quote.tolerance = true ∧ other = { quote with tolerance := tolerance }

theorem agrees_self (outcome : Except RouterError Quote) : Agrees outcome outcome := by
  refine matches_self (fun quote => ⟨quote.tolerance, ?_, rfl⟩) outcome
  exact (Decimal.same_value_iff _ _).mpr rfl

section Agreement
variable {inquiry : Inquiry} {tolerance : Decimal}

-- The tolerance is used only once a route is chosen.
theorem assemble_agrees (config : RouterConfig) (graph : LiquidityGraph) (facts : PairFacts)
    (bounded : validTolerance inquiry.tolerance = true) (valid : validTolerance tolerance = true)
    (level : tolerance.sameValue inquiry.tolerance = true) :
    Agrees (assemble config inquiry graph facts)
      (assemble config { inquiry with tolerance := tolerance } graph facts) := by
  let direction := inquiry.direction.getD ⟨.fixedInput, facts.tokenIn.oneUnit⟩
  have paid : ∀ route, Matches Eq (transferred direction.type route inquiry.tolerance)
      (transferred direction.type route tolerance) := by
    intro route
    cases direction.type with
    | fixedInput => exact matches_self (fun _ => rfl) _
    | fixedOutput =>
      rw [transferred, transferred,
        max_amount_in_rescaled route.amountIn bounded (rescales_of_valid bounded valid level)]
      exact matches_self (fun _ => rfl) _
  refine bind_matches (matches_self (fun _ => rfl) (bestRoute config inquiry graph direction)) ?_
  rintro route _ rfl
  refine map_matches (paid route) ?_
  rintro amountIn _ rfl
  exact ⟨tolerance, level, rfl⟩

theorem rescaled_agrees (config : RouterConfig) (ledger : Ledger)
    (bounded : validTolerance inquiry.tolerance = true) (valid : validTolerance tolerance = true)
    (level : tolerance.sameValue inquiry.tolerance = true) (early late : Reads) :
    Agrees ((compute config ledger inquiry).answer early)
      ((compute config ledger { inquiry with tolerance := tolerance }).answer late) := by
  rw [compute_answer, compute_answer]
  refine bind_matches (matches_self (fun _ => rfl) _) ?_
  rintro pools _ rfl
  refine bind_matches (matches_self (fun _ => rfl) (market config.contracts inquiry pools)) ?_
  rintro graph _ rfl
  refine bind_matches (matches_self (fun _ => rfl) (pairFacts ledger _ _)) ?_
  rintro facts _ rfl
  exact assemble_agrees config graph facts bounded valid level

theorem answer_agrees (config : RouterConfig) (ledger : Ledger) {one two : Inquiry}
    (checkedOne : one.check = .ok ()) (checkedTwo : two.check = .ok ())
    (repeated : two.repeats one = true) (early late : Reads) :
    Agrees ((compute config ledger one).answer early) ((compute config ledger two).answer late) := by
  have bounded := ((inquiry_check_ok_iff one).mp checkedOne).2
  have valid := ((inquiry_check_ok_iff two).mp checkedTwo).2
  simp only [Inquiry.repeats, Bool.and_eq_true, decide_eq_true_eq] at repeated
  obtain ⟨⟨⟨tokenIn, tokenOut⟩, direction⟩, level⟩ := repeated
  have same : two = { one with tolerance := two.tolerance } := by
    rw [← tokenIn, ← tokenOut, ← direction]
  rw [same]
  exact rescaled_agrees config ledger bounded valid level early late

end Agreement
end Quote

namespace Consultation
variable {α β : Type}

/-- The computation leaves the count of pool reads alone. -/
def KeepsPools (consultation : Consultation α) : Prop :=
  ∀ reads, (consultation.readsAfter reads).pools = reads.pools

theorem reads_after_bind (first : Consultation α) (next : α → Consultation β) (reads : Reads) :
    (first >>= next).readsAfter reads =
      match first.answer reads with
      | .ok value => (next value).readsAfter (first.readsAfter reads)
      | .error _ => first.readsAfter reads := by
  rw [readsAfter, readsAfter, answer, ExceptT.run_bind, StateT.run_bind]
  rcases first.run.run reads with ⟨outcome, later⟩
  cases outcome <;> rfl

theorem bind_keeps {first : Consultation α} {next : α → Consultation β} (keeps : first.KeepsPools)
    (later : ∀ value, (next value).KeepsPools) : (first >>= next).KeepsPools := by
  intro reads
  rw [reads_after_bind]
  cases first.answer reads with
  | ok value => exact (later value _).trans (keeps reads)
  | error error => exact keeps reads

theorem lift_keeps (outcome : Except RouterError α) :
    (liftM outcome : Consultation α).KeepsPools := by
  intro reads
  cases outcome <;> rfl

theorem read_tokens_keeps (value : Except ProviderError α) : (readTokens value).KeepsPools := by
  intro reads
  cases value <;> rfl

theorem read_prices_keeps (value : Except ProviderError α) : (readPrices value).KeepsPools := by
  intro reads
  cases value <;> rfl

end Consultation

namespace Quote

theorem read_facts_keeps (ledger : Ledger) (source target : TokenId) :
    (readFacts ledger source target).KeepsPools := by
  refine Consultation.bind_keeps (Consultation.read_tokens_keeps _) fun _ => ?_
  refine Consultation.bind_keeps (Consultation.read_tokens_keeps _) fun _ => ?_
  refine Consultation.bind_keeps (Consultation.read_prices_keeps _) fun _ => ?_
  refine Consultation.bind_keeps (Consultation.read_prices_keeps _) fun _ => ?_
  refine Consultation.bind_keeps (Consultation.lift_keeps _) fun _ => ?_
  refine Consultation.bind_keeps (Consultation.lift_keeps _) fun _ => ?_
  exact fun _ => rfl

theorem pools_read_once (config : RouterConfig) (ledger : Ledger) (inquiry : Inquiry)
    (reads : Reads) :
    ((compute config ledger inquiry).readsAfter reads).pools = reads.pools + 1 := by
  have counted : ((Consultation.readPools ledger.pools).readsAfter reads).pools =
      reads.pools + 1 := by
    cases ledger.pools <;> rfl
  rw [compute, Consultation.reads_after_bind]
  cases (Consultation.readPools ledger.pools).answer reads with
  | error error => exact counted
  | ok pools =>
    refine Eq.trans (Consultation.bind_keeps (Consultation.lift_keeps _) (fun graph => ?_) _) counted
    refine Consultation.bind_keeps (read_facts_keeps ledger _ _) fun facts => ?_
    exact Consultation.lift_keeps _

end Quote
end PoolRouting
