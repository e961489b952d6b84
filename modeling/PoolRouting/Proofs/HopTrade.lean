import Mathlib.Tactic.Ring
import PoolRouting.Hop

/-!
One inequality decides a hop in both directions. A sale brings at least what is wanted exactly when
the amount to pay for it is at most what is sold: the output rounded down and the input rounded up
are adjoint, and they fail together.
-/

namespace PoolRouting

theorem ratio_bounds {fee : Decimal} {ratio : FeeRatio}
    (taken : FeeRatio.ofDecimal? fee = some ratio) :
    0 < ratio.keep ∧ ratio.keep ≤ ratio.denominator := by
  obtain ⟨fraction, _, kept⟩ := Option.bind_eq_some_iff.mp taken
  split at kept
  case isTrue => cases kept
  case isFalse below =>
    cases kept
    exact ⟨Nat.sub_pos_of_lt (Nat.lt_of_not_le below), Nat.sub_le _ _⟩

theorem denominator_pos {fee : Decimal} {ratio : FeeRatio}
    (taken : FeeRatio.ofDecimal? fee = some ratio) : 0 < ratio.denominator := by
  obtain ⟨keeps, within⟩ := ratio_bounds taken
  exact Nat.lt_of_lt_of_le keeps within

namespace Hop

/-- What is sold, less the fee, moves the pool far enough to release what is wanted. -/
def Releases (reserves : Reserves) (fee : FeeRatio) (sold wanted : Amount) : Prop :=
  reserves.input ≠ 0 ∧ wanted < reserves.output ∧
    reserves.input * wanted * fee.denominator ≤ sold * ((reserves.output - wanted) * fee.keep)

theorem divide_up_le_iff (numerator denominator bound : Nat) (positive : 0 < denominator) :
    divideUp numerator denominator ≤ bound ↔ numerator ≤ bound * denominator := by
  rw [divideUp, ← Nat.lt_succ_iff, Nat.div_lt_iff_lt_mul positive, Nat.succ_mul]
  omega

theorem not_releases_nothing (reserves : Reserves) (fee : FeeRatio) (wanted : Amount)
    (scaled : 0 < fee.denominator) (positive : 0 < wanted) : ¬ Releases reserves fee 0 wanted := by
  rintro ⟨filled, _, covered⟩
  have owed : 0 < reserves.input * wanted * fee.denominator :=
    Nat.mul_pos (Nat.mul_pos (Nat.pos_of_ne_zero filled) positive) scaled
  rw [Nat.zero_mul] at covered
  exact Nat.not_le_of_lt owed covered

-- With `left` units remaining in the reserve, `wanted * kept` cancels on both sides of the
-- quotient.
theorem quotient_covers_iff (depth reserve scale kept wanted : Nat) (deep : 0 < depth * scale)
    (positive : 0 < wanted) :
    wanted ≤ reserve * kept / (depth * scale + kept) ↔
      wanted < reserve ∧ depth * wanted * scale ≤ (reserve - wanted) * kept := by
  rw [Nat.le_div_iff_mul_le (by omega), Nat.mul_add]
  have owed : depth * wanted * scale = wanted * (depth * scale) := by ring
  rw [owed]
  by_cases within : wanted < reserve
  · obtain ⟨left, rfl⟩ := Nat.exists_eq_add_of_le (Nat.le_of_lt within)
    rw [Nat.add_sub_cancel_left, Nat.add_mul]
    omega
  · have missing : reserve * kept ≤ wanted * kept := Nat.mul_le_mul_right kept (by omega)
    have due : 0 < wanted * (depth * scale) := Nat.mul_pos positive deep
    omega

theorem output_lt_reserve (depth reserve scale kept : Nat) (deep : 0 < depth * scale)
    (filled : 0 < reserve) : reserve * kept / (depth * scale + kept) < reserve := by
  rw [Nat.div_lt_iff_lt_mul (by omega)]
  exact Nat.mul_lt_mul_of_pos_left (by omega) filled

theorem output_covers_iff (reserves : Reserves) (fee : FeeRatio) (sold wanted : Amount)
    (scaled : 0 < fee.denominator) (positive : 0 < wanted) :
    (∃ bought, output reserves fee sold = .ok bought ∧ wanted ≤ bought) ↔
      Releases reserves fee sold wanted := by
  unfold output
  by_cases empty : reserves.input = 0 ∨ reserves.output = 0
  · rw [if_pos empty]
    constructor
    · rintro ⟨bought, answered, _⟩
      cases answered
    · rintro ⟨filled, within, _⟩
      rcases empty with empty | empty
      · exact (filled empty).elim
      · exact (Nat.not_lt_zero wanted (empty ▸ within)).elim
  · obtain ⟨filledIn, filledOut⟩ := not_or.mp empty
    rw [if_neg empty]
    by_cases nothing : sold = 0
    · subst nothing
      constructor
      · rintro ⟨bought, same, covered⟩
        cases same
        exact (Nat.not_le_of_lt positive covered).elim
      · intro released
        exact (not_releases_nothing reserves fee wanted scaled positive released).elim
    · have deep : 0 < reserves.input * fee.denominator :=
        Nat.mul_pos (Nat.pos_of_ne_zero filledIn) scaled
      have kept : sold * ((reserves.output - wanted) * fee.keep) =
          (reserves.output - wanted) * (sold * fee.keep) := by ring
      have covers := quotient_covers_iff reserves.input reserves.output fee.denominator
        (sold * fee.keep) wanted deep positive
      have below := output_lt_reserve reserves.input reserves.output fee.denominator
        (sold * fee.keep) deep (Nat.pos_of_ne_zero filledOut)
      dsimp only
      rw [if_neg nothing, if_neg (Nat.not_le_of_lt below), Releases, kept]
      simp only [Except.ok.injEq, exists_eq_left', covers, ne_eq, filledIn, not_false_eq_true,
        true_and]

theorem input_covers_iff (reserves : Reserves) (fee : FeeRatio) (sold wanted : Amount)
    (scaled : 0 < fee.denominator) :
    (∃ needed, input reserves fee wanted = .ok needed ∧ needed ≤ sold) ↔
      Releases reserves fee sold wanted := by
  unfold input
  by_cases short : reserves.input = 0 ∨ reserves.output ≤ wanted
  · rw [if_pos short]
    constructor
    · rintro ⟨needed, answered, _⟩
      cases answered
    · rintro ⟨filled, within, _⟩
      rcases short with empty | beyond
      · exact (filled empty).elim
      · exact (Nat.not_lt_of_le beyond within).elim
  · obtain ⟨filled, within⟩ := not_or.mp short
    have within := Nat.lt_of_not_le within
    rw [if_neg short]
    by_cases nothing : wanted = 0
    · subst nothing
      simp [Releases, filled, within]
    rw [if_neg nothing]
    by_cases free : fee.keep = 0
    · have owed : 0 < reserves.input * wanted * fee.denominator :=
        Nat.mul_pos (Nat.mul_pos (Nat.pos_of_ne_zero filled) (Nat.pos_of_ne_zero nothing)) scaled
      rw [if_pos free]
      constructor
      · rintro ⟨needed, answered, _⟩
        cases answered
      · rintro ⟨_, _, covered⟩
        rw [free, Nat.mul_zero, Nat.mul_zero] at covered
        exact (Nat.not_le_of_lt owed covered).elim
    · have positive : 0 < (reserves.output - wanted) * fee.keep :=
        Nat.mul_pos (Nat.sub_pos_of_lt within) (Nat.pos_of_ne_zero free)
      rw [if_neg free]
      simp only [Except.ok.injEq, exists_eq_left', divide_up_le_iff _ _ _ positive, Releases,
        ne_eq, filled, not_false_eq_true, within, true_and]

/-- The least sufficient input of a hop, as an adjunction. -/
theorem input_le_iff_le_output (reserves : Reserves) (fee : FeeRatio) (sold wanted : Amount)
    (scaled : 0 < fee.denominator) (positive : 0 < wanted) :
    (∃ needed, input reserves fee wanted = .ok needed ∧ needed ≤ sold) ↔
      ∃ bought, output reserves fee sold = .ok bought ∧ wanted ≤ bought := by
  rw [input_covers_iff reserves fee sold wanted scaled,
    output_covers_iff reserves fee sold wanted scaled positive]

theorem input_pos {reserves : Reserves} {fee : FeeRatio} {wanted needed : Amount}
    (scaled : 0 < fee.denominator) (positive : 0 < wanted)
    (paid : input reserves fee wanted = .ok needed) : 0 < needed := by
  apply Nat.pos_of_ne_zero
  rintro rfl
  have released := (input_covers_iff reserves fee 0 wanted scaled).mp ⟨0, paid, Nat.le_refl 0⟩
  exact not_releases_nothing reserves fee wanted scaled positive released

end Hop
end PoolRouting
