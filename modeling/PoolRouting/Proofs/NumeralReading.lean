import PoolRouting.Decimal.Scientific
import PoolRouting.Decimal.Text
import PoolRouting.Text.Blank

/-!
Written numerals read back. An amount is written in plain digits, so nothing is trimmed, skipped or
refused when it is read. A decimal is written with as many fraction digits as its scale says; every
digit fits on the way, so nothing is rounded, and all that reading can change is the sign of a zero.
-/

namespace PoolRouting

/-- Further digits never make a numeral smaller. -/
theorem le_of_digit_chars (value : Nat) (digits : List Char) :
    value ≤ Nat.ofDigitChars 10 digits value := by
  induction digits generalizing value with
  | nil => exact Nat.le_refl value
  | cons c digits ih =>
    rw [Nat.ofDigitChars_cons]
    have later := ih (10 * value + (c.toNat - '0'.toNat))
    omega

theorem digit_range {c : Char} (digit : c.isDigit = true) : 48 ≤ c.toNat ∧ c.toNat ≤ 57 := by
  simp only [Char.isDigit, Bool.and_eq_true, decide_eq_true_eq, ge_iff_le,
    UInt32.le_iff_toNat_le] at digit
  exact digit

theorem digit_ne {c mark : Char} (digit : c.isDigit = true) (other : mark.isDigit = false) :
    c ≠ mark := by
  rintro rfl
  rw [digit] at other
  cases other

theorem is_digit_to_digits (value : Nat) : ∀ c ∈ Nat.toDigits 10 value, c.isDigit = true :=
  fun _ => Nat.isDigit_of_mem_toDigits (by decide) (by decide)

namespace Text

theorem is_blank_digit {c : Char} (digit : c.isDigit = true) : isBlank c = false := by
  obtain ⟨least, most⟩ := digit_range digit
  simp [isBlank, blankRanges]
  omega

theorem trim_blanks_solid {text : List Char} (solid : ∀ c ∈ text, isBlank c = false) :
    trimBlanks text = text := by
  have kept : ∀ text : List Char, (∀ c ∈ text, isBlank c = false) → dropBlanks text = text := by
    intro text solid
    cases text with
    | nil => rfl
    | cons c rest => simp [dropBlanks, solid]
  rw [trimBlanks, kept text solid, kept text.reverse (by simpa using solid), List.reverse_reverse]

end Text

namespace Amount

theorem digits_of_digit_chars (value : Nat) (digits : List Char)
    (plain : ∀ c ∈ digits, c.isDigit = true) :
    digits? value digits = some (Nat.ofDigitChars 10 digits value) := by
  induction digits generalizing value with
  | nil => rfl
  | cons c digits ih =>
    obtain ⟨digit, later⟩ := List.forall_mem_cons.mp plain
    have letter : c ≠ '_' := digit_ne digit (by decide)
    rw [digits?, extend?, if_neg letter, if_pos digit, Option.bind_some, ih _ later,
      Nat.ofDigitChars_cons, Nat.mul_comm]

/-- An amount is read back from its numeral, blanks trimmed or not. -/
theorem of_chars_text (amount : Amount) :
    ofChars? (Text.trimBlanks (text amount).toList) = some amount := by
  have plain := is_digit_to_digits amount
  rw [text, String.toList_ofList,
    Text.trim_blanks_solid fun c member => Text.is_blank_digit (plain c member)]
  have value : digits? 0 (Nat.toDigits 10 amount) = some amount := by
    rw [digits_of_digit_chars 0 _ plain, Nat.ofDigitChars_ten_toDigits]
  cases written : Nat.toDigits 10 amount with
  | nil => exact (Nat.toDigits_ne_nil written).elim
  | cons c digits =>
    rw [written] at plain value
    have digit := (List.forall_mem_cons.mp plain).1
    have unsigned : c ≠ '+' := digit_ne digit (by decide)
    have letter : c ≠ '_' := digit_ne digit (by decide)
    simpa [ofChars?, unsigned? , unsigned, letter] using value

end Amount

namespace Decimal

/-- The same decimal, without the minus sign if it is a zero. -/
def cleared (value : Decimal) : Decimal :=
  { value with negative := value.negative && value.mantissa != 0 }

theorem cleared_of_signed {value : Decimal} (signed : value.negative = true → value.mantissa ≠ 0) :
    value.cleared = value := by
  obtain ⟨negative, mantissa, scale, fits, places⟩ := value
  cases negative <;> simp_all [cleared]

/-- Digits before the point leave nothing but a larger mantissa behind. -/
theorem read_whole (negative : Bool) (before : Digits) (digits rest : List Char)
    (plain : ∀ c ∈ digits, c.isDigit = true) (whole : before.point = false)
    (fits : Nat.ofDigitChars 10 digits before.mantissa ≤ maxMantissa) :
    readDigits negative before (digits ++ rest) =
      readDigits negative
        { before with
          mantissa := Nat.ofDigitChars 10 digits before.mantissa
          started := before.started || !digits.isEmpty
          mantissa_le := fits } rest := by
  induction digits generalizing before with
  | nil => simp [Nat.ofDigitChars_nil]
  | cons c digits ih =>
    obtain ⟨digit, later⟩ := List.forall_mem_cons.mp plain
    have next : Nat.ofDigitChars 10 digits (before.mantissa * 10 + (c.toNat - '0'.toNat)) ≤
        maxMantissa := by
      rwa [Nat.mul_comm, ← Nat.ofDigitChars_cons]
    have room := Nat.le_trans (le_of_digit_chars _ digits) next
    rw [List.cons_append, readDigits, if_pos digit]
    simp only [whole, Bool.false_eq_true, if_false, dif_pos room]
    rw [ih _ later rfl next]
    simp [Nat.ofDigitChars_cons, Nat.mul_comm]

/-- Digits behind the point take one place each and end the numeral. -/
theorem read_fraction (negative : Bool) (before : Digits) (digits : List Char)
    (plain : ∀ c ∈ digits, c.isDigit = true) (point : before.point = true)
    (started : before.started = true)
    (fits : Nat.ofDigitChars 10 digits before.mantissa ≤ maxMantissa)
    (places : before.scale + digits.length ≤ maxScale) :
    readDigits negative before digits =
      .ok ⟨negative && Nat.ofDigitChars 10 digits before.mantissa != 0,
        Nat.ofDigitChars 10 digits before.mantissa, before.scale + digits.length, fits, places⟩ := by
  induction digits generalizing before with
  | nil => simp [readDigits, Digits.close, started]
  | cons c digits ih =>
    obtain ⟨digit, later⟩ := List.forall_mem_cons.mp plain
    have next : Nat.ofDigitChars 10 digits (before.mantissa * 10 + (c.toNat - '0'.toNat)) ≤
        maxMantissa := by
      rwa [Nat.mul_comm, ← Nat.ofDigitChars_cons]
    have place : before.scale + 1 + digits.length ≤ maxScale := by
      rw [List.length_cons] at places
      omega
    have room : before.mantissa * 10 + (c.toNat - '0'.toNat) ≤ maxMantissa ∧
        before.scale < maxScale :=
      ⟨Nat.le_trans (le_of_digit_chars _ digits) next, by omega⟩
    rw [readDigits, if_pos digit]
    simp only [point, if_true, dif_pos room]
    rw [ih _ later rfl rfl next place]
    simp [Nat.ofDigitChars_cons, Nat.mul_comm, Nat.add_comm, Nat.add_left_comm]

/-- A value in digits, with zeros in front, cut before the last `places` of them. -/
structure Cut (places value : Nat) (whole behind : List Char) : Prop where
  joined : whole ++ behind = padded (places + 1) (Nat.toDigits 10 value)
  counted : behind.length = places
  begins : whole ≠ []
  plain : ∀ c ∈ whole ++ behind, c.isDigit = true
  denotes : Nat.ofDigitChars 10 (whole ++ behind) 0 = value

theorem cut_padded (places value : Nat) :
    let all := padded (places + 1) (Nat.toDigits 10 value)
    Cut places value (all.take (all.length - places)) (all.drop (all.length - places)) := by
  intro all
  have room : places + 1 ≤ all.length := by
    simp [all, padded]
    omega
  exact
    { joined := List.take_append_drop _ _
      counted := by
        rw [List.length_drop]
        omega
      begins := by
        intro empty
        have missing := congrArg List.length empty
        rw [List.length_take, List.length_nil] at missing
        omega
      plain := by
        rw [List.take_append_drop]
        intro c member
        rcases List.mem_append.mp member with front | digit
        · obtain rfl := (List.mem_replicate.mp front).2
          decide
        · exact is_digit_to_digits _ c digit
      denotes := by
        rw [List.take_append_drop]
        simp only [all, padded]
        rw [Nat.ofDigitChars_append, Nat.ofDigitChars_replicate_zero, Nat.mul_zero,
          Nat.ofDigitChars_ten_toDigits] }

/-- The digits of a numeral, before and behind its point. -/
structure Written (value : Decimal) (whole fraction : List Char) : Prop where
  text : pointed value.scale (Nat.toDigits 10 value.mantissa) =
    if value.scale = 0 then whole else whole ++ '.' :: fraction
  plain : ∀ c ∈ whole ++ fraction, c.isDigit = true
  begins : whole ≠ []
  places : fraction.length = value.scale
  mantissa : Nat.ofDigitChars 10 (whole ++ fraction) 0 = value.mantissa

theorem written_pointed (value : Decimal) : ∃ whole fraction, Written value whole fraction := by
  have cut := cut_padded value.scale value.mantissa
  refine ⟨_, _, ?_, cut.plain, cut.begins, cut.counted, cut.denotes⟩
  by_cases unscaled : value.scale = 0 <;> simp [pointed, unscaled]

theorem read_pointed (negative : Bool) (value : Decimal) :
    readDigits negative .empty (pointed value.scale (Nat.toDigits 10 value.mantissa)) =
      .ok { value with negative := negative && value.mantissa != 0 } := by
  obtain ⟨whole, fraction, written⟩ := written_pointed value
  obtain ⟨plainWhole, plainFraction⟩ := List.forall_mem_append.mp written.plain
  have mantissa := written.mantissa
  rw [Nat.ofDigitChars_append] at mantissa
  have fits : Nat.ofDigitChars 10 fraction (Nat.ofDigitChars 10 whole 0) ≤ maxMantissa :=
    mantissa ▸ value.mantissa_le
  have wholeFits := Nat.le_trans (le_of_digit_chars _ fraction) fits
  have started : (!whole.isEmpty) = true := by simpa using written.begins
  rw [written.text]
  by_cases unscaled : value.scale = 0
  · obtain rfl : fraction = [] := List.eq_nil_of_length_eq_zero (written.places.trans unscaled)
    have read := read_whole negative .empty whole [] plainWhole rfl wholeFits
    rw [List.append_nil] at read
    rw [if_pos unscaled, read, readDigits]
    simp_all [Digits.close, Digits.empty]
  · rw [if_neg unscaled, read_whole negative .empty whole _ plainWhole rfl wholeFits, readDigits,
      if_neg (by decide), if_pos ⟨rfl, rfl⟩, read_fraction negative _ fraction plainFraction rfl
        (by simpa [Digits.empty] using started) fits
        (by simpa [Digits.empty, written.places, maxScale] using value.scale_le)]
    simp [Digits.empty, mantissa, written.places]

/-- Without a sign in front the first character is a digit and is read as one. -/
theorem plain_pointed (value : Decimal) :
    plain (pointed value.scale (Nat.toDigits 10 value.mantissa)) =
      readDigits false .empty (pointed value.scale (Nat.toDigits 10 value.mantissa)) := by
  obtain ⟨whole, fraction, written⟩ := written_pointed value
  cases whole with
  | nil => exact (written.begins rfl).elim
  | cons c whole =>
    have digit := written.plain c List.mem_cons_self
    have minus : c ≠ '-' := digit_ne digit (by decide)
    have plus : c ≠ '+' := digit_ne digit (by decide)
    rw [written.text]
    by_cases unscaled : value.scale = 0 <;> simp [unscaled, plain, minus, plus]

/-- A written decimal is read without an error and without rounding. -/
theorem plain_chars (value : Decimal) : plain value.chars = .ok value.cleared := by
  have read := read_pointed value.negative value
  cases minus : value.negative with
  | true => simpa [chars, minus, plain, cleared] using read
  | false => simpa [chars, minus, plain_pointed, cleared] using read

theorem of_text_text (value : Decimal) : ofText? value.text = some value.cleared := by
  rw [ofText?, text, String.toList_ofList, read, plain_chars]
  rfl

end Decimal
end PoolRouting
