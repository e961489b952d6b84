import PoolRouting.PriceGuard
import PoolRouting.Proofs.CheckedSteps

/-!
Rates, their written form and the price guard with every partial step checked. Each is guarded where
it starts: nothing is divided by an amount of zero or compared with a price of zero, a numeral is
filled up before it is cut, and a percentage is built only while it fits a decimal.
-/

namespace PoolRouting
namespace Checked
variable {ε : Type}

def exchangeRate (sold bought : Amount) (decimals : Nat) : Checked ε Amount :=
  if sold = 0 then return 0 else divide (bought * placeValue decimals) sold

theorem exchange_rate_agrees (sold bought : Amount) (decimals : Nat) :
    (exchangeRate sold bought decimals : Checked ε Amount) =
      .ok (PoolRouting.exchangeRate sold bought decimals) := by
  unfold exchangeRate PoolRouting.exchangeRate
  by_cases nothing : sold = 0
  · rw [if_pos nothing, if_pos nothing]
    rfl
  · rw [if_neg nothing, if_neg nothing]
    exact divide_ok _ (Nat.pos_of_ne_zero nothing)

/-- A numeral with at least one digit before its last `decimals` digits. -/
def filled (digits : List Char) (decimals : Nat) : Checked ε (List Char) :=
  if digits.length ≤ decimals then do
    let lacking ← subtract decimals digits.length
    return List.replicate (lacking + 1) '0' ++ digits
  else return digits

def denominate (amount : Amount) (decimals : Nat) : Checked ε String :=
  let digits := Nat.toDigits 10 amount
  if decimals = 0 then return String.ofList digits
  else do
    let digits ← filled digits decimals
    let cut ← subtract digits.length decimals
    let (whole, fraction) ← splitAt digits cut
    let fraction := trimZeros fraction
    return String.ofList (if fraction.isEmpty then whole else whole ++ '.' :: fraction)

theorem filled_agrees (digits : List Char) (decimals : Nat) :
    (filled digits decimals : Checked ε (List Char)) =
      .ok (Decimal.padded (decimals + 1) digits) := by
  unfold filled Decimal.padded
  by_cases short : digits.length ≤ decimals
  · rw [if_pos short, subtract_ok short, Nat.succ_sub short]
    rfl
  · rw [if_neg short, Nat.sub_eq_zero_of_le (Nat.lt_of_not_le short)]
    rfl

theorem length_padded (width : Nat) (digits : List Char) :
    width ≤ (Decimal.padded width digits).length := by
  rw [Decimal.padded, List.length_append, List.length_replicate]
  omega

theorem denominate_agrees (amount : Amount) (decimals : Nat) :
    (denominate amount decimals : Checked ε String) =
      .ok (PoolRouting.denominate amount decimals) := by
  unfold denominate PoolRouting.denominate
  by_cases whole : decimals = 0
  · subst whole
    have enough : Decimal.padded 1 (Nat.toDigits 10 amount) = Nat.toDigits 10 amount := by
      rw [Decimal.padded, Nat.sub_eq_zero_of_le Nat.length_toDigits_pos]
      rfl
    rw [if_pos rfl, Nat.zero_add, enough]
    dsimp only [Nat.sub_zero]
    rw [List.drop_length, List.take_length]
    rfl
  · have room := length_padded (decimals + 1) (Nat.toDigits 10 amount)
    rw [if_neg whole, filled_agrees, ok_bind, subtract_ok (Nat.le_of_succ_le room), ok_bind,
      split_at_ok (Nat.sub_le _ _)]
    rfl

/-- The difference of two amounts, whichever is the larger. -/
def gap (paid reference : Nat) : Checked ε Nat :=
  if reference < paid then subtract paid reference else subtract reference paid

def percent (difference base : Nat) : Checked ε Decimal := do
  let mantissa ← divide (difference * 100 * placeValue PriceGuard.places) base
  if mantissa ≤ Decimal.maxMantissa then decimal false mantissa PriceGuard.places
  else return Decimal.largest

def deviation (sold bought : PricedAmount) : Checked ε (Option PriceDeviation) :=
  if sold.price.isZero || bought.price.isZero || sold.amount == 0 || bought.amount == 0 then
    return none
  else
    match sold.price.fraction?, bought.price.fraction? with
    | some priceIn, some priceOut => do
      let paid :=
        priceIn.numerator * sold.amount * placeValue bought.decimals * priceOut.denominator
      let reference :=
        priceOut.numerator * bought.amount * placeValue sold.decimals * priceIn.denominator
      let difference ← gap paid reference
      let tokenIn ← percent difference paid
      let tokenOut ← percent difference reference
      return some ⟨tokenIn, tokenOut⟩
    | _, _ => return none

def flagged (sold bought : PricedAmount) (allowed : Decimal) : Checked ε (Option Decimal) := do
  let deviation ← deviation sold bought
  return (deviation.map PriceDeviation.worst).filter fun worst =>
    (Decimal.order worst allowed).isGT

theorem percent_agrees (difference : Nat) {base : Nat} (positive : 0 < base) :
    (percent difference base : Checked ε Decimal) = .ok (PriceGuard.percent difference base) := by
  rw [percent, divide_ok _ positive, ok_bind, PriceGuard.percent]
  by_cases fits : difference * 100 * placeValue PriceGuard.places / base ≤ Decimal.maxMantissa
  · rw [if_pos fits, dif_pos fits]
    exact dif_pos ⟨fits, by decide⟩
  · rw [if_neg fits, dif_neg fits]
    rfl

theorem gap_agrees (paid reference : Nat) :
    (gap paid reference : Checked ε Nat) = .ok (max paid reference - min paid reference) := by
  unfold gap
  by_cases dearer : reference < paid
  · rw [if_pos dearer, subtract_ok (Nat.le_of_lt dearer), Nat.max_eq_left (Nat.le_of_lt dearer),
      Nat.min_eq_right (Nat.le_of_lt dearer)]
  · have within := Nat.le_of_not_lt dearer
    rw [if_neg dearer, subtract_ok within, Nat.max_eq_right within, Nat.min_eq_left within]

theorem fraction_pos {price : Decimal} {fraction : Fraction}
    (taken : price.fraction? = some fraction) (priced : price.isZero = false) :
    0 < fraction.numerator ∧ 0 < fraction.denominator := by
  unfold Decimal.fraction? at taken
  split at taken
  · cases taken
  · cases taken
    exact ⟨Nat.pos_of_ne_zero (by simpa [Decimal.isZero] using priced), place_value_pos _⟩

theorem deviation_agrees (sold bought : PricedAmount) :
    (deviation sold bought : Checked ε (Option PriceDeviation)) =
      .ok (PriceGuard.deviation sold bought) := by
  unfold deviation PriceGuard.deviation
  split
  · rfl
  next given =>
    simp only [Bool.or_eq_true, not_or, Bool.not_eq_true, beq_eq_false_iff_ne] at given
    obtain ⟨⟨⟨pricedIn, pricedOut⟩, someIn⟩, someOut⟩ := given
    cases takenIn : sold.price.fraction? with
    | none => rfl
    | some priceIn =>
      cases takenOut : bought.price.fraction? with
      | none => rfl
      | some priceOut =>
        obtain ⟨numeratorIn, denominatorIn⟩ := fraction_pos takenIn pricedIn
        obtain ⟨numeratorOut, denominatorOut⟩ := fraction_pos takenOut pricedOut
        have paid := Nat.mul_pos (Nat.mul_pos (Nat.mul_pos numeratorIn (Nat.pos_of_ne_zero someIn))
          (place_value_pos bought.decimals)) denominatorOut
        have reference := Nat.mul_pos (Nat.mul_pos (Nat.mul_pos numeratorOut
          (Nat.pos_of_ne_zero someOut)) (place_value_pos sold.decimals)) denominatorIn
        dsimp only [Option.bind_some, Option.map_some]
        rw [gap_agrees, ok_bind, percent_agrees _ paid, ok_bind, percent_agrees _ reference]
        rfl

theorem flagged_agrees (sold bought : PricedAmount) (allowed : Decimal) :
    (flagged sold bought allowed : Checked ε (Option Decimal)) =
      .ok (PriceGuard.flagged sold bought allowed) := by
  rw [flagged, deviation_agrees]
  rfl

end Checked
end PoolRouting
