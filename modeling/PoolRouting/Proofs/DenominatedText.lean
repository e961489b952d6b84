import Mathlib.Data.List.DropRight
import Mathlib.Tactic.FieldSimp
import PoolRouting.Proofs.CallDecoding
import PoolRouting.Proofs.DecimalValue
import PoolRouting.Proofs.NumeralReading
import PoolRouting.Proofs.SessionTransparency

/-!
Denominated amounts. The text of an amount is the shortest numeral of the amount over ten to the
decimals, so two amounts share a text exactly if they come to the same number of whole tokens. A
quote writes each of its rates in the decimals of the token that the rate counts. The two rates
multiply to at most one whole token of each side, as both are rounded down.
-/

namespace PoolRouting

/-! Zeros at either end of the digits. -/

theorem trim_zeros_append (digits : List Char) :
    ∃ zeros, trimZeros digits ++ List.replicate zeros '0' = digits := by
  let isZero : Char → Bool := fun c => c = '0'
  have zeros : ∀ c ∈ digits.rtakeWhile isZero, c = '0' :=
    fun c member => of_decide_eq_true (List.mem_rtakeWhile_imp (p := isZero) member)
  refine ⟨(digits.rtakeWhile isZero).length, ?_⟩
  rw [← List.eq_replicate_of_mem zeros]
  exact List.rdropWhile_append_rtakeWhile

theorem trim_zeros_last (digits : List Char) : (trimZeros digits).getLast? ≠ some '0' := by
  intro zero
  have kept : trimZeros digits ≠ [] := by
    intro empty
    rw [empty] at zero
    cases zero
  rw [List.getLast?_eq_some_getLast kept] at zero
  exact List.rdropWhile_last_not _ digits kept (decide_eq_true (Option.some.inj zero))

theorem trim_zeros_snoc (digits : List Char) : trimZeros (digits ++ ['0']) = trimZeros digits :=
  List.rdropWhile_concat_pos _ digits '0' rfl

-- The recursion of the digits takes the last one off, so the first is that of a smaller value.
/-- Only a zero is written with a zero in front. -/
theorem zero_of_leading_zero {value : Nat} (zero : (Nat.toDigits 10 value).head? = some '0') :
    value = 0 := by
  induction value using Nat.strongRecOn with
  | ind value ih =>
    rw [Nat.toDigits_eq_if (by decide)] at zero
    split at zero
    case isTrue small => exact Nat.digitChar_eq_zero.mp (Option.some.inj zero)
    case isFalse large =>
      rw [List.head?_append_of_ne_nil _ Nat.toDigits_ne_nil] at zero
      have quotient := ih (value / 10) (by omega) zero
      omega

/-- The digits of an amount before and behind its point, if it has one. -/
structure Numeral where
  whole : List Char
  fraction : Option (List Char)
  deriving DecidableEq

namespace Numeral

/-- The digits behind the point. -/
def places (numeral : Numeral) : List Char := numeral.fraction.getD []

-- A second point makes a third part, and no other character is a digit.
/-- Reads digits with at most one point among them. -/
def ofChars? (text : List Char) : Option Numeral :=
  match Text.split '.' text with
  | [whole] => if whole.all Char.isDigit then some ⟨whole, none⟩ else none
  | [whole, behind] =>
    if (whole ++ behind).all Char.isDigit then some ⟨whole, some behind⟩ else none
  | _ => none

/-- The number that a numeral denotes. -/
def value (numeral : Numeral) : ℚ :=
  Nat.ofDigitChars 10 numeral.whole 0 +
    Nat.ofDigitChars 10 numeral.places 0 / 10 ^ numeral.places.length

/-- Nothing could be left out: no zero in front or behind, and no point without digits. -/
structure Shortest (numeral : Numeral) : Prop where
  begins : numeral.whole ≠ []
  bare : numeral.whole.head? = some '0' → numeral.whole = ['0']
  pointed : numeral.fraction ≠ some []
  ends : numeral.places.getLast? ≠ some '0'

def chars (numeral : Numeral) : List Char :=
  match numeral.fraction with
  | none => numeral.whole
  | some behind => numeral.whole ++ '.' :: behind

theorem of_chars_chars {numeral : Numeral}
    (plain : ∀ c ∈ numeral.whole ++ numeral.places, c.isDigit = true) :
    ofChars? numeral.chars = some numeral := by
  obtain ⟨whole, fraction⟩ := numeral
  have pointless : ∀ part : List Char, (∀ c ∈ part, c.isDigit = true) → '.' ∉ part :=
    fun part digits member => absurd (digits '.' member) (by decide)
  obtain ⟨front, rest⟩ := List.forall_mem_append.mp plain
  have digits : (whole ++ places ⟨whole, fraction⟩).all Char.isDigit = true :=
    List.all_eq_true.mpr plain
  cases fraction with
  | none =>
    rw [chars, ofChars?, Text.split_plain (pointless whole front)]
    exact if_pos (List.all_eq_true.mpr front)
  | some behind =>
    rw [chars, ofChars?, Text.split_append (pointless whole front),
      Text.split_plain (pointless behind rest)]
    exact if_pos digits

/-- A numeral without the zeros at its end, and without its point if nothing is left behind it. -/
def trimmed (whole behind : List Char) : Numeral :=
  ⟨whole, if (trimZeros behind).isEmpty then none else some (trimZeros behind)⟩

theorem places_trimmed (whole behind : List Char) :
    (trimmed whole behind).places = trimZeros behind := by
  unfold trimmed places
  split
  case isTrue empty => exact (List.isEmpty_iff.mp empty).symm
  case isFalse => rfl

theorem trimmed_snoc (whole behind : List Char) :
    trimmed whole (behind ++ ['0']) = trimmed whole behind := by
  rw [trimmed, trim_zeros_snoc, trimmed]

section Cut
variable {amount decimals : Nat} {whole behind : List Char}
variable (cut : Decimal.Cut decimals amount whole behind)
include cut

theorem trimmed_plain :
    ∀ c ∈ (trimmed whole behind).whole ++ (trimmed whole behind).places, c.isDigit = true := by
  obtain ⟨zeros, same⟩ := trim_zeros_append behind
  intro c member
  apply cut.plain
  rw [places_trimmed] at member
  rw [← same, ← List.append_assoc]
  exact List.mem_append_left _ member

theorem length_places_le : (trimmed whole behind).places.length ≤ decimals := by
  obtain ⟨zeros, same⟩ := trim_zeros_append behind
  have counted := congrArg List.length same
  rw [List.length_append, cut.counted] at counted
  rw [places_trimmed]
  omega

-- Zeros are put in front only up to the point, so all but one of them stand behind it.
theorem whole_bare (zero : whole.head? = some '0') : whole = ['0'] := by
  have joined := cut.joined
  by_cases short : (Nat.toDigits 10 amount).length ≤ decimals
  · have counted := congrArg List.length joined
    rw [List.length_append, cut.counted, Decimal.padded, List.length_append,
      List.length_replicate] at counted
    obtain ⟨c, rfl⟩ := List.length_eq_one_iff.mp (show whole.length = 1 by omega)
    exact congrArg (fun c => [c]) (Option.some.inj zero)
  · have unfilled : decimals + 1 - (Nat.toDigits 10 amount).length = 0 := by omega
    rw [Decimal.padded, unfilled, List.replicate_zero, List.nil_append] at joined
    have leading := congrArg List.head? joined
    rw [List.head?_append_of_ne_nil _ cut.begins, zero] at leading
    rw [zero_of_leading_zero leading.symm, Nat.toDigits_zero] at joined
    have alone := congrArg List.length joined
    have positive := List.length_pos_iff.mpr cut.begins
    rw [List.length_append, List.length_singleton] at alone
    obtain rfl := List.eq_nil_of_length_eq_zero (show behind.length = 0 by omega)
    rwa [List.append_nil] at joined

theorem trimmed_shortest : (trimmed whole behind).Shortest where
  begins := cut.begins
  bare := whole_bare cut
  pointed := by
    unfold trimmed
    split
    case isTrue => exact Option.some_ne_none _ |>.symm
    case isFalse kept =>
      intro empty
      exact kept (List.isEmpty_iff.mpr (Option.some.inj empty))
  ends := by
    rw [places_trimmed]
    exact trim_zeros_last behind

-- The trimmed zeros are so many powers of ten in what the digits count and in what they are over.
theorem trimmed_value : (trimmed whole behind).value = (amount : ℚ) / 10 ^ decimals := by
  obtain ⟨zeros, same⟩ := trim_zeros_append behind
  have counts := cut.denotes
  have places := cut.counted
  rw [← same] at counts places
  rw [List.length_append, List.length_replicate] at places
  rw [Nat.ofDigitChars_append, Nat.ofDigitChars_append, Nat.ofDigitChars_replicate_zero,
    Nat.ofDigitChars_eq_ofDigitChars_zero (l := trimZeros behind)] at counts
  have front : (trimmed whole behind).whole = whole := rfl
  rw [value, places_trimmed, front, ← counts, ← places, pow_add]
  push_cast
  field_simp

end Cut
end Numeral

/-- The text is the shortest numeral of a number and has at most so many digits behind its point. -/
def Denotes (text : String) (decimals : Nat) (number : ℚ) : Prop :=
  ∃ numeral, Numeral.ofChars? text.toList = some numeral ∧ numeral.Shortest ∧
    numeral.places.length ≤ decimals ∧ numeral.value = number

section Denominate
variable {amount decimals : Nat} {whole behind : List Char}

theorem denominate_chars
    (joined : whole ++ behind = Decimal.padded (decimals + 1) (Nat.toDigits 10 amount))
    (counted : behind.length = decimals) :
    (denominate amount decimals).toList = (Numeral.trimmed whole behind).chars := by
  have cut : (whole ++ behind).length - decimals = whole.length := by
    rw [List.length_append, counted, Nat.add_sub_cancel]
  simp only [denominate, ← joined, cut, List.take_left', List.drop_left', String.toList_ofList]
  unfold Numeral.trimmed Numeral.chars
  split <;> rfl

theorem denominate_denotes (amount decimals : Nat) :
    Denotes (denominate amount decimals) decimals (amount / 10 ^ decimals) := by
  have cut := Decimal.cut_padded decimals amount
  refine ⟨_, ?_, Numeral.trimmed_shortest cut, Numeral.length_places_le cut,
    Numeral.trimmed_value cut⟩
  rw [denominate_chars cut.joined cut.counted]
  exact Numeral.of_chars_chars (Numeral.trimmed_plain cut)

theorem padded_snoc (amount decimals : Nat) :
    Decimal.padded (decimals + 1) (Nat.toDigits 10 amount) ++ ['0'] =
      Decimal.padded (decimals + 2) (Nat.toDigits 10 (amount * 10)) := by
  rcases Nat.eq_zero_or_pos amount with rfl | positive
  · simp [Decimal.padded, List.replicate_succ']
  · have digits := Nat.toDigits_append_toDigits (b := 10) (d := 0) (by decide) positive (by decide)
    rw [Nat.toDigits_zero, Nat.add_zero, Nat.mul_comm] at digits
    simp [Decimal.padded, ← digits]

/-- With one decimal more the same amount has one zero more, which is trimmed again. -/
theorem denominate_scaled (amount decimals : Nat) :
    denominate (amount * 10) (decimals + 1) = denominate amount decimals := by
  have cut := Decimal.cut_padded decimals amount
  apply String.toList_inj.mp
  rw [denominate_chars cut.joined cut.counted, ← Numeral.trimmed_snoc]
  apply denominate_chars
  · rw [← List.append_assoc, cut.joined, padded_snoc]
  · rw [List.length_append, cut.counted, List.length_singleton]

theorem denominate_shifted (amount decimals places : Nat) :
    denominate (amount * 10 ^ places) (decimals + places) = denominate amount decimals := by
  induction places with
  | zero => rw [Nat.pow_zero, Nat.mul_one, Nat.add_zero]
  | succ places ih => rw [Nat.pow_succ, ← Nat.mul_assoc, ← Nat.add_assoc, denominate_scaled, ih]

/-- One text for every number of whole tokens, whatever decimals it is counted in. -/
theorem denominate_eq_iff (amount decimals other places : Nat) :
    denominate amount decimals = denominate other places ↔
      (amount : ℚ) / 10 ^ decimals = other / 10 ^ places := by
  constructor
  · intro same
    obtain ⟨numeral, read, _, _, value⟩ := denominate_denotes amount decimals
    obtain ⟨again, reread, _, _, counted⟩ := denominate_denotes other places
    rw [same, reread] at read
    cases read
    exact value.symm.trans counted
  · intro level
    rw [div_eq_div_iff (by simp) (by simp)] at level
    have crossed : amount * 10 ^ places = other * 10 ^ decimals := by exact_mod_cast level
    calc denominate amount decimals
        = denominate (amount * 10 ^ places) (decimals + places) :=
          (denominate_shifted amount decimals places).symm
      _ = denominate (other * 10 ^ decimals) (places + decimals) := by
          rw [crossed, Nat.add_comm]
      _ = denominate other places := denominate_shifted other places decimals

end Denominate

/-- There and back at the two rates brings at most what was there. -/
theorem exchange_rates_le (sold bought : Amount) (decimalsIn decimalsOut : Nat) :
    exchangeRate sold bought decimalsIn * exchangeRate bought sold decimalsOut ≤
      10 ^ (decimalsIn + decimalsOut) := by
  unfold exchangeRate
  by_cases unsold : sold = 0
  · simp [unsold]
  by_cases unbought : bought = 0
  · simp [unbought]
  rw [if_neg unsold, if_neg unbought]
  have traded : 0 < sold * bought :=
    Nat.mul_pos (Nat.pos_of_ne_zero unsold) (Nat.pos_of_ne_zero unbought)
  calc bought * placeValue decimalsIn / sold * (sold * placeValue decimalsOut / bought)
      ≤ bought * placeValue decimalsIn * (sold * placeValue decimalsOut) / (sold * bought) :=
        Nat.div_mul_div_le _ _ _ _
    _ = sold * bought * (placeValue decimalsIn * placeValue decimalsOut) / (sold * bought) := by
        congr 1
        ring
    _ = placeValue decimalsIn * placeValue decimalsOut :=
        Nat.mul_div_cancel_left _ traded
    _ = 10 ^ (decimalsIn + decimalsOut) := (Nat.pow_add 10 decimalsIn decimalsOut).symm

namespace Quote

/-- A quote that is computed from a ledger, or that a session over it gives after other requests. -/
inductive Given (config : RouterConfig) (ledger : Ledger) (quote : Quote) : Prop where
  | computed (inquiry : Inquiry) (reads : Reads)
      (answered : (compute config ledger inquiry).answer reads = .ok quote) :
      Given config ledger quote
  | resolved (earlier : List SwapRequest) (request : SwapRequest)
      (answered : (((Session.start config ledger).after earlier).resolve request).1 = .ok quote) :
      Given config ledger quote

/-- The rates of a quote are written exactly, each in the decimals of the token that it counts. -/
structure Rated (quote : Quote) (tokenIn tokenOut : Token) : Prop where
  rateIn : Denotes quote.rateInText tokenOut.decimals.toNat
    (quote.rateIn / 10 ^ tokenOut.decimals.toNat)
  rateOut : Denotes quote.rateOutText tokenIn.decimals.toNat
    (quote.rateOut / 10 ^ tokenIn.decimals.toNat)
  product : quote.rateIn * quote.rateOut ≤
    10 ^ (tokenIn.decimals.toNat + tokenOut.decimals.toNat)

theorem computed_of_given {config : RouterConfig} {ledger : Ledger} {quote : Quote}
    (given : Given config ledger quote) :
    ∃ inquiry reads tolerance, (compute config ledger inquiry).answer reads =
      .ok { quote with tolerance := tolerance } := by
  cases given with
  | computed inquiry reads answered => exact ⟨inquiry, reads, quote.tolerance, answered⟩
  | resolved earlier request answered =>
    have agrees := Session.answer_after config ledger earlier request
    rw [answered] at agrees
    obtain ⟨fresh, alone, tolerance, _, rfl⟩ := given_by_matches agrees
    rw [Session.alone_eq, bind_ok_iff] at alone
    obtain ⟨inquiry, _, computed⟩ := alone
    exact ⟨inquiry, .zero, fresh.tolerance, computed⟩

theorem rated_describe (config : RouterConfig) (inquiry : Inquiry) (facts : PairFacts)
    (type : SwapType) (route : SimulatedRoute) (amountIn : Amount) :
    (describe config inquiry facts type route amountIn).Rated facts.tokenIn facts.tokenOut where
  rateIn := denominate_denotes _ _
  rateOut := denominate_denotes _ _
  product := exchange_rates_le _ _ _ _

theorem rated_of_given {config : RouterConfig} {ledger : Ledger} {quote : Quote}
    (given : Given config ledger quote) :
    ∃ tokenIn tokenOut,
      ledger.token (config.contracts.routingToken quote.tokenIn) = .ok tokenIn ∧
      ledger.token (config.contracts.routingToken quote.tokenOut) = .ok tokenOut ∧
      quote.Rated tokenIn tokenOut := by
  obtain ⟨inquiry, reads, tolerance, computed⟩ := computed_of_given given
  obtain ⟨pools, graph, facts, ready⟩ := ready_of_answer computed
  rw [answer_of_ready reads ready, assemble_ok_iff] at computed
  obtain ⟨best, amountIn, _, _, described⟩ := computed
  have rated := rated_describe config inquiry facts (directionOf inquiry facts).type best amountIn
  have namedIn := congrArg Quote.tokenIn described
  have namedOut := congrArg Quote.tokenOut described
  dsimp only [describe] at namedIn namedOut
  rw [← described] at rated
  rw [namedIn, namedOut]
  exact ⟨_, _, ready.describedIn, ready.describedOut, rated.rateIn, rated.rateOut, rated.product⟩

end Quote

/-- The text of an amount is exact and shortest, hence its own; so are the rates of a quote. -/
theorem denominations_exact (config : RouterConfig) (ledger : Ledger) :
    (∀ amount decimals, Denotes (denominate amount decimals) decimals (amount / 10 ^ decimals)) ∧
    (∀ amount decimals other places, denominate amount decimals = denominate other places ↔
      (amount : ℚ) / 10 ^ decimals = other / 10 ^ places) ∧
    (∀ decimals, Function.Injective fun amount => denominate amount decimals) ∧
    ∀ quote, Quote.Given config ledger quote →
      ∃ tokenIn tokenOut,
        ledger.token (config.contracts.routingToken quote.tokenIn) = .ok tokenIn ∧
        ledger.token (config.contracts.routingToken quote.tokenOut) = .ok tokenOut ∧
        quote.Rated tokenIn tokenOut := by
  refine ⟨denominate_denotes, denominate_eq_iff, ?_, fun quote given => ?_⟩
  · intro decimals amount other same
    have level := (denominate_eq_iff amount decimals other decimals).mp same
    rw [div_left_inj' (by simp)] at level
    exact_mod_cast level
  · exact Quote.rated_of_given given

-- 80 units of 18 decimals for one unit of 6: a long fraction one way, a whole number the other.
theorem denominations_exact_two_hops :
    ∃ quote, Quote.Given .default Sample.ledger quote ∧
      quote.rateInText = "0.00000000008" ∧ quote.rateOutText = "12500000000" ∧
      Denotes "0.00000000008" 18 (80000000 / 10 ^ 18) ∧
      quote.rateIn * quote.rateOut ≤ 10 ^ (6 + 18) := by
  have given : Quote.Given .default Sample.ledger (Sample.quote 80 1 [1, 873, 80]) :=
    .computed _ .zero (Sample.quoted 80 1 [1, 873, 80] rfl rfl)
  have rateIn : (Sample.quote 80 1 [1, 873, 80]).rateIn = 80000000 := by decide +kernel
  have textIn : (Sample.quote 80 1 [1, 873, 80]).rateInText = "0.00000000008" := by decide +kernel
  have textOut : (Sample.quote 80 1 [1, 873, 80]).rateOutText = "12500000000" := by decide +kernel
  obtain ⟨_, _, _, rates⟩ := denominations_exact .default Sample.ledger
  obtain ⟨tokenIn, tokenOut, describedIn, describedOut, rated⟩ := rates _ given
  cases describedIn.symm.trans Sample.ready.describedIn
  cases describedOut.symm.trans Sample.ready.describedOut
  have denotes := rated.rateIn
  rw [textIn, rateIn] at denotes
  exact ⟨_, given, textIn, textOut, by exact_mod_cast denotes, rated.product⟩

end PoolRouting
