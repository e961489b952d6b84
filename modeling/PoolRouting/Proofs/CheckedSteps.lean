import PoolRouting.Hop
import PoolRouting.Proofs.Outcome

/-!
Steps that can go wrong without refusing. Subtraction on natural numbers stops at zero, division by
zero gives zero, and lists are taken apart by their shape, so a definition on them cannot show that
its program never subtracts too much or reads past an end. A checked computation shows it: each such
step is partial and crashes. A checked computation that equals a plain one refuses as that one does
and crashes nowhere.
-/

namespace PoolRouting

/-- A step without a result. -/
inductive Crash where
  | belowZero
  | zeroDivisor
  | outOfRange
  | oversized
  deriving DecidableEq

/-- Why a checked computation ends early. -/
inductive Stop (ε : Type) where
  | crash (cause : Crash)
  | refusal (error : ε)
  deriving DecidableEq

/-- A computation whose partial steps are checked. -/
abbrev Checked (ε α : Type) := Except (Stop ε) α

namespace Checked
variable {ε ε' α β : Type}

def crash (cause : Crash) : Checked ε α := .error (.crash cause)

def refuse (error : ε) : Checked ε α := .error (.refusal error)

/-- A computation without partial steps. -/
def lift (outcome : Except ε α) : Checked ε α := outcome.mapError .refusal

/-- Refusals in other words; a crash stays what it is. -/
def renamed (rename : ε → ε') (run : Checked ε α) : Checked ε' α :=
  run.mapError fun
    | .crash cause => .crash cause
    | .refusal error => .refusal (rename error)

/-- A refusal set aside as a value; a crash ends the computation. -/
def settled : Checked ε α → Checked ε' (Except ε α)
  | .ok value => .ok (.ok value)
  | .error (.refusal error) => .ok (.error error)
  | .error (.crash cause) => crash cause

/-- The computation comes to a result or a refusal. -/
def Survives (run : Checked ε α) : Prop := ∀ cause, run ≠ crash cause

/-! The partial steps. -/

def subtract (left right : Nat) : Checked ε Nat :=
  if right ≤ left then .ok (left - right) else crash .belowZero

def divide (numerator denominator : Nat) : Checked ε Nat :=
  if denominator = 0 then crash .zeroDivisor else .ok (numerator / denominator)

def divideUp (numerator denominator : Nat) : Checked ε Nat :=
  if denominator = 0 then crash .zeroDivisor else .ok (Hop.divideUp numerator denominator)

/-- A decimal of at most 96 bits and at most 28 places. -/
def decimal (negative : Bool) (mantissa scale : Nat) : Checked ε Decimal :=
  if fits : mantissa ≤ Decimal.maxMantissa ∧ scale ≤ Decimal.maxScale then
    .ok ⟨negative, mantissa, scale, fits.1, fits.2⟩
  else crash .oversized

def get (items : List α) (index : Nat) : Checked ε α :=
  match items[index]? with
  | some item => .ok item
  | none => crash .outOfRange

def put (items : List α) (index : Nat) (item : α) : Checked ε (List α) :=
  if index < items.length then .ok (items.set index item) else crash .outOfRange

/-- What stands from an index on. -/
def suffix (items : List α) (start : Nat) : Checked ε (List α) :=
  if start ≤ items.length then .ok (items.drop start) else crash .outOfRange

/-- What stands before an index. -/
def front (items : List α) (stop : Nat) : Checked ε (List α) :=
  if stop ≤ items.length then .ok (items.take stop) else crash .outOfRange

/-- The two parts of a list cut at an index. -/
def splitAt (items : List α) (cut : Nat) : Checked ε (List α × List α) :=
  if cut ≤ items.length then .ok (items.take cut, items.drop cut) else crash .outOfRange

/-! When a partial step has a result. -/

theorem subtract_ok {left right : Nat} (covers : right ≤ left) :
    (subtract left right : Checked ε Nat) = .ok (left - right) := if_pos covers

theorem divide_ok (numerator : Nat) {denominator : Nat} (positive : 0 < denominator) :
    (divide numerator denominator : Checked ε Nat) = .ok (numerator / denominator) :=
  if_neg (Nat.ne_of_gt positive)

theorem divide_up_ok (numerator : Nat) {denominator : Nat} (positive : 0 < denominator) :
    (divideUp numerator denominator : Checked ε Nat) =
      .ok (Hop.divideUp numerator denominator) :=
  if_neg (Nat.ne_of_gt positive)

theorem get_ok {items : List α} {index : Nat} {item : α} (found : items[index]? = some item) :
    (get items index : Checked ε α) = .ok item := by
  rw [get, found]

theorem get_of_drop {items rest : List α} {index : Nat} {item : α}
    (here : items.drop index = item :: rest) : (get items index : Checked ε α) = .ok item := by
  apply get_ok
  rw [← List.head?_drop, here]
  rfl

theorem drop_next {items rest : List α} {index : Nat} {item : α}
    (here : items.drop index = item :: rest) : items.drop (index + 1) = rest := by
  rw [← List.drop_drop, here]
  rfl

theorem put_ok {items : List α} {index : Nat} (inside : index < items.length) (item : α) :
    (put items index item : Checked ε (List α)) = .ok (items.set index item) := if_pos inside

theorem suffix_ok {items : List α} {start : Nat} (inside : start ≤ items.length) :
    (suffix items start : Checked ε (List α)) = .ok (items.drop start) := if_pos inside

theorem front_ok {items : List α} {stop : Nat} (inside : stop ≤ items.length) :
    (front items stop : Checked ε (List α)) = .ok (items.take stop) := if_pos inside

theorem split_at_ok {items : List α} {cut : Nat} (inside : cut ≤ items.length) :
    (splitAt items cut : Checked ε (List α × List α)) = .ok (items.take cut, items.drop cut) :=
  if_pos inside

/-! Lifted computations, composed as plain ones are. -/

theorem survives_lift (outcome : Except ε α) : Survives (lift outcome) := by
  intro cause crashed
  cases outcome <;> cases crashed

theorem settled_lift (outcome : Except ε α) :
    (settled (lift outcome) : Checked ε' (Except ε α)) = .ok outcome := by
  cases outcome <;> rfl

theorem renamed_lift (rename : ε → ε') (outcome : Except ε α) :
    renamed rename (lift outcome) = lift (outcome.mapError rename) := by
  cases outcome <;> rfl

theorem ok_bind (value : α) (next : α → Checked ε β) :
    ((.ok value : Checked ε α) >>= next) = next value := rfl

/-- A checked step after a lifted one needs to agree only where the lifted one has a result. -/
theorem bind_lifted {outcome : Except ε α} {next : α → Except ε β} {checked : α → Checked ε β}
    (later : ∀ value, outcome = .ok value → checked value = lift (next value)) :
    (lift outcome >>= checked) = lift (outcome.bind next) := by
  cases outcome with
  | error error => rfl
  | ok value => exact later value rfl

theorem map_lifted {outcome : Except ε α} {change : α → β} {checked : α → Checked ε β}
    (later : ∀ value, outcome = .ok value → checked value = .ok (change value)) :
    (lift outcome >>= checked) = lift (outcome.map change) := by
  cases outcome with
  | error error => rfl
  | ok value => exact later value rfl

theorem map_m_ok {items : List α} {checked : α → Checked ε β} {plain : α → β}
    (each : ∀ item ∈ items, checked item = .ok (plain item)) :
    items.mapM checked = .ok (items.map plain) := by
  induction items with
  | nil => rfl
  | cons item rest ih =>
    obtain ⟨first, others⟩ := List.forall_mem_cons.mp each
    rw [List.mapM_cons, first, ih others]
    rfl

/-- A list made index by index, each item at its own. -/
theorem map_m_range_ok {items : List β} {count : Nat} (counted : items.length = count)
    {checked : Nat → Checked ε β} {start : Nat}
    (each : ∀ index item, items[index]? = some item → checked (start + index) = .ok item) :
    (List.range' start count).mapM checked = .ok items := by
  subst counted
  induction items generalizing start with
  | nil => rfl
  | cons item rest ih =>
    have first : checked start = .ok item := each 0 item rfl
    have others : (List.range' (start + 1) rest.length).mapM checked = .ok rest := by
      refine ih fun index item found => ?_
      rw [Nat.add_assoc, Nat.add_comm 1]
      exact each (index + 1) item found
    rw [List.length_cons, List.range'_succ, List.mapM_cons, first, others]
    rfl

end Checked
end PoolRouting
