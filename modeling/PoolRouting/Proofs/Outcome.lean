import PoolRouting.Failure

/-!
Steps that may fail, taken apart. A chain of steps succeeds exactly when each step does, and the
failure of a chain is the failure of its first failing step.
-/

namespace PoolRouting
variable {ε α β : Type}

theorem bind_ok_iff (outcome : Except ε α) (next : α → Except ε β) (result : β) :
    outcome.bind next = .ok result ↔ ∃ value, outcome = .ok value ∧ next value = .ok result := by
  cases outcome <;> simp [Except.bind]

/-- A check that only lets pass. -/
theorem check_ok_iff (check : Except ε Unit) (next : Unit → Except ε β) (result : β) :
    check.bind next = .ok result ↔ check = .ok () ∧ next () = .ok result := by
  cases check <;> simp [Except.bind]

theorem map_ok_iff (outcome : Except ε α) (change : α → β) (result : β) :
    outcome.map change = .ok result ↔ ∃ value, outcome = .ok value ∧ change value = result := by
  cases outcome <;> simp [Except.map]

section Renamed
variable {ε' : Type} (rename : ε → ε')

@[simp]
theorem renamed_ok (result : α) :
    (Except.ok result : Except ε α).mapError rename = .ok result := rfl

@[simp]
theorem renamed_error (error : ε) :
    (Except.error error : Except ε α).mapError rename = .error (rename error) := rfl

-- A failure may be reported under another name; a result passes unchanged.
theorem renamed_ok_iff (outcome : Except ε α) (result : α) :
    outcome.mapError rename = .ok result ↔ outcome = .ok result := by
  cases outcome <;> simp

end Renamed

theorem bind_error_iff (outcome : Except ε α) (next : α → Except ε β) (error : ε) :
    outcome.bind next = .error error ↔
      outcome = .error error ∨ ∃ value, outcome = .ok value ∧ next value = .error error := by
  cases outcome <;> simp [Except.bind]

theorem map_error_iff (outcome : Except ε α) (change : α → β) (error : ε) :
    outcome.map change = .error error ↔ outcome = .error error := by
  cases outcome <;> simp [Except.map]

theorem map_bind {γ : Type} (outcome : Except ε α) (next : α → Except ε β) (change : β → γ) :
    (outcome.bind next).map change = outcome.bind fun value => (next value).map change := by
  cases outcome <;> rfl

theorem map_map {γ : Type} (outcome : Except ε α) (first : α → β) (second : β → γ) :
    (outcome.map first).map second = outcome.map fun value => second (first value) := by
  cases outcome <;> rfl

/-- Every failure is one of a kind. -/
def FailsAs {kind : Type} (rename : kind → ε) (outcome : Except ε α) : Prop :=
  ∀ error, outcome = .error error → ∃ cause, error = rename cause

theorem fails_renamed {kind : Type} (rename : kind → ε) (outcome : Except kind α) :
    FailsAs rename (outcome.mapError rename) := by
  intro error failed
  cases outcome with
  | error cause =>
    cases failed
    exact ⟨cause, rfl⟩
  | ok value => cases failed

theorem fails_bind {kind : Type} {rename : kind → ε} {outcome : Except ε α}
    {next : α → Except ε β} (fails : FailsAs rename outcome)
    (later : ∀ value, FailsAs rename (next value)) : FailsAs rename (outcome.bind next) := by
  intro error failed
  rcases (bind_error_iff ..).mp failed with failed | ⟨value, _, failed⟩
  · exact fails error failed
  · exact later value error failed

/-- The same outcome, with failures and results put in other words. -/
def recast (failure : ε → ε) (result : α → β) : Except ε α → Except ε β
  | .error error => .error (failure error)
  | .ok value => .ok (result value)

section Recast
variable {γ δ : Type} {failure : ε → ε}

theorem recast_eq_map {result : α → β} {outcome : Except ε α}
    (kept : ∀ error, outcome = .error error → failure error = error) :
    recast failure result outcome = outcome.map result := by
  cases outcome with
  | error error => exact congrArg Except.error (kept error rfl)
  | ok value => rfl

theorem bind_recast {result : α → γ} {change : β → δ} {outcome : Except ε α}
    {next : α → Except ε β} {other : γ → Except ε δ}
    (later : ∀ value, outcome = .ok value →
      other (result value) = recast failure change (next value)) :
    (recast failure result outcome).bind other = recast failure change (outcome.bind next) := by
  cases outcome with
  | error error => rfl
  | ok value => exact later value rfl

-- A step whose failures keep their words needs no step of its own on the other side.
theorem bind_recast_kept {change : β → δ} {outcome : Except ε α} {next : α → Except ε β}
    {other : α → Except ε δ} (kept : ∀ error, outcome = .error error → failure error = error)
    (later : ∀ value, outcome = .ok value → other value = recast failure change (next value)) :
    outcome.bind other = recast failure change (outcome.bind next) := by
  cases outcome with
  | error error => exact congrArg Except.error (kept error rfl).symm
  | ok value => exact later value rfl

end Recast

/-! Two chains compared: they fail alike, or come to related results. -/

inductive Matches (related : α → β → Prop) : Except ε α → Except ε β → Prop where
  | refused (error : ε) : Matches related (.error error) (.error error)
  | given {one : α} {two : β} (holds : related one two) : Matches related (.ok one) (.ok two)

theorem renamed_bind {ε' : Type} (rename : ε → ε') (outcome : Except ε α) (next : α → Except ε β) :
    (outcome.bind next).mapError rename =
      (outcome.mapError rename).bind fun value => (next value).mapError rename := by
  cases outcome <;> rfl

theorem renamed_matches {ε' : Type} {related : α → β → Prop} {first : Except ε α}
    {second : Except ε β} (rename : ε → ε') (matched : Matches related first second) :
    Matches related (first.mapError rename) (second.mapError rename) := by
  cases matched with
  | refused error => exact .refused (rename error)
  | given holds => exact .given holds

section Matching
variable {γ δ : Type} {related : α → β → Prop} {target : γ → δ → Prop}
variable {first : Except ε α} {second : Except ε β}

theorem matches_self {relation : α → α → Prop} (reflexive : ∀ value, relation value value)
    (outcome : Except ε α) : Matches relation outcome outcome := by
  cases outcome with
  | error error => exact .refused error
  | ok value => exact .given (reflexive value)

theorem given_of_matches {value : α} {outcome : Except ε β}
    (matched : Matches related (.ok value) outcome) :
    ∃ other, outcome = .ok other ∧ related value other := by
  cases matched with
  | given holds => exact ⟨_, rfl, holds⟩

theorem given_by_matches {value : β} {outcome : Except ε α}
    (matched : Matches related outcome (.ok value)) :
    ∃ other, outcome = .ok other ∧ related other value := by
  cases matched with
  | given holds => exact ⟨_, rfl, holds⟩

theorem bind_matches (matched : Matches related first second) {next : α → Except ε γ}
    {other : β → Except ε δ}
    (later : ∀ one two, related one two → Matches target (next one) (other two)) :
    Matches target (first.bind next) (second.bind other) := by
  cases matched with
  | refused error => exact .refused error
  | given holds => exact later _ _ holds

theorem map_matches (matched : Matches related first second) {change : α → γ} {other : β → δ}
    (later : ∀ one two, related one two → target (change one) (other two)) :
    Matches target (first.map change) (second.map other) := by
  cases matched with
  | refused error => exact .refused error
  | given holds => exact .given (later _ _ holds)

end Matching

end PoolRouting
