import PoolRouting.Proofs.FlightEffects

/-!
What every step keeps. The invariants are about claims: whoever runs or waits for a cell has it
through a slot of its key, so two producers of one key would run the same cell, and no cell has two.
-/

namespace PoolRouting.Flight
variable {κ α ε : Type}

def Flights.start (capacity : Nat) (calls : List (Call κ α ε)) : Flights κ α ε :=
  ⟨Cache.empty capacity, calls.map fun call => ⟨call, .pending⟩⟩

/-- The caller at the place runs its producer for the cell. -/
def Flights.Runs (flights : Flights κ α ε) (cell place : Nat) : Prop :=
  ∃ caller yields, flights.callers[place]? = some caller ∧
    caller.stage = .running (some cell) yields

/-- What holds whatever the callers ask for. -/
structure Consistent (capacity : Nat) (calls : List (Call κ α ε)) (flights : Flights κ α ε) :
    Prop where
  sound : flights.cache.Sound
  limit : flights.cache.capacity = capacity
  called : ∀ caller ∈ flights.callers, caller.call ∈ calls
  issued : ∀ caller ∈ flights.callers, ∀ cell, caller.stage.Claims cell →
    cell < flights.cache.issued
  owned : ∀ caller ∈ flights.callers, ∀ cell, caller.stage.Claims cell →
    ∀ slot ∈ flights.cache.slots, slot.cell = cell → slot.key = caller.call.key
  failed : ∀ caller ∈ flights.callers, ∀ error ran,
    caller.stage = .finished ⟨.error error, ran⟩ →
      ran = true ∧ caller.call.outcome = .error error
  single : ∀ cell first second, flights.Runs cell first → flights.Runs cell second →
    first = second

section Consistency
variable {capacity : Nat} {calls : List (Call κ α ε)} {flights next : Flights κ α ε}

theorem start_pending {caller : Caller κ α ε}
    (member : caller ∈ (Flights.start capacity calls).callers) :
    caller.call ∈ calls ∧ caller.stage = .pending := by
  obtain ⟨call, listed, rfl⟩ := List.mem_map.mp member
  exact ⟨listed, rfl⟩

theorem start_consistent (capacity : Nat) (calls : List (Call κ α ε)) :
    Consistent capacity calls (.start capacity calls) := by
  refine ⟨Cache.empty_sound capacity, rfl, fun caller member => (start_pending member).1,
    ?_, ?_, ?_, ?_⟩
  · intro caller member cell claims
    rw [(start_pending member).2] at claims
    cases claims
  · intro caller member cell claims
    rw [(start_pending member).2] at claims
    cases claims
  · intro caller member error ran finished
    rw [(start_pending member).2] at finished
    cases finished
  · rintro cell first second ⟨caller, yields, listed, running⟩ _
    rw [(start_pending (List.mem_of_getElem? listed)).2] at running
    cases running

theorem member_moves (effect : Effect flights next) {after : Caller κ α ε}
    (member : after ∈ next.callers) :
    ∃ before ∈ flights.callers, ∃ stage, after = before.at stage ∧
      Moves flights next before stage := by
  obtain ⟨place, listed⟩ := List.mem_iff_getElem?.mp member
  obtain ⟨before, stage, found, moved, moves⟩ := effect_moves effect listed
  exact ⟨before, List.mem_of_getElem? found, stage, moved, moves⟩

/-- A claim is an old one, or comes with the admission of the caller. -/
theorem claims_of_moves {before : Caller κ α ε} {stage : Stage α ε} {cell : Nat}
    (moves : Moves flights next before stage) (claims : stage.Claims cell) :
    before.stage.Claims cell ∨
      flights.cache.Admits before.call.key before.call.lifetime next.cache (.cell cell) := by
  cases moves with
  | stay => exact Or.inl claims
  | arrive admission pending admits =>
    cases claims_of_admitted claims
    exact Or.inr admits
  | yield given yields left running =>
    cases claims
    exact Or.inl (claims_of_running running)
  | stop stage active ends => cases ends <;> cases claims
  | take cell waiting =>
    cases claims
    exact Or.inl (claims_of_waiting waiting)
  | share cell value waiting => cases claims

theorem issued_next (consistent : Consistent capacity calls flights) (effect : Effect flights next) :
    ∀ caller ∈ next.callers, ∀ cell, caller.stage.Claims cell → cell < next.cache.issued := by
  intro after member cell claims
  obtain ⟨before, listed, stage, rfl, moves⟩ := member_moves effect member
  rcases claims_of_moves moves claims with old | admits
  · exact Nat.lt_of_lt_of_le (consistent.issued before listed cell old) (effect_issued effect)
  · generalize given : Admission.cell cell = admission at admits
    generalize next.cache = later at admits
    cases admits <;> cases given
    · next slot found _ _ _ => exact consistent.sound.issued slot found
    · exact Nat.lt_succ_self _

-- The only new slot has a cell that nobody has claimed before.
theorem owned_next (consistent : Consistent capacity calls flights) (effect : Effect flights next) :
    ∀ caller ∈ next.callers, ∀ cell, caller.stage.Claims cell →
      ∀ slot ∈ next.cache.slots, slot.cell = cell → slot.key = caller.call.key := by
  intro after member cell claims slot found same
  obtain ⟨before, listed, stage, rfl, moves⟩ := member_moves effect member
  have sound := effect_sound consistent.sound effect
  rcases claims_of_moves moves claims with old | admits
  · rcases slot_origin effect found with ⟨origin, kept, named, cells, _⟩ | ⟨caller, _, rfl⟩
    · rw [← named]
      exact consistent.owned before listed cell old origin kept (cells.trans same)
    · have issued := consistent.issued before listed cell old
      exact absurd same (Nat.ne_of_gt issued)
  · suffices backed : ∃ other ∈ next.cache.slots, other.key = before.call.key ∧ other.cell = cell by
      obtain ⟨other, kept, named, cells⟩ := backed
      rw [List.inj_on_of_nodup_map sound.cells found kept (same.trans cells.symm)]
      exact named
    exact Cache.slot_of_admits admits

theorem failed_next (consistent : Consistent capacity calls flights) (effect : Effect flights next) :
    ∀ caller ∈ next.callers, ∀ error ran, caller.stage = .finished ⟨.error error, ran⟩ →
      ran = true ∧ caller.call.outcome = .error error := by
  intro after member error ran finished
  obtain ⟨before, listed, stage, rfl, moves⟩ := member_moves effect member
  change stage = _ at finished
  cases moves with
  | stay => exact consistent.failed before listed error ran finished
  | arrive admission pending admits =>
    cases admission with
    | hit | bypass => cases finished
    | cell cell =>
      rw [admitted] at finished
      split at finished <;> cases finished
  | stop stage active ends =>
    cases ends with
    | dropped => cases finished
    | finished cell yields running =>
      injection finished with finished
      injection finished with outcome ran
      exact ⟨ran.symm, outcome⟩
  | yield | take | share => cases finished

/-- Who runs a cell after a step has run it before, or is now the only one to. -/
theorem runs_next (consistent : Consistent capacity calls flights) (effect : Effect flights next)
    {cell place : Nat} (runs : next.Runs cell place) :
    flights.Runs cell place ∨ ∀ other, next.Runs cell other → other = place := by
  obtain ⟨after, yields, listed, running⟩ := runs
  cases effect with
  | arrive index caller later admission present pending admits =>
    rcases get_set_cases listed with ⟨rfl, rfl⟩ | ⟨_, listed⟩
    · refine Or.inr ?_
      rintro other ⟨rival, remaining, found, rivals⟩
      rcases get_set_cases found with ⟨rfl, _⟩ | ⟨_, found⟩
      · rfl
      · have taken : flights.callers.any (Caller.runs cell) = true :=
          List.any_eq_true.mpr ⟨rival, List.mem_of_getElem? found,
            (runs_iff cell rival).mpr ⟨remaining, rivals⟩⟩
        rw [idle_of_admitted running] at taken
        cases taken
    · exact Or.inl ⟨after, yields, listed, running⟩
  | yield index caller given remaining left present producing =>
    rcases get_set_cases listed with ⟨rfl, rfl⟩ | ⟨_, listed⟩
    · cases running
      exact Or.inl ⟨caller, remaining, present, producing⟩
    · exact Or.inl ⟨after, yields, listed, running⟩
  | stop index caller stage present active ends =>
    rcases get_set_cases listed with ⟨rfl, rfl⟩ | ⟨_, listed⟩
    · cases ends <;> cases running
    · exact Or.inl ⟨after, yields, listed, running⟩
  | pass index taker given remaining caller other stage present producing ends found waiting =>
    rcases get_set_cases listed with ⟨rfl, rfl⟩ | ⟨_, listed⟩
    · cases running
      refine Or.inr ?_
      rintro rival ⟨holder, left, held, rivals⟩
      rcases get_set_cases held with ⟨rfl, _⟩ | ⟨_, held⟩
      · rfl
      · rcases get_set_cases held with ⟨rfl, rfl⟩ | ⟨apart, held⟩
        · cases ends <;> cases rivals
        · exact (apart (consistent.single cell rival index ⟨holder, left, held, rivals⟩
            ⟨caller, remaining, present, producing⟩)).elim
    · rcases get_set_cases listed with ⟨rfl, rfl⟩ | ⟨_, listed⟩
      · cases ends <;> cases running
      · exact Or.inl ⟨after, yields, listed, running⟩
  | succeed index given remaining caller value present producing outcome =>
    obtain ⟨before, found, released⟩ := get_release listed
    rcases released with ⟨_, rfl⟩ | ⟨_, rfl⟩
    · cases running
    · rcases get_set_cases found with ⟨rfl, rfl⟩ | ⟨_, found⟩
      · cases running
      · exact Or.inl ⟨after, yields, found, running⟩

theorem consistent_next (consistent : Consistent capacity calls flights)
    (effect : Effect flights next) : Consistent capacity calls next where
  sound := effect_sound consistent.sound effect
  limit := (effect_capacity effect).trans consistent.limit
  called := by
    intro after member
    obtain ⟨before, listed, stage, rfl, _⟩ := member_moves effect member
    exact consistent.called before listed
  issued := issued_next consistent effect
  owned := owned_next consistent effect
  failed := failed_next consistent effect
  single := by
    intro cell first second one two
    rcases runs_next consistent effect one with before | only
    · rcases runs_next consistent effect two with after | only
      · exact consistent.single cell first second before after
      · exact only first one
    · exact (only second two).symm

end Consistency

/-- What holds of a key none of whose calls expire. -/
structure Steady (key : κ) (flights : Flights κ α ε) : Prop where
  lasting : ∀ slot ∈ flights.cache.slots, slot.key = key → slot.lifetime = .lasting
  backed : ∀ caller ∈ flights.callers, caller.call.key = key → ∀ cell,
    caller.stage.Claims cell → ∃ slot ∈ flights.cache.slots, slot.key = key ∧ slot.cell = cell
  shut : ∀ caller ∈ flights.callers, caller.call.key = key → ∀ yields,
    caller.stage = .running none yields → flights.cache.Shut key

section Steadiness
variable {capacity : Nat} {calls : List (Call κ α ε)} {key : κ} {flights next : Flights κ α ε}

theorem start_steady (capacity : Nat) (calls : List (Call κ α ε)) (key : κ) :
    Steady key (.start capacity calls) := by
  refine ⟨?_, ?_, ?_⟩
  · intro slot member
    cases member
  · intro caller member _ cell claims
    rw [(start_pending member).2] at claims
    cases claims
  · intro caller member _ yields running
    rw [(start_pending member).2] at running
    cases running

theorem shut_next (sound : flights.cache.Sound) (shut : flights.cache.Shut key)
    (effect : Effect flights next) : next.cache.Shut key := by
  cases effect with
  | arrive index caller later admission present pending admits =>
    exact Cache.shut_of_admits sound shut admits
  | yield | stop | pass => exact shut
  | succeed index cell yields caller value => exact Cache.fill_shut shut cell value

-- A bypass shuts the cache to its key for good, so a key with a slot never runs without a cell.
theorem steady_next (consistent : Consistent capacity calls flights)
    (lasts : ∀ call ∈ calls, call.key = key → call.lifetime = .lasting)
    (steady : Steady key flights) (effect : Effect flights next) : Steady key next := by
  refine ⟨?_, ?_, ?_⟩
  · intro slot found named
    rcases slot_origin effect found with ⟨old, kept, same, _, life⟩ | ⟨caller, listed, rfl⟩
    · rw [← life]
      exact steady.lasting old kept (same.trans named)
    · exact lasts caller.call (consistent.called caller listed) named
  · intro after member named cell claims
    obtain ⟨before, listed, stage, rfl, moves⟩ := member_moves effect member
    rcases claims_of_moves moves claims with old | admits
    · obtain ⟨slot, found, same, held⟩ := steady.backed before listed named cell old
      obtain ⟨later, kept, keys, cells, _⟩ :=
        slot_stays effect found (steady.lasting slot found same)
      exact ⟨later, kept, keys.trans same, cells.trans held⟩
    · rw [← show before.call.key = key from named]
      exact Cache.slot_of_admits admits
  · intro after member named yields running
    obtain ⟨before, listed, stage, rfl, moves⟩ := member_moves effect member
    change stage = _ at running
    cases moves with
    | stay =>
      exact shut_next consistent.sound (steady.shut before listed named yields running) effect
    | arrive admission pending admits =>
      cases admission with
      | hit value => cases running
      | bypass =>
        rw [← show before.call.key = key from named]
        exact Cache.shut_of_bypass admits
      | cell cell =>
        rw [admitted] at running
        split at running <;> cases running
    | yield given remaining left producing =>
      cases running
      exact shut_next consistent.sound (steady.shut before listed named remaining producing) effect
    | stop stage active ends => cases ends <;> cases running
    | take | share => cases running

end Steadiness

/-- The producer of the key has succeeded, and nobody of the key is on the way any more. -/
structure Served (key : κ) (value : α) (flights : Flights κ α ε) : Prop where
  kept : ∃ slot ∈ flights.cache.slots,
    slot.key = key ∧ slot.lifetime = .lasting ∧ slot.value = some value
  idle : ∀ caller ∈ flights.callers, caller.call.key = key →
    caller.stage = .pending ∨ caller.isDone = true

/-- What may become of a caller of a key that is served. -/
inductive Fate (value : α) (before : Stage α ε) : Stage α ε → Prop where
  | same : Fate value before before
  | dropped (pending : before = .pending) : Fate value before .dropped
  | served (pending : before = .pending) : Fate value before (.finished ⟨.ok value, false⟩)

section Service
variable {capacity : Nat} {calls : List (Call κ α ε)} {key : κ} {value : α}
variable {flights next : Flights κ α ε}

theorem fate_of_moves (consistent : Consistent capacity calls flights)
    (served : Served key value flights) {before : Caller κ α ε} {stage : Stage α ε}
    (listed : before ∈ flights.callers) (named : before.call.key = key)
    (moves : Moves flights next before stage) : Fate value before.stage stage := by
  have idle := served.idle before listed named
  cases moves with
  | stay => exact .same
  | arrive admission pending admits =>
    obtain ⟨slot, found, same, lasting, filled⟩ := served.kept
    obtain ⟨_, rfl⟩ := Cache.hit_of_admits consistent.sound admits found (same.trans named.symm)
      lasting filled
    exact .served pending
  | stop stage active ends =>
    rcases idle with pending | done
    · cases ends with
      | dropped => exact .dropped pending
      | finished cell yields running =>
        rw [pending] at running
        cases running
    · rw [active] at done
      cases done
  | yield cell yields left running => simp [running, Caller.isDone] at idle
  | take cell waiting | share cell value waiting => simp [waiting, Caller.isDone] at idle

-- The producer of another key cannot fill the slot: it would claim the cell of this key.
theorem served_next (consistent : Consistent capacity calls flights)
    (served : Served key value flights) (effect : Effect flights next) :
    Served key value next := by
  refine ⟨?_, ?_⟩
  · obtain ⟨slot, found, same, lasting, filled⟩ := served.kept
    refine ⟨slot, ?_, same, lasting, filled⟩
    cases effect with
    | arrive index caller later admission present pending admits =>
      exact Cache.lasts_of_admits admits found lasting
    | yield | stop | pass => exact found
    | succeed index cell yields caller other present running =>
      refine (Cache.mem_fill_iff _ cell other slot).mpr (Or.inl ⟨found, ?_⟩)
      intro held
      have listed := List.mem_of_getElem? present
      have named :=
        consistent.owned caller listed cell (claims_of_running running) slot found held
      have idle := served.idle caller listed (named.symm.trans same)
      simp [running, Caller.isDone] at idle
  · intro after member named
    obtain ⟨before, listed, stage, rfl, moves⟩ := member_moves effect member
    have idle := served.idle before listed named
    cases fate_of_moves consistent served listed named moves with
    | same => exact idle
    | dropped | served => exact Or.inr rfl

end Service
end PoolRouting.Flight
