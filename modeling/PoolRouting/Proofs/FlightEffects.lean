import Mathlib.Logic.Relation
import PoolRouting.Cache.Flight
import PoolRouting.Proofs.CacheSlots

/-!
What one step of many callers does, said once. A caller is admitted; a producer goes on; an active
caller ends, alone or by handing its cell to a waiter; or a producer succeeds, which fills its cell
and lets all who wait for it go. Every invariant of a run is checked against these effects only.
-/

namespace PoolRouting.Flight
variable {κ α ε : Type}

def Caller.at (caller : Caller κ α ε) (stage : Stage α ε) : Caller κ α ε :=
  { caller with stage := stage }

/-- The caller is done: it went away, or its producer has run to its end. -/
inductive Ends (caller : Caller κ α ε) : Stage α ε → Prop where
  | dropped : Ends caller .dropped
  | finished (cell : Option Nat) (yields : Nat) (running : caller.stage = .running cell yields) :
      Ends caller (.finished ⟨caller.call.outcome, true⟩)

inductive Effect (flights : Flights κ α ε) : Flights κ α ε → Prop where
  | arrive (index : Nat) (caller : Caller κ α ε) (later : Cache κ α) (admission : Admission α)
      (present : flights.callers[index]? = some caller) (pending : caller.stage = .pending)
      (admits : flights.cache.Admits caller.call.key caller.call.lifetime later admission) :
      Effect flights
        ⟨later, flights.callers.set index
          (caller.at (admitted flights.callers caller.call admission))⟩
  | yield (index : Nat) (caller : Caller κ α ε) (cell : Option Nat) (yields left : Nat)
      (present : flights.callers[index]? = some caller)
      (running : caller.stage = .running cell yields) :
      Effect flights ⟨flights.cache, flights.callers.set index (caller.at (.running cell left))⟩
  | stop (index : Nat) (caller : Caller κ α ε) (stage : Stage α ε)
      (present : flights.callers[index]? = some caller) (active : caller.isDone = false)
      (ends : Ends caller stage) :
      Effect flights ⟨flights.cache, flights.callers.set index (caller.at stage)⟩
  | pass (index place cell yields : Nat) (caller other : Caller κ α ε) (stage : Stage α ε)
      (present : flights.callers[index]? = some caller)
      (running : caller.stage = .running (some cell) yields) (ends : Ends caller stage)
      (listed : flights.callers[place]? = some other) (waiting : other.stage = .waiting cell) :
      Effect flights
        ⟨flights.cache, (flights.callers.set index (caller.at stage)).set place
          (other.at (.running (some cell) other.call.yields))⟩
  | succeed (index cell yields : Nat) (caller : Caller κ α ε) (value : α)
      (present : flights.callers[index]? = some caller)
      (running : caller.stage = .running (some cell) yields)
      (outcome : caller.call.outcome = .ok value) :
      Effect flights
        ⟨flights.cache.fill cell value,
          release cell value (flights.callers.set index (caller.at (.finished ⟨.ok value, true⟩)))⟩

theorem runs_iff (cell : Nat) (caller : Caller κ α ε) :
    caller.runs cell = true ↔ ∃ yields, caller.stage = .running (some cell) yields := by
  unfold Caller.runs
  split
  · next running yields stage => simp [stage]
  · next other =>
    constructor
    · intro running
      cases running
    · rintro ⟨yields, stage⟩
      exact (other cell yields stage).elim

theorem waits_for_iff (cell : Nat) (caller : Caller κ α ε) :
    caller.waitsFor cell = true ↔ caller.stage = .waiting cell := by
  unfold Caller.waitsFor
  split
  · next waiting stage => simp [stage]
  · next other =>
    constructor
    · intro waiting
      cases waiting
    · intro stage
      exact (other cell stage).elim

/-! Lists of callers in which one caller is replaced. -/
section Callers
variable {callers : List (Caller κ α ε)}

theorem get_set_cases {index place : Nat} {new after : Caller κ α ε}
    (found : (callers.set index new)[place]? = some after) :
    (place = index ∧ after = new) ∨ (place ≠ index ∧ callers[place]? = some after) := by
  rw [List.getElem?_set] at found
  split at found
  · next same =>
    split at found
    · exact Or.inl ⟨same.symm, (Option.some.inj found).symm⟩
    · cases found
  · next different => exact Or.inr ⟨Ne.symm different, found⟩

theorem set_stage_eq {flights : Flights κ α ε} {index : Nat} {caller : Caller κ α ε}
    (present : flights.callers[index]? = some caller) (stage : Stage α ε) :
    flights.setStage index stage =
      { flights with callers := flights.callers.set index (caller.at stage) } := by
  have replaced : flights.callers.modify index (fun caller => { caller with stage := stage }) =
      flights.callers.set index (caller.at stage) := by
    rw [List.modify_eq_set_getElem?, present]
    rfl
  rw [Flights.setStage, replaced]

theorem get_release {cell place : Nat} {value : α} {after : Caller κ α ε}
    (found : (release cell value callers)[place]? = some after) :
    ∃ before, callers[place]? = some before ∧
      ((before.stage = .waiting cell ∧ after = before.at (.finished ⟨.ok value, false⟩)) ∨
        (before.stage ≠ .waiting cell ∧ after = before)) := by
  rw [release, List.getElem?_map] at found
  obtain ⟨before, listed, rfl⟩ := Option.map_eq_some_iff.mp found
  refine ⟨before, listed, ?_⟩
  split
  · next waits => exact Or.inl ⟨(waits_for_iff cell before).mp waits, rfl⟩
  · next apart => exact Or.inr ⟨fun stage => apart ((waits_for_iff cell before).mpr stage), rfl⟩

/-- At most one caller takes a cell over, and only one who waits for it. -/
theorem hand_over_cases (cell : Nat) (callers : List (Caller κ α ε)) :
    handOver cell callers = callers ∨
      ∃ (place : Nat) (other : Caller κ α ε), callers[place]? = some other ∧
        other.stage = .waiting cell ∧
        handOver cell callers =
          callers.set place (other.at (.running (some cell) other.call.yields)) := by
  induction callers with
  | nil => exact Or.inl rfl
  | cons caller rest ih =>
    by_cases waits : caller.waitsFor cell = true
    · refine Or.inr ⟨0, caller, rfl, (waits_for_iff cell caller).mp waits, ?_⟩
      rw [handOver, if_pos waits]
      rfl
    · rw [handOver, if_neg waits]
      rcases ih with same | ⟨place, other, listed, waiting, taken⟩
      · exact Or.inl (congrArg _ same)
      · exact Or.inr ⟨place + 1, other, listed, waiting, congrArg _ taken⟩

end Callers

section Steps
variable {flights next : Flights κ α ε}

-- Whoever stops running a cell leaves it to the first waiter, if there is one.
theorem hand_over_effect {index cell yields : Nat} {caller : Caller κ α ε} {stage : Stage α ε}
    (present : flights.callers[index]? = some caller)
    (running : caller.stage = .running (some cell) yields) (ends : Ends caller stage) :
    Effect flights
      ⟨flights.cache, handOver cell (flights.callers.set index (caller.at stage))⟩ := by
  rcases hand_over_cases cell (flights.callers.set index (caller.at stage)) with
    same | ⟨place, other, listed, waiting, taken⟩
  · rw [same]
    exact .stop index caller stage present (by simp [Caller.isDone, running]) ends
  · rw [taken]
    rcases get_set_cases listed with ⟨rfl, rfl⟩ | ⟨_, listed⟩
    · cases ends <;> cases waiting
    · exact .pass index place cell yields caller other stage present running ends listed waiting

theorem settle_effect {index : Nat} {caller : Caller κ α ε} {cell : Option Nat} {yields : Nat}
    (present : flights.callers[index]? = some caller)
    (running : caller.stage = .running cell yields) :
    Effect flights (flights.settle index cell caller.call.outcome) := by
  have ends := Ends.finished cell yields running
  have active : caller.isDone = false := by simp [Caller.isDone, running]
  unfold Flights.settle
  rw [set_stage_eq present]
  cases cell with
  | none => exact .stop index caller _ present active ends
  | some cell =>
    cases outcome : caller.call.outcome with
    | ok value => exact .succeed index cell yields caller value present running outcome
    | error error =>
      rw [outcome] at ends
      exact hand_over_effect present running ends

theorem leave_effect {index : Nat} {caller : Caller κ α ε}
    (present : flights.callers[index]? = some caller) (active : caller.isDone = false) :
    Effect flights (flights.leave index) := by
  have stops : Effect flights (flights.setStage index .dropped) := by
    rw [set_stage_eq present]
    exact .stop index caller .dropped present active .dropped
  unfold Flights.leave
  rw [present, Option.map_some]
  cases stage : caller.stage with
  | pending | waiting => exact stops
  | running cell yields =>
    cases cell with
    | none => exact stops
    | some cell =>
      dsimp only
      rw [set_stage_eq present]
      exact hand_over_effect present stage .dropped
  | finished | dropped => simp [Caller.isDone, stage] at active

variable [DecidableEq κ]

theorem step_effect (sound : flights.cache.Sound) (step : Step flights next) :
    Effect flights next := by
  cases step with
  | arrive index caller present pending =>
    have admits := Cache.request_admits sound caller.call.key caller.call.lifetime
    unfold Flights.arrive
    generalize flights.cache.request caller.call.key caller.call.lifetime = requested at admits
    obtain ⟨later, admission⟩ := requested
    have listed : (Flights.mk later flights.callers).callers[index]? = some caller := present
    dsimp only
    rw [set_stage_eq listed]
    exact .arrive index caller later admission present pending admits
  | settle index caller cell yields present running => exact settle_effect present running
  | yield index caller cell yields present running =>
    rw [set_stage_eq present]
    exact .yield index caller cell _ yields present running
  | leave index caller present active => exact leave_effect present active
  | pass index place cell yields caller other stage present running failed listed waiting =>
    have ends : Ends caller stage := by
      rcases failed with rfl | ⟨error, outcome, rfl⟩
      · exact .dropped
      · rw [← outcome]
        exact .finished (some cell) yields running
    have apart : index ≠ place := by
      rintro rfl
      cases present.symm.trans listed
      cases running.symm.trans waiting
    have kept : (Flights.mk flights.cache
        (flights.callers.set index (caller.at stage))).callers[place]? = some other :=
      (List.getElem?_set_ne apart).trans listed
    rw [set_stage_eq present, set_stage_eq kept]
    exact .pass index place cell yields caller other stage present running ends listed waiting

end Steps

/-! What one effect means for one caller, and for one slot. -/

inductive Stage.Claims (cell : Nat) : Stage α ε → Prop where
  | running (yields : Nat) : Claims cell (.running (some cell) yields)
  | waiting : Claims cell (.waiting cell)

theorem claims_of_running {caller : Caller κ α ε} {cell yields : Nat}
    (running : caller.stage = .running (some cell) yields) : caller.stage.Claims cell := by
  rw [running]
  exact .running yields

theorem claims_of_waiting {caller : Caller κ α ε} {cell : Nat}
    (waiting : caller.stage = .waiting cell) : caller.stage.Claims cell := by
  rw [waiting]
  exact .waiting

/-- The stages a caller can be in after a step. -/
inductive Moves (flights next : Flights κ α ε) (before : Caller κ α ε) : Stage α ε → Prop where
  | stay : Moves flights next before before.stage
  | arrive (admission : Admission α) (pending : before.stage = .pending)
      (admits : flights.cache.Admits before.call.key before.call.lifetime next.cache admission) :
      Moves flights next before (admitted flights.callers before.call admission)
  | yield (cell : Option Nat) (yields left : Nat) (running : before.stage = .running cell yields) :
      Moves flights next before (.running cell left)
  | stop (stage : Stage α ε) (active : before.isDone = false) (ends : Ends before stage) :
      Moves flights next before stage
  | take (cell : Nat) (waiting : before.stage = .waiting cell) :
      Moves flights next before (.running (some cell) before.call.yields)
  | share (cell : Nat) (value : α) (waiting : before.stage = .waiting cell) :
      Moves flights next before (.finished ⟨.ok value, false⟩)

theorem claims_of_admitted {callers : List (Caller κ α ε)} {call : Call κ α ε}
    {admission : Admission α} {cell : Nat} (claims : (admitted callers call admission).Claims cell) :
    admission = .cell cell := by
  cases admission with
  | hit | bypass => cases claims
  | cell given =>
    by_cases taken : callers.any (Caller.runs given) = true
    · rw [admitted, if_pos taken] at claims
      cases claims
      rfl
    · rw [admitted, if_neg taken] at claims
      cases claims
      rfl

/-- Nobody is let run a cell that a caller runs. -/
theorem idle_of_admitted {callers : List (Caller κ α ε)} {call : Call κ α ε}
    {admission : Admission α} {cell yields : Nat}
    (running : admitted callers call admission = .running (some cell) yields) :
    callers.any (Caller.runs cell) = false := by
  cases admission with
  | hit | bypass => cases running
  | cell given =>
    by_cases taken : callers.any (Caller.runs given) = true
    · rw [admitted, if_pos taken] at running
      cases running
    · rw [admitted, if_neg taken] at running
      cases running
      exact Bool.eq_false_iff.mpr taken

section Views
variable {flights next : Flights κ α ε}

theorem active_of_running {caller : Caller κ α ε} {cell : Option Nat} {yields : Nat}
    (running : caller.stage = .running cell yields) : caller.isDone = false := by
  simp [Caller.isDone, running]

theorem effect_moves (effect : Effect flights next) {place : Nat} {after : Caller κ α ε}
    (listed : next.callers[place]? = some after) :
    ∃ before stage, flights.callers[place]? = some before ∧ after = before.at stage ∧
      Moves flights next before stage := by
  cases effect with
  | arrive index caller later admission present pending admits =>
    rcases get_set_cases listed with ⟨rfl, rfl⟩ | ⟨_, listed⟩
    · exact ⟨caller, _, present, rfl, .arrive admission pending admits⟩
    · exact ⟨after, _, listed, rfl, .stay⟩
  | yield index caller cell yields left present running =>
    rcases get_set_cases listed with ⟨rfl, rfl⟩ | ⟨_, listed⟩
    · exact ⟨caller, _, present, rfl, .yield cell yields left running⟩
    · exact ⟨after, _, listed, rfl, .stay⟩
  | stop index caller stage present active ends =>
    rcases get_set_cases listed with ⟨rfl, rfl⟩ | ⟨_, listed⟩
    · exact ⟨caller, _, present, rfl, .stop stage active ends⟩
    · exact ⟨after, _, listed, rfl, .stay⟩
  | pass index taker cell yields caller other stage present running ends found waiting =>
    rcases get_set_cases listed with ⟨rfl, rfl⟩ | ⟨_, listed⟩
    · exact ⟨other, _, found, rfl, .take cell waiting⟩
    · rcases get_set_cases listed with ⟨rfl, rfl⟩ | ⟨_, listed⟩
      · exact ⟨caller, _, present, rfl, .stop stage (active_of_running running) ends⟩
      · exact ⟨after, _, listed, rfl, .stay⟩
  | succeed index cell yields caller value present running outcome =>
    have ends := Ends.finished (some cell) yields running
    rw [outcome] at ends
    obtain ⟨before, found, released⟩ := get_release listed
    rcases get_set_cases found with ⟨rfl, rfl⟩ | ⟨_, found⟩
    · rcases released with ⟨waiting, _⟩ | ⟨_, rfl⟩
      · cases waiting
      · exact ⟨caller, _, present, rfl, .stop _ (active_of_running running) ends⟩
    · rcases released with ⟨waiting, rfl⟩ | ⟨_, rfl⟩
      · exact ⟨before, _, found, rfl, .share cell value waiting⟩
      · exact ⟨after, _, found, rfl, .stay⟩

theorem effect_length (effect : Effect flights next) :
    next.callers.length = flights.callers.length := by
  cases effect with
  | arrive | yield | stop => exact List.length_set
  | pass => exact List.length_set.trans List.length_set
  | succeed => exact (List.length_map _).trans List.length_set

theorem moves_of_effect (effect : Effect flights next) {place : Nat} {before : Caller κ α ε}
    (listed : flights.callers[place]? = some before) :
    ∃ stage, Moves flights next before stage ∧ next.callers[place]? = some (before.at stage) := by
  have bound := (List.getElem?_eq_some_iff.mp listed).1
  rw [← effect_length effect] at bound
  have after := List.getElem?_eq_getElem bound
  obtain ⟨caller, stage, found, moved, moves⟩ := effect_moves effect after
  cases Option.some.inj (listed.symm.trans found)
  exact ⟨stage, moves, after.trans (congrArg some moved)⟩

theorem effect_sound (sound : flights.cache.Sound) (effect : Effect flights next) :
    next.cache.Sound := by
  cases effect with
  | arrive index caller later admission present pending admits =>
    exact Cache.sound_of_admits sound admits
  | yield | stop | pass => exact sound
  | succeed index cell yields caller value => exact Cache.fill_sound sound cell value

theorem effect_capacity (effect : Effect flights next) :
    next.cache.capacity = flights.cache.capacity := by
  cases effect with
  | arrive index caller later admission present pending admits =>
    exact Cache.capacity_of_admits admits
  | _ => rfl

theorem effect_issued (effect : Effect flights next) :
    flights.cache.issued ≤ next.cache.issued := by
  cases effect with
  | arrive index caller later admission present pending admits =>
    exact Cache.issued_of_admits admits
  | _ => exact Nat.le_refl _

/-- A slot is an old one, but perhaps for its value, or the new one of an admitted caller. -/
theorem slot_origin (effect : Effect flights next) {slot : Slot κ α}
    (member : slot ∈ next.cache.slots) :
    (∃ old ∈ flights.cache.slots,
      old.key = slot.key ∧ old.cell = slot.cell ∧ old.lifetime = slot.lifetime) ∨
      ∃ caller ∈ flights.callers, slot = ⟨caller.call.key, caller.call.lifetime,
        flights.cache.issued, none⟩ := by
  cases effect with
  | arrive index caller later admission present pending admits =>
    rcases Cache.mem_of_admits admits member with old | new
    · exact Or.inl ⟨slot, old, rfl, rfl, rfl⟩
    · exact Or.inr ⟨caller, List.mem_of_getElem? present, new⟩
  | yield | stop | pass => exact Or.inl ⟨slot, member, rfl, rfl, rfl⟩
  | succeed index cell yields caller value =>
    exact Or.inl (Cache.origin_of_fill member)

/-- A slot that lasts stays, but perhaps for its value. -/
theorem slot_stays (effect : Effect flights next) {slot : Slot κ α}
    (member : slot ∈ flights.cache.slots) (lasting : slot.lifetime = .lasting) :
    ∃ later ∈ next.cache.slots,
      later.key = slot.key ∧ later.cell = slot.cell ∧ later.lifetime = .lasting := by
  cases effect with
  | arrive index caller later admission present pending admits =>
    exact ⟨slot, Cache.lasts_of_admits admits member lasting, rfl, rfl, lasting⟩
  | yield | stop | pass => exact ⟨slot, member, rfl, rfl, lasting⟩
  | succeed index cell yields caller value =>
    obtain ⟨later, found, keys, cells, life, _⟩ := Cache.stays_in_fill member cell value
    exact ⟨later, found, keys, cells, life.trans lasting⟩

end Views
end PoolRouting.Flight
