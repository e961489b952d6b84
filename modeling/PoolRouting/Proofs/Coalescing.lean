import PoolRouting.Proofs.FlightInvariants

/-!
Callers of one key share its producer, however their steps interleave.
-/

namespace PoolRouting.Flight
variable {κ α ε : Type}

/-- The caller at the place asks for the key, and its producer is in flight. -/
def Flights.Produces (flights : Flights κ α ε) (key : κ) (place : Nat) : Prop :=
  ∃ caller cell yields, flights.callers[place]? = some caller ∧ caller.call.key = key ∧
    caller.stage = .running cell yields

section Success
variable {capacity : Nat} {calls : List (Call κ α ε)} {key : κ} {value : α}
variable {flights : Flights κ α ε}

-- Without a cell the cache would be shut to the key, and a cell of the key is that of its slot.
theorem running_backed (steady : Steady key flights) (unshut : ¬ flights.cache.Shut key)
    {caller : Caller κ α ε} (listed : caller ∈ flights.callers) (named : caller.call.key = key)
    {cell : Option Nat} {yields : Nat} (running : caller.stage = .running cell yields) :
    ∃ slot ∈ flights.cache.slots, slot.key = key ∧ cell = some slot.cell := by
  cases cell with
  | none => exact (unshut (steady.shut caller listed named yields running)).elim
  | some cell =>
    obtain ⟨slot, found, same, rfl⟩ :=
      steady.backed caller listed named cell (claims_of_running running)
    exact ⟨slot, found, same, rfl⟩

theorem producer_single (consistent : Consistent capacity calls flights)
    (steady : Steady key flights) (unshut : ¬ flights.cache.Shut key) {first second : Nat}
    (one : flights.Produces key first) (two : flights.Produces key second) : first = second := by
  obtain ⟨caller, cell, yields, listed, named, running⟩ := one
  obtain ⟨other, place, left, found, same, producing⟩ := two
  obtain ⟨slot, kept, keys, rfl⟩ :=
    running_backed steady unshut (List.mem_of_getElem? listed) named running
  obtain ⟨twin, held, twins, rfl⟩ :=
    running_backed steady unshut (List.mem_of_getElem? found) same producing
  cases List.inj_on_of_nodup_map consistent.sound.keys kept held (keys.trans twins.symm)
  exact consistent.single slot.cell first second ⟨caller, yields, listed, running⟩
    ⟨other, left, found, producing⟩

/-- A producer of the key comes to a value. -/
inductive Succeeds [DecidableEq κ] (flights : Flights κ α ε) (key : κ) (value : α) :
    Flights κ α ε → Prop where
  | settle (index : Nat) (caller : Caller κ α ε) (cell : Option Nat) (yields : Nat)
      (present : flights.callers[index]? = some caller) (named : caller.call.key = key)
      (running : caller.stage = .running cell yields) (outcome : caller.call.outcome = .ok value) :
      Succeeds flights key value (flights.settle index cell (.ok value))

theorem same_cell (consistent : Consistent capacity calls flights) (steady : Steady key flights)
    {caller other : Caller κ α ε} (listed : caller ∈ flights.callers)
    (named : caller.call.key = key) (found : other ∈ flights.callers) (same : other.call.key = key)
    {cell place : Nat} (claims : caller.stage.Claims cell) (rivals : other.stage.Claims place) :
    cell = place := by
  obtain ⟨slot, kept, keys, rfl⟩ := steady.backed caller listed named cell claims
  obtain ⟨twin, held, twins, rfl⟩ := steady.backed other found same place rivals
  rw [List.inj_on_of_nodup_map consistent.sound.keys kept held (keys.trans twins.symm)]

variable [DecidableEq κ]

/-- A success fills the slot of the key and finishes all who wait. -/
theorem success_serves (consistent : Consistent capacity calls flights) (steady : Steady key flights)
    (unshut : ¬ flights.cache.Shut key) {after : Flights κ α ε}
    (succeeds : Succeeds flights key value after) :
    Served key value after ∧
      ∀ (place : Nat) (caller : Caller κ α ε) (cell : Nat),
        flights.callers[place]? = some caller → caller.call.key = key →
          caller.stage = .waiting cell →
            after.callers[place]? = some (caller.at (.finished ⟨.ok value, false⟩)) := by
  obtain ⟨index, producer, cell, yields, present, named, running, outcome⟩ := succeeds
  have listed := List.mem_of_getElem? present
  obtain ⟨slot, kept, keys, rfl⟩ := running_backed steady unshut listed named running
  have claims := claims_of_running running
  have settled : flights.settle index (some slot.cell) (.ok value) =
      ⟨flights.cache.fill slot.cell value, release slot.cell value
        (flights.callers.set index (producer.at (.finished ⟨.ok value, true⟩)))⟩ := by
    unfold Flights.settle
    rw [set_stage_eq present]
    rfl
  rw [settled]
  refine ⟨⟨?_, ?_⟩, ?_⟩
  · refine ⟨{ slot with value := some value }, ?_, keys, steady.lasting slot kept keys, rfl⟩
    exact (Cache.mem_fill_iff _ _ value _).mpr (Or.inr ⟨slot, kept, rfl, rfl⟩)
  · intro caller member same
    obtain ⟨place, released⟩ := List.mem_iff_getElem?.mp member
    obtain ⟨before, found, moved⟩ := get_release released
    rcases moved with ⟨_, rfl⟩ | ⟨apart, rfl⟩
    · exact Or.inr rfl
    rcases get_set_cases found with ⟨_, rfl⟩ | ⟨other, found⟩
    · exact Or.inr rfl
    -- Whoever still claims a cell would claim this one, so would wait for it or be the producer.
    have held := List.mem_of_getElem? found
    cases stage : caller.stage with
    | pending => exact Or.inl rfl
    | running run left =>
      have produces : flights.Produces key place := ⟨caller, _, left, found, same, stage⟩
      exact (other (producer_single consistent steady unshut produces
        ⟨producer, _, yields, present, named, running⟩)).elim
    | waiting wanted =>
      have rivals := claims_of_waiting stage
      rw [same_cell consistent steady listed named held same claims rivals] at apart
      exact (apart stage).elim
    | finished | dropped => exact Or.inr (by simp [Caller.isDone, stage])
  · intro place caller cell found same waiting
    have rivals := claims_of_waiting waiting
    cases same_cell consistent steady listed named (List.mem_of_getElem? found) same claims rivals
    have different : index ≠ place := by
      rintro rfl
      rw [present] at found
      cases found
      rw [running] at waiting
      cases waiting
    rw [release, List.getElem?_map, List.getElem?_set_ne different, found, Option.map_some,
      if_pos ((waits_for_iff _ caller).mpr waiting)]
    rfl

theorem arrive_served (consistent : Consistent capacity calls flights)
    (served : Served key value flights) {place : Nat} {caller : Caller κ α ε}
    (listed : flights.callers[place]? = some caller) (named : caller.call.key = key) :
    (flights.arrive place caller.call).callers[place]? =
      some (caller.at (.finished ⟨.ok value, false⟩)) := by
  obtain ⟨slot, kept, keys, lasting, filled⟩ := served.kept
  have admits := Cache.request_admits consistent.sound caller.call.key caller.call.lifetime
  have hit := Cache.hit_of_admits consistent.sound admits kept (keys.trans named.symm) lasting filled
  unfold Flights.arrive
  generalize flights.cache.request caller.call.key caller.call.lifetime = requested at hit
  obtain ⟨later, admission⟩ := requested
  obtain ⟨rfl, rfl⟩ := hit
  dsimp only
  rw [set_stage_eq listed, List.getElem?_set_self (List.getElem?_eq_some_iff.mp listed).1]
  rfl

end Success

/-- Any number of steps. -/
abbrev Run [DecidableEq κ] : Flights κ α ε → Flights κ α ε → Prop :=
  Relation.ReflTransGen Step

section Runs
variable [DecidableEq κ] {capacity : Nat} {calls : List (Call κ α ε)} {key : κ} {value : α}
variable {flights later : Flights κ α ε}

theorem run_consistent (run : Run flights later) (consistent : Consistent capacity calls flights) :
    Consistent capacity calls later := by
  induction run with
  | refl => exact consistent
  | tail _ step ih => exact consistent_next ih (step_effect ih.sound step)

theorem run_steady (run : Run flights later) (consistent : Consistent capacity calls flights)
    (lasts : ∀ call ∈ calls, call.key = key → call.lifetime = .lasting)
    (steady : Steady key flights) : Steady key later := by
  induction run with
  | refl => exact steady
  | tail run step ih =>
    have before := run_consistent run consistent
    exact steady_next before lasts ih (step_effect before.sound step)

theorem run_shut (run : Run flights later) (consistent : Consistent capacity calls flights)
    (shut : flights.cache.Shut key) : later.cache.Shut key := by
  induction run with
  | refl => exact shut
  | tail run step ih =>
    have before := run_consistent run consistent
    exact shut_next before.sound ih (step_effect before.sound step)

theorem run_keeps (run : Run flights later) (consistent : Consistent capacity calls flights)
    (entered : ∃ slot ∈ flights.cache.slots, slot.key = key ∧ slot.lifetime = .lasting) :
    ∃ slot ∈ later.cache.slots, slot.key = key ∧ slot.lifetime = .lasting := by
  induction run with
  | refl => exact entered
  | tail run step ih =>
    obtain ⟨slot, found, named, lasting⟩ := ih
    have before := run_consistent run consistent
    obtain ⟨kept, member, keys, _, lasts⟩ :=
      slot_stays (step_effect before.sound step) found lasting
    exact ⟨kept, member, keys.trans named, lasts⟩

theorem fate_trans {first second third : Stage α ε} (early : Fate value first second)
    (late : Fate value second third) : Fate value first third := by
  cases late with
  | same => exact early
  | dropped pending | served pending =>
    rw [pending] at early
    cases early
    first | exact .dropped rfl | exact .served rfl

theorem run_served (run : Run flights later) (consistent : Consistent capacity calls flights)
    (served : Served key value flights) :
    Served key value later ∧
      ∀ (place : Nat) (caller : Caller κ α ε),
        flights.callers[place]? = some caller → caller.call.key = key →
          ∃ stage, later.callers[place]? = some (caller.at stage) ∧ Fate value caller.stage stage := by
  induction run with
  | refl => exact ⟨served, fun place caller listed _ => ⟨caller.stage, listed, .same⟩⟩
  | tail run step ih =>
    obtain ⟨before, fates⟩ := ih
    have sound := run_consistent run consistent
    have effect := step_effect sound.sound step
    refine ⟨served_next sound before effect, fun place caller listed named => ?_⟩
    obtain ⟨stage, found, fate⟩ := fates place caller listed named
    obtain ⟨next, moves, arrived⟩ := moves_of_effect effect found
    have held := List.mem_of_getElem? found
    exact ⟨next, arrived, fate_trans fate (fate_of_moves sound before held named moves)⟩

theorem step_of_success {after : Flights κ α ε} (succeeds : Succeeds flights key value after) :
    Step flights after := by
  obtain ⟨index, caller, cell, yields, present, _, running, outcome⟩ := succeeds
  rw [← outcome]
  exact .settle flights index caller cell yields present running

/-! The turns of one thread are such steps. -/

theorem advance_run (flights : Flights κ α ε) (index : Nat) : Run flights (flights.advance index) := by
  unfold Flights.advance
  split
  · next call cell present => exact .single (.settle flights index _ cell 0 present rfl)
  · next call cell yields present => exact .single (.yield flights index _ cell yields present rfl)
  · exact .refl

theorem turn_run (flights : Flights κ α ε) (index : Nat) : Run flights (flights.turn index) := by
  unfold Flights.turn
  split
  · next call present => exact .head (.arrive flights index _ present rfl) (advance_run _ index)
  · exact advance_run flights index

theorem turns_run (places : List Nat) (flights : Flights κ α ε) :
    Run flights (places.foldl Flights.turn flights) := by
  induction places generalizing flights with
  | nil => exact .refl
  | cons place rest ih => exact (turn_run flights place).trans (ih _)

theorem rounds_run (count : Nat) (flights : Flights κ α ε) : Run flights (flights.rounds count) := by
  induction count generalizing flights with
  | zero => exact .refl
  | succ count ih => exact (turns_run _ flights).trans (ih _)

theorem schedule_run (capacity : Nat) (calls : List (Call κ α ε)) :
    Run (.start capacity calls) (Flights.run (Cache.empty capacity) calls) :=
  rounds_run _ _

/-- The key has a slot in some state of a run through this one. -/
def Enters (capacity : Nat) (calls : List (Call κ α ε)) (flights : Flights κ α ε) (key : κ) :
    Prop :=
  ∃ other, Run (.start capacity calls) other ∧ (Run other flights ∨ Run flights other) ∧
    ∃ slot ∈ other.cache.slots, slot.key = key

theorem unshut_of_enters (reached : Run (.start capacity calls) flights)
    (lasts : ∀ call ∈ calls, call.key = key → call.lifetime = .lasting)
    (enters : Enters capacity calls flights key) : ¬ flights.cache.Shut key := by
  intro shut
  have fresh := start_consistent capacity calls
  obtain ⟨other, run, between, slot, member, named⟩ := enters
  rcases between with past | ahead
  · have lasting := (run_steady run fresh lasts (start_steady capacity calls key)).lasting
    obtain ⟨kept, found, same, _⟩ :=
      run_keeps past (run_consistent run fresh) ⟨slot, member, named, lasting slot member named⟩
    exact shut.absent kept found same
  · exact (run_shut ahead (run_consistent reached fresh) shut).absent slot member named

end Runs

/-- The cache never holds more than its capacity, and a failure is that of the caller's own
producer. A key that enters the cache and does not expire has at most one producer in flight; from
the success of one on, none is started, whoever waits has its value, and so has whoever comes. -/
theorem requests_coalesce [DecidableEq κ] (capacity : Nat) (calls : List (Call κ α ε))
    (flights : Flights κ α ε) (reached : Run (.start capacity calls) flights) :
    flights.cache.size ≤ capacity ∧
    (∀ caller ∈ flights.callers, ∀ error ran, caller.stage = .finished ⟨.error error, ran⟩ →
      ran = true ∧ caller.call.outcome = .error error) ∧
    ∀ key, (∀ call ∈ calls, call.key = key → call.lifetime = .lasting) →
      Enters capacity calls flights key →
      (∀ first second, flights.Produces key first → flights.Produces key second →
        first = second) ∧
      ∀ before after value, Run (.start capacity calls) before →
        Succeeds before key value after → Run after flights →
        (∀ place, ¬ flights.Produces key place) ∧
        (∀ (place : Nat) (caller : Caller κ α ε) (cell : Nat),
          before.callers[place]? = some caller → caller.call.key = key →
            caller.stage = .waiting cell →
              flights.callers[place]? = some (caller.at (.finished ⟨.ok value, false⟩))) ∧
        (∀ (place : Nat) (caller : Caller κ α ε),
          after.callers[place]? = some caller → caller.call.key = key →
            ∃ stage, flights.callers[place]? = some (caller.at stage) ∧
              Fate value caller.stage stage) ∧
        ∀ (place : Nat) (caller : Caller κ α ε),
          flights.callers[place]? = some caller → caller.call.key = key →
            caller.stage = .pending →
              (flights.arrive place caller.call).callers[place]? =
                some (caller.at (.finished ⟨.ok value, false⟩)) := by
  have fresh := start_consistent capacity calls
  have consistent := run_consistent reached fresh
  refine ⟨?_, consistent.failed, ?_⟩
  · rw [← consistent.limit]
    exact consistent.sound.bounded
  intro key lasts enters
  have begun := start_steady capacity calls key
  have unshut := unshut_of_enters reached lasts enters
  have steady := run_steady reached fresh lasts begun
  refine ⟨fun first second => producer_single consistent steady unshut, ?_⟩
  intro before after value run succeeds rest
  have sound := run_consistent run fresh
  have step := Relation.ReflTransGen.single (step_of_success succeeds)
  have open_before : ¬ before.cache.Shut key := fun shut =>
    unshut (run_shut (step.trans rest) sound shut)
  obtain ⟨served, waiters⟩ :=
    success_serves sound (run_steady run fresh lasts begun) open_before succeeds
  obtain ⟨still, fates⟩ := run_served rest (run_consistent step sound) served
  refine ⟨?_, ?_, fates, ?_⟩
  · rintro place ⟨caller, cell, yields, listed, named, running⟩
    have idle := still.idle caller (List.mem_of_getElem? listed) named
    simp [running, Caller.isDone] at idle
  · intro place caller cell listed named waiting
    obtain ⟨stage, found, fate⟩ := fates place _ (waiters place caller cell listed named waiting) named
    cases fate with
    | same => exact found
    | dropped pending | served pending => cases pending
  · intro place caller listed named _
    exact arrive_served consistent still listed named

-- Three callers of one key: one computes, one waits, and one comes late.
theorem requests_coalesce_three :
    let call : Call Nat Nat Nat := ⟨0, .lasting, .ok 7, 0⟩
    let calls := [call, call, call]
    let before := ((Flights.start 1 calls).arrive 0 call).arrive 1 call
    let after := before.settle 0 (some 0) (.ok 7)
    Run (.start 1 calls) after ∧ Enters 1 calls after 0 ∧ Succeeds before 0 7 after ∧
      after.cache.size ≤ 1 ∧ (∀ place, ¬ after.Produces 0 place) ∧
      after.callers[1]? = some ⟨call, .finished ⟨.ok 7, false⟩⟩ ∧
      (after.arrive 2 call).callers[2]? = some ⟨call, .finished ⟨.ok 7, false⟩⟩ := by
  intro call calls before after
  have run : Run (.start 1 calls) before :=
    .tail (.tail .refl (.arrive _ 0 ⟨call, .pending⟩ rfl rfl)) (.arrive _ 1 ⟨call, .pending⟩ rfl rfl)
  have succeeds : Succeeds before 0 7 after :=
    .settle 0 ⟨call, .running (some 0) 0⟩ (some 0) 0 rfl rfl rfl rfl
  have reached : Run (.start 1 calls) after := run.tail (step_of_success succeeds)
  have enters : Enters 1 calls after 0 :=
    ⟨after, reached, Or.inl .refl, ⟨0, .lasting, 0, some 7⟩, List.mem_singleton_self _, rfl⟩
  have lasts : ∀ other ∈ calls, other.key = 0 → other.lifetime = .lasting := by
    intro other member _
    simp only [calls, List.mem_cons, List.not_mem_nil, or_false, or_self] at member
    rw [member]
  obtain ⟨bounded, _, coalesced⟩ := requests_coalesce 1 calls after reached
  obtain ⟨_, served⟩ := coalesced 0 lasts enters
  obtain ⟨idle, waiters, _, late⟩ := served before after 7 run succeeds .refl
  exact ⟨reached, enters, succeeds, bounded, idle,
    waiters 1 ⟨call, .waiting 0⟩ 0 rfl rfl rfl, late 2 ⟨call, .pending⟩ rfl rfl rfl⟩

end PoolRouting.Flight
