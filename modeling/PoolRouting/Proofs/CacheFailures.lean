import PoolRouting.Proofs.CacheReplies

/-!
What a failed computation leaves in a cache whose entries last. No value, but a seat: two runs that
differ by one failing query answer alike until the cache is full, and from then on differ for at
most two keys, the one that failed and one that found its seat taken.
-/

namespace PoolRouting
namespace Cache
variable {κ α ε : Type}

/-- Two lists of seats that agree but for one key on each side. -/
structure Differ (lost gained : κ) (kept cut : List κ) : Prop where
  more : ∀ key ∈ kept, key ∈ cut ∨ key = lost
  fewer : ∀ key ∈ cut, key ∈ kept ∨ key = gained

/-- The same seats are taken, in whatever order. -/
structure Level (kept cut : List κ) : Prop where
  members : ∀ key, key ∈ kept ↔ key ∈ cut
  counted : kept.length = cut.length

/-- One more seat is taken, by a key that the other side does not seat. -/
structure Ahead (capacity : Nat) (lost : κ) (kept cut : List κ) : Prop where
  absent : lost ∉ cut
  members : ∀ key, key ∈ kept ↔ key = lost ∨ key ∈ cut
  counted : kept.length = cut.length + 1
  fits : kept.length ≤ capacity

theorem differ_of_level {kept cut : List κ} (level : Level kept cut) (lost gained : κ) :
    Differ lost gained kept cut :=
  ⟨fun key seated => Or.inl ((level.members key).mp seated),
    fun key seated => Or.inl ((level.members key).mpr seated)⟩

theorem differ_of_ahead {capacity : Nat} {lost : κ} {kept cut : List κ}
    (ahead : Ahead capacity lost kept cut) (gained : κ) : Differ lost gained kept cut :=
  ⟨fun key seated => ((ahead.members key).mp seated).symm,
    fun key seated => Or.inl ((ahead.members key).mpr (Or.inr seated))⟩

section Seats
variable [DecidableEq κ] {capacity : Nat} {lost gained : κ} {kept cut : List κ}

theorem seats_append (capacity : Nat) (keys more : List κ) :
    seats capacity (keys ++ more) = more.foldl (seat capacity) (seats capacity keys) := by
  simp [seats, List.foldl_append]

theorem seats_behind_full {taken : List κ} (full : capacity ≤ taken.length) (keys : List κ) :
    keys.foldl (seat capacity) taken = taken := by
  induction keys with
  | nil => rfl
  | cons key rest ih => rw [List.foldl_cons, seat_full full, ih]

theorem seat_level (level : Level kept cut) (capacity : Nat) (key : κ) :
    Level (seat capacity kept key) (seat capacity cut key) := by
  by_cases stays : key ∈ kept ∨ capacity ≤ kept.length
  · have also : key ∈ cut ∨ capacity ≤ cut.length := by
      rwa [← level.members, ← level.counted]
    simpa [seat, stays, also] using level
  · have also : ¬(key ∈ cut ∨ capacity ≤ cut.length) := by
      rwa [← level.members, ← level.counted]
    simp only [seat, stays, also, if_false]
    exact ⟨by simp [level.members], by simp [level.counted]⟩

theorem seats_level (level : Level kept cut) (capacity : Nat) (keys : List κ) :
    Level (keys.foldl (seat capacity) kept) (keys.foldl (seat capacity) cut) := by
  induction keys generalizing kept cut with
  | nil => exact level
  | cons key rest ih => exact ih (seat_level level capacity key)

/-- The seat is made up for once its key is asked for again. -/
theorem level_of_ahead (ahead : Ahead capacity lost kept cut) :
    Level (seat capacity kept lost) (seat capacity cut lost) := by
  have seated := (ahead.members lost).mpr (Or.inl rfl)
  have counted := ahead.counted
  have fits := ahead.fits
  rw [seat_taken seated, seat_free ahead.absent (by omega)]
  exact ⟨by simp [ahead.members], by simp [counted]⟩

theorem ahead_seat {key : κ} (ahead : Ahead capacity lost kept cut) (other : key ≠ lost)
    (room : key ∈ kept ∨ kept.length < capacity) :
    Ahead capacity lost (seat capacity kept key) (seat capacity cut key) := by
  by_cases seated : key ∈ kept
  · have also := ((ahead.members key).mp seated).resolve_left other
    rwa [seat_taken seated, seat_taken also]
  · have free := room.resolve_left seated
    have unseated : key ∉ cut := fun also => seated ((ahead.members key).mpr (Or.inr also))
    have counted := ahead.counted
    rw [seat_free seated free, seat_free unseated (by omega)]
    exact
      { absent := by simp [Ne.symm other, ahead.absent]
        members := by simp [ahead.members, or_left_comm]
        counted := by simp [counted]
        fits := free }

-- Whoever asks first where only the other side has a seat left takes it, and both sides are full.
theorem differ_of_crowded {key : κ} (ahead : Ahead capacity lost kept cut) (unseated : key ∉ kept)
    (full : capacity ≤ kept.length) (keys : List κ) :
    Differ lost key ((key :: keys).foldl (seat capacity) kept)
      ((key :: keys).foldl (seat capacity) cut) := by
  have absent : key ∉ cut := fun also => unseated ((ahead.members key).mpr (Or.inr also))
  have counted := ahead.counted
  have fits := ahead.fits
  have crowded : capacity ≤ (key :: cut).length := by
    rw [List.length_cons]
    omega
  rw [seats_behind_full full, List.foldl_cons, seat_free absent (by omega),
    seats_behind_full crowded]
  refine ⟨fun other seated => ?_, fun other seated => ?_⟩
  · rcases (ahead.members other).mp seated with rfl | also
    · exact Or.inr rfl
    · exact Or.inl (List.mem_cons_of_mem _ also)
  · rcases List.mem_cons.mp seated with rfl | also
    · exact Or.inr rfl
    · exact Or.inl ((ahead.members other).mpr (Or.inr also))

/-- However the queries go on, one key at most gains what the other lost. -/
theorem ahead_differs (ahead : Ahead capacity lost kept cut) (keys : List κ) :
    ∃ gained, ∀ index, Differ lost gained ((keys.take index).foldl (seat capacity) kept)
      ((keys.take index).foldl (seat capacity) cut) := by
  induction keys generalizing kept cut with
  | nil => exact ⟨lost, fun index => by simpa using differ_of_ahead ahead lost⟩
  | cons key rest ih =>
    by_cases same : key = lost
    · refine ⟨lost, fun index => ?_⟩
      cases index with
      | zero => exact differ_of_ahead ahead lost
      | succ index =>
        subst same
        exact differ_of_level (seats_level (level_of_ahead ahead) capacity _) _ _
    · by_cases room : key ∈ kept ∨ kept.length < capacity
      · obtain ⟨gained, differ⟩ := ih (ahead_seat ahead same room)
        refine ⟨gained, fun index => ?_⟩
        cases index with
        | zero => exact differ_of_ahead ahead gained
        | succ index => exact differ index
      · obtain ⟨unseated, full⟩ := not_or.mp room
        refine ⟨key, fun index => ?_⟩
        cases index with
        | zero => exact differ_of_ahead ahead key
        | succ index => exact differ_of_crowded ahead unseated (Nat.le_of_not_lt full) _

/-- One key more in front takes at most one seat from another key. -/
theorem seats_differ (capacity : Nat) (before : List κ) (lost : κ) (after : List κ) :
    ∃ gained, ∀ index, Differ lost gained (seats capacity (before ++ lost :: after.take index))
      (seats capacity (before ++ after.take index)) := by
  simp only [seats_append, List.foldl_cons]
  by_cases stays : lost ∈ seats capacity before ∨ capacity ≤ (seats capacity before).length
  · refine ⟨lost, fun index => ?_⟩
    rw [seat, if_pos stays]
    exact differ_of_level ⟨fun _ => Iff.rfl, rfl⟩ _ _
  · obtain ⟨absent, free⟩ := not_or.mp stays
    have room := Nat.lt_of_not_le free
    rw [seat_free absent room]
    exact ahead_differs ⟨absent, by simp, rfl, room⟩ after

/-- Nobody is turned away on account of a key that has asked before, or when the cache is full. -/
theorem seats_without {before : List κ} (kept : lost ∈ before ∨
    capacity ≤ (seats capacity before).length) (after : List κ) :
    seats capacity (before ++ lost :: after) = seats capacity (before ++ after) := by
  have stays : seat capacity (seats capacity before) lost = seats capacity before := by
    by_cases full : capacity ≤ (seats capacity before).length
    · exact seat_full full lost
    · have asked := kept.resolve_right full
      exact seat_taken (seated_of_room (Nat.lt_of_not_le full) asked)
  rw [seats_append, seats_append, List.foldl_cons, stays]

end Seats

/-! The run with the failing query against the run without it. -/
section Runs
variable [DecidableEq κ] {capacity : Nat} {before after : List (Query κ ε α)}
variable {failed query : Query κ ε α} {error : ε}

/-- The query at this place behind the failing one gets the same lookup in both runs. -/
def Unmoved (capacity : Nat) (before : List (Query κ ε α)) (failed : Query κ ε α)
    (after : List (Query κ ε α)) (index : Nat) : Prop :=
  (run capacity (before ++ failed :: after))[before.length + 1 + index]? =
    (run capacity (before ++ after))[before.length + index]?

theorem get_before {index : Nat} (placed : index < before.length) (rest : List (Query κ ε α)) :
    (run capacity (before ++ rest))[index]? =
      before[index]?.map (reply capacity (before.take index)) := by
  rw [get_run, List.getElem?_append_left placed,
    List.take_append_of_le_length (Nat.le_of_lt placed)]

theorem get_behind {index : Nat} (placed : after[index]? = some query)
    (before : List (Query κ ε α)) :
    (run capacity (before ++ after))[before.length + index]? =
      some (reply capacity (before ++ after.take index) query) := by
  rw [get_run, List.getElem?_append_right (Nat.le_add_right _ _), Nat.add_sub_cancel_left,
    placed, List.take_length_add_append]
  rfl

theorem first_success_without (fails : failed.outcome = .error error) (key : κ)
    (past : List (Query κ ε α)) :
    firstSuccess? key (before ++ failed :: past) = firstSuccess? key (before ++ past) := by
  simp [firstSuccess?, List.findSome?_append, fails, Except.toOption]

/-- Behind a failure a query gets the same, unless its key has had success to offer and is seated on
one side only. -/
theorem reply_same_iff (fails : failed.outcome = .error error) (past : List (Query κ ε α)) :
    reply capacity (before ++ failed :: past) query = reply capacity (before ++ past) query ↔
      (Answered query.key (before ++ past) →
        (query.key ∈ seatsBehind capacity (before ++ failed :: past) ↔
          query.key ∈ seatsBehind capacity (before ++ past))) := by
  rw [answered_iff, reply, reply, first_success_without fails]
  cases success : firstSuccess? query.key (before ++ past) with
  | none => simp
  | some value =>
    generalize seatsBehind capacity (before ++ failed :: past) = kept
    generalize seatsBehind capacity (before ++ past) = cut
    by_cases one : query.key ∈ kept <;> by_cases two : query.key ∈ cut <;> simp [one, two]

theorem unmoved_iff (fails : failed.outcome = .error error) {index : Nat}
    (placed : after[index]? = some query) :
    Unmoved capacity before failed after index ↔
      (Answered query.key (before ++ after.take index) →
        (query.key ∈ seatsBehind capacity (before ++ failed :: after.take index) ↔
          query.key ∈ seatsBehind capacity (before ++ after.take index))) := by
  have behind : (run capacity (before ++ failed :: after))[before.length + 1 + index]? =
      some (reply capacity (before ++ failed :: after.take index) query) := by
    have found : (run capacity ((before ++ [failed]) ++ after))[_]? = _ := get_behind placed _
    simpa [List.append_assoc] using found
  rw [Unmoved, behind, get_behind placed, Option.some.injEq]
  exact reply_same_iff fails (after.take index)

theorem seats_behind_differ (capacity : Nat) (before : List (Query κ ε α)) (failed : Query κ ε α)
    (after : List (Query κ ε α)) :
    ∃ gained, ∀ index, Differ failed.key gained
      (seatsBehind capacity (before ++ failed :: after.take index))
      (seatsBehind capacity (before ++ after.take index)) := by
  simpa [seatsBehind, List.map_take] using
    seats_differ capacity (before.map Query.key) failed.key (after.map Query.key)

/-- With no more keys than seats, a key with a success is seated on both sides. -/
theorem seated_alike_of_few
    (few : ((before ++ failed :: after).map Query.key).toFinset.card ≤ capacity) {key : κ}
    {index : Nat} (answered : Answered key (before ++ after.take index)) :
    key ∈ seatsBehind capacity (before ++ failed :: after.take index) ↔
      key ∈ seatsBehind capacity (before ++ after.take index) := by
  obtain ⟨value, success⟩ := (answered_iff ..).mp answered
  have asked := asked_of_success success
  have early := List.take_sublist index after
  have skipped := (List.sublist_cons_self failed (after.take index)).append_left before
  apply iff_of_true
  · apply seated_of_few few
    · exact (((early.cons_cons failed).append_left before).map Query.key).subset
    · exact (skipped.map Query.key).subset asked
  · apply seated_of_few few _ asked
    exact (((early.cons failed).append_left before).map Query.key).subset

end Runs

/-- What the failing query between `before` and `after` changes: nothing in front of it; behind it
only queries of two keys, its own and one that gains the seat when the failure is taken out, and
these once a success of theirs is there; nothing at all if its key has asked before, if the cache is
full, or if there are seats for all keys. -/
structure CostsOneSeat [DecidableEq κ] (capacity : Nat) (before : List (Query κ ε α))
    (failed : Query κ ε α) (after : List (Query κ ε α)) : Prop where
  earlier : ∀ index < before.length,
    (run capacity (before ++ failed :: after))[index]? = (run capacity (before ++ after))[index]?
  later : ∀ index query, after[index]? = some query →
    (Unmoved capacity before failed after index ↔
      (Answered query.key (before ++ after.take index) →
        (query.key ∈ seatsBehind capacity (before ++ failed :: after.take index) ↔
          query.key ∈ seatsBehind capacity (before ++ after.take index))))
  others : ∃ gained,
    (∀ index, Differ failed.key gained
      (seatsBehind capacity (before ++ failed :: after.take index))
      (seatsBehind capacity (before ++ after.take index))) ∧
    ∀ index query, after[index]? = some query → query.key ≠ failed.key → query.key ≠ gained →
      Unmoved capacity before failed after index
  harmless : failed.key ∈ before.map Query.key ∨
      capacity ≤ (seatsBehind capacity before).length ∨
      ((before ++ failed :: after).map Query.key).toFinset.card ≤ capacity →
    ∀ index < after.length, Unmoved capacity before failed after index

theorem failure_costs_one_seat [DecidableEq κ] (capacity : Nat) (before : List (Query κ ε α))
    (failed : Query κ ε α) (after : List (Query κ ε α)) (error : ε)
    (fails : failed.outcome = .error error) : CostsOneSeat capacity before failed after := by
  refine ⟨fun index placed => ?_, fun index query placed => unmoved_iff fails placed, ?_, ?_⟩
  · rw [get_before placed, get_before placed]
  · obtain ⟨gained, differ⟩ := seats_behind_differ capacity before failed after
    refine ⟨gained, differ, fun index query placed notFailed notGained => ?_⟩
    refine (unmoved_iff fails placed).mpr fun _ => ⟨fun seated => ?_, fun seated => ?_⟩
    · exact ((differ index).more _ seated).resolve_right notFailed
    · exact ((differ index).fewer _ seated).resolve_right notGained
  · intro harmless index inside
    refine (unmoved_iff fails (List.getElem?_eq_getElem inside)).mpr fun answered => ?_
    rw [← or_assoc] at harmless
    rcases harmless with stays | few
    · have asked : failed.key ∈ before.map Query.key ∨
          capacity ≤ (seats capacity (before.map Query.key)).length := stays
      simp [seatsBehind, seats_without asked]
    · exact seated_alike_of_few few answered

-- Three keys fit into three places, so nothing is changed by the failure of the first.
theorem failure_costs_one_seat_with_room :
    let failed : Query String String Nat := ⟨"a", .error "boom"⟩
    let after : List (Query String String Nat) := [⟨"b", .ok 1⟩, ⟨"c", .ok 2⟩, ⟨"b", .ok 3⟩]
    failed.outcome = .error "boom" ∧
      (run 3 (failed :: after))[3]? = (run 3 after)[2]? ∧
      (run 3 after)[2]? = some ⟨.ok 1, false⟩ := by
  intro failed after
  have costs := failure_costs_one_seat 3 [] failed after "boom" rfl
  exact ⟨rfl, costs.harmless (Or.inr (Or.inr (by decide))) 2 (by decide), rfl⟩

-- With one place the failed key keeps it, and the next key is computed twice.
theorem failure_can_displace :
    let failed : Query String String String := ⟨"a", .error "boom"⟩
    let after : List (Query String String String) := [⟨"b", .ok "1"⟩, ⟨"b", .ok "2"⟩]
    run 1 (failed :: after) = [⟨.error "boom", true⟩, ⟨.ok "1", true⟩, ⟨.ok "2", true⟩] ∧
      run 1 after = [⟨.ok "1", true⟩, ⟨.ok "1", false⟩] ∧ ¬ Unmoved 1 [] failed after 1 := by
  refine ⟨rfl, rfl, fun same => ?_⟩
  have ran : (some true : Option Bool) = some false := congrArg (Option.map Lookup.ran) same
  cases ran

end Cache
end PoolRouting
