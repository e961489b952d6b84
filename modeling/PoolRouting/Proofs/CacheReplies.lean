import Mathlib.Data.Finset.Card
import PoolRouting.Proofs.CacheSlots

/-!
A run of lookups in closed form, as long as no entry expires. The first keys that are asked for take
the seats of the cache and keep them; a seated key is answered by its first success, and every other
query computes for itself.
-/

namespace PoolRouting
namespace Cache
variable {κ α ε : Type}

/-- What a caller asks for, and what its producer comes to if it runs. -/
structure Query (κ ε α : Type) where
  key : κ
  outcome : Except ε α

/-- What the first producer of a key to succeed came to. -/
def firstSuccess? [DecidableEq κ] (key : κ) (past : List (Query κ ε α)) : Option α :=
  past.findSome? fun query => if query.key = key then query.outcome.toOption else none

section Seats
variable [DecidableEq κ]

/-- A key that is asked for takes a seat if there is a free one, and never gives it up. -/
def seat (capacity : Nat) (taken : List κ) (key : κ) : List κ :=
  if key ∈ taken ∨ capacity ≤ taken.length then taken else key :: taken

/-- The keys that have seats once these have been asked for in their order. -/
def seats (capacity : Nat) (keys : List κ) : List κ := keys.foldl (seat capacity) []

@[simp]
theorem seats_nil (capacity : Nat) : seats capacity ([] : List κ) = [] := rfl

@[simp]
theorem seats_snoc (capacity : Nat) (keys : List κ) (key : κ) :
    seats capacity (keys ++ [key]) = seat capacity (seats capacity keys) key := by
  simp [seats, List.foldl_append]

theorem seat_taken {capacity : Nat} {taken : List κ} {key : κ} (seated : key ∈ taken) :
    seat capacity taken key = taken := by
  simp [seat, seated]

theorem seat_full {capacity : Nat} {taken : List κ} (full : capacity ≤ taken.length) (key : κ) :
    seat capacity taken key = taken := by
  simp [seat, full]

theorem seat_free {capacity : Nat} {taken : List κ} {key : κ} (absent : key ∉ taken)
    (room : taken.length < capacity) : seat capacity taken key = key :: taken := by
  simp [seat, absent, Nat.not_le.mpr room]

theorem nodup_seats (capacity : Nat) (keys : List κ) : (seats capacity keys).Nodup := by
  induction keys using List.reverseRecOn with
  | nil => simp
  | append_singleton keys key ih =>
    by_cases stays : key ∈ seats capacity keys ∨ capacity ≤ (seats capacity keys).length
    · simpa [seat, stays] using ih
    · simpa [seat, stays, ih] using (not_or.mp stays).1

theorem asked_of_seated {capacity : Nat} {keys : List κ} {key : κ}
    (seated : key ∈ seats capacity keys) : key ∈ keys := by
  induction keys using List.reverseRecOn with
  | nil => simp at seated
  | append_singleton keys other ih =>
    by_cases stays : other ∈ seats capacity keys ∨ capacity ≤ (seats capacity keys).length
    · simp only [seats_snoc, seat, stays, if_true] at seated
      simp [ih seated]
    · simp only [seats_snoc, seat, stays, if_false, List.mem_cons] at seated
      rcases seated with rfl | before
      · simp
      · simp [ih before]

/-- While there is room, whoever has asked has a seat. -/
theorem seated_of_room {capacity : Nat} {keys : List κ} {key : κ}
    (room : (seats capacity keys).length < capacity) (asked : key ∈ keys) :
    key ∈ seats capacity keys := by
  induction keys using List.reverseRecOn with
  | nil => simp at asked
  | append_singleton keys other ih =>
    by_cases stays : other ∈ seats capacity keys ∨ capacity ≤ (seats capacity keys).length
    · have same : seats capacity (keys ++ [other]) = seats capacity keys := by simp [seat, stays]
      rw [same] at room ⊢
      rcases List.mem_append.mp asked with before | last
      · exact ih room before
      · obtain rfl := List.mem_singleton.mp last
        exact stays.resolve_right (Nat.not_le.mpr room)
    · obtain ⟨absent, free⟩ := not_or.mp stays
      have room := Nat.lt_of_not_le free
      rw [seats_snoc, seat_free absent room]
      rcases List.mem_append.mp asked with before | last
      · exact List.mem_cons_of_mem _ (ih room before)
      · simp [List.mem_singleton.mp last]

/-- With no more keys in all than seats, whoever has asked has a seat. -/
theorem seated_of_few {capacity : Nat} {all keys : List κ} {key : κ}
    (few : all.toFinset.card ≤ capacity) (within : keys ⊆ all) (asked : key ∈ keys) :
    key ∈ seats capacity keys := by
  by_cases room : (seats capacity keys).length < capacity
  · exact seated_of_room room asked
  · have subset : (seats capacity keys).toFinset ⊆ all.toFinset := by
      intro other seated
      exact List.mem_toFinset.mpr (within (asked_of_seated (List.mem_toFinset.mp seated)))
    have counted := List.toFinset_card_of_nodup (nodup_seats capacity keys)
    have same := Finset.eq_of_subset_of_card_le subset (by omega)
    exact List.mem_toFinset.mp (same ▸ List.mem_toFinset.mpr (within asked))

end Seats

section Success
variable [DecidableEq κ]

theorem first_success_snoc (key : κ) (past : List (Query κ ε α)) (query : Query κ ε α) :
    firstSuccess? key (past ++ [query]) =
      (firstSuccess? key past).or (if query.key = key then query.outcome.toOption else none) := by
  simp [firstSuccess?, List.findSome?_append]

/-- Some producer of the key has had success to offer. -/
def Answered (key : κ) (past : List (Query κ ε α)) : Prop :=
  ∃ query ∈ past, query.key = key ∧ ∃ value, query.outcome = .ok value

theorem answered_iff (key : κ) (past : List (Query κ ε α)) :
    Answered key past ↔ ∃ value, firstSuccess? key past = some value := by
  rw [← Option.isSome_iff_exists, firstSuccess?, List.findSome?_isSome_iff]
  refine exists_congr fun query => and_congr_right fun _ => ?_
  by_cases named : query.key = key
  · cases query.outcome <;> simp [named, Except.toOption]
  · simp [named]

theorem asked_of_success {key : κ} {past : List (Query κ ε α)} {value : α}
    (success : firstSuccess? key past = some value) : key ∈ past.map Query.key := by
  obtain ⟨query, member, named, _⟩ := (answered_iff key past).mpr ⟨value, success⟩
  exact List.mem_map.mpr ⟨query, member, named⟩

end Success

section Slots
variable {cache : Cache κ α}

theorem slot_of_key (sound : cache.Sound) {left right : Slot κ α} (one : left ∈ cache.slots)
    (other : right ∈ cache.slots) (same : left.key = right.key) : left = right :=
  List.inj_on_of_nodup_map sound.keys one other same

theorem slot_of_cell (sound : cache.Sound) {left right : Slot κ α} (one : left ∈ cache.slots)
    (other : right ∈ cache.slots) (same : left.cell = right.cell) : left = right :=
  List.inj_on_of_nodup_map sound.cells one other same

theorem purge_lasting (lasting : ∀ slot ∈ cache.slots, slot.lifetime = .lasting) :
    cache.purge = cache := by
  have all : cache.slots.filter (fun slot => slot.lifetime = .lasting) = cache.slots :=
    List.filter_eq_self.mpr fun slot member => decide_eq_true (lasting slot member)
  simp [purge, all]

end Slots

/-! Lookups one after the other, and what a query gets behind others. -/
section Replies
variable [DecidableEq κ]

/-- The keys that have seats behind these queries. -/
def seatsBehind (capacity : Nat) (past : List (Query κ ε α)) : List κ :=
  seats capacity (past.map Query.key)

/-- The lookups of queries made in turn; no entry ever expires. -/
def lookups (cache : Cache κ α) : List (Query κ ε α) → List (Lookup ε α)
  | [] => []
  | query :: rest =>
    let settled := cache.get query.key .lasting query.outcome
    settled.2 :: lookups settled.1 rest

/-- The lookups of a run that starts without entries. -/
def run (capacity : Nat) (queries : List (Query κ ε α)) : List (Lookup ε α) :=
  lookups (empty capacity) queries

/-- What a query gets behind others. -/
def reply (capacity : Nat) (past : List (Query κ ε α)) (query : Query κ ε α) : Lookup ε α :=
  match firstSuccess? query.key past with
  | some value =>
    if query.key ∈ seatsBehind capacity past then ⟨.ok value, false⟩
    else ⟨query.outcome, true⟩
  | none => ⟨query.outcome, true⟩

/-- A cache that has served some queries: the slots are the seats, with the first successes. -/
structure Follows (capacity : Nat) (past : List (Query κ ε α)) (cache : Cache κ α) : Prop where
  sound : cache.Sound
  holds : cache.capacity = capacity
  keys : cache.slots.map Slot.key = seatsBehind capacity past
  lasting : ∀ slot ∈ cache.slots, slot.lifetime = .lasting
  values : ∀ slot ∈ cache.slots, slot.value = firstSuccess? slot.key past

variable {capacity : Nat} {past : List (Query κ ε α)} {cache : Cache κ α}

@[simp]
theorem seats_behind_snoc (capacity : Nat) (past : List (Query κ ε α)) (query : Query κ ε α) :
    seatsBehind capacity (past ++ [query]) = seat capacity (seatsBehind capacity past) query.key := by
  simp [seatsBehind]

theorem empty_follows (capacity : Nat) :
    Follows capacity ([] : List (Query κ ε α)) (empty capacity) where
  sound := empty_sound capacity
  holds := rfl
  keys := rfl
  lasting := fun slot member => by cases member
  values := fun slot member => by cases member

theorem seated_iff (follows : Follows capacity past cache) (key : κ) :
    key ∈ seatsBehind capacity past ↔ ∃ slot ∈ cache.slots, slot.key = key := by
  rw [← follows.keys, List.mem_map]

theorem unseated_iff (follows : Follows capacity past cache) (key : κ) :
    key ∉ seatsBehind capacity past ↔ ∀ slot ∈ cache.slots, slot.key ≠ key := by
  simp [seated_iff follows]

/-- Nobody who has succeeded is without a seat while there are free ones. -/
theorem unanswered_of_free {key : κ} (unseated : key ∉ seatsBehind capacity past)
    (free : (seatsBehind capacity past).length < capacity) :
    firstSuccess? key past = none := by
  cases success : firstSuccess? key past with
  | none => rfl
  | some value => exact (unseated (seated_of_room free (asked_of_success success))).elim

/-- A query that neither takes a seat nor brings a first success to one. -/
theorem follows_unchanged (follows : Follows capacity past cache) (query : Query κ ε α)
    (kept : seat capacity (seatsBehind capacity past) query.key =
      seatsBehind capacity past)
    (settled : ∀ slot ∈ cache.slots, slot.key = query.key → slot.value ≠ none) :
    Follows capacity (past ++ [query]) cache where
  sound := follows.sound
  holds := follows.holds
  keys := by rw [follows.keys, seats_behind_snoc, kept]
  lasting := follows.lasting
  values := by
    intro slot member
    rw [first_success_snoc]
    by_cases named : query.key = slot.key
    · have filled := settled slot member named.symm
      rw [follows.values slot member] at filled ⊢
      obtain ⟨value, success⟩ := Option.ne_none_iff_exists'.mp filled
      simp [success]
    · simp [named, follows.values slot member]

/-- The producer of a seated key has run, and nothing had been stored for the key. -/
theorem follows_settled {query : Query κ ε α} (sound : cache.Sound)
    (holds : cache.capacity = capacity)
    (keys : cache.slots.map Slot.key = seatsBehind capacity (past ++ [query]))
    (lasting : ∀ slot ∈ cache.slots, slot.lifetime = .lasting)
    (values : ∀ slot ∈ cache.slots, slot.value = firstSuccess? slot.key past)
    (unanswered : firstSuccess? query.key past = none) {own : Slot κ α}
    (member : own ∈ cache.slots) (named : own.key = query.key) :
    Follows capacity (past ++ [query]) (cache.settle own.cell query.outcome) := by
  cases outcome : query.outcome with
  | error error =>
    refine ⟨sound, holds, keys, lasting, fun slot listed => ?_⟩
    rw [first_success_snoc, values slot listed]
    simp [outcome, Except.toOption]
  | ok value =>
    refine ⟨fill_sound sound _ value, holds, ?_, ?_, ?_⟩
    · exact (map_fill own.cell value Slot.key fun _ => rfl).trans keys
    · intro slot listed
      obtain ⟨old, before, _, _, life⟩ := origin_of_fill listed
      exact life ▸ lasting old before
    · intro slot listed
      rw [first_success_snoc]
      rcases (mem_fill_iff cache own.cell value slot).mp listed with ⟨before, apart⟩ | ⟨old, before, same, rfl⟩
      · have other : query.key ≠ slot.key := by
          intro again
          have single := slot_of_key sound before member (again.symm.trans named.symm)
          exact apart (congrArg Slot.cell single)
        simp [other, values slot before]
      · obtain rfl := slot_of_cell sound before member same
        simp [named, unanswered, outcome, Except.toOption]

-- One query, by what the request for it finds: a stored value, an empty slot of its own, a free
-- seat, or no room.
theorem get_follows (follows : Follows capacity past cache) (query : Query κ ε α) :
    Follows capacity (past ++ [query]) (cache.get query.key .lasting query.outcome).1 ∧
      (cache.get query.key .lasting query.outcome).2 = reply capacity past query := by
  have admits := request_admits follows.sound query.key .lasting
  unfold get
  generalize cache.request query.key .lasting = found at admits
  obtain ⟨later, admission⟩ := found
  dsimp only at admits
  have sound := sound_of_admits follows.sound admits
  cases admits with
  | hit slot value member named lasting filled =>
    have seated := (seated_iff follows query.key).mpr ⟨slot, member, named⟩
    have success : firstSuccess? query.key past = some value := by
      rw [← named, ← follows.values slot member, filled]
    constructor
    · apply follows_unchanged follows query (seat_taken seated)
      intro other listed again
      rw [slot_of_key follows.sound listed member (again.trans named.symm), filled]
      exact Option.some_ne_none value
    · simp [reply, success, seated]
  | join slot member named lasting unfilled =>
    have seated := (seated_iff follows query.key).mpr ⟨slot, member, named⟩
    have unanswered : firstSuccess? query.key past = none := by
      rw [← named, ← follows.values slot member, unfilled]
    have keys : cache.slots.map Slot.key = seatsBehind capacity (past ++ [query]) := by
      simp [follows.keys, seat_taken seated]
    constructor
    · exact follows_settled follows.sound follows.holds keys follows.lasting follows.values
        unanswered member named
    · simp [reply, unanswered]
  | enter kept sublist lasts absent room =>
    have fits : cache.slots.length ≤ kept.length := by
      have subset : cache.slots ⊆ kept := fun slot member =>
        lasts slot member (follows.lasting slot member)
      exact ((List.Nodup.of_map _ follows.sound.keys).subperm subset).length_le
    obtain rfl := sublist.eq_of_length_le fits
    have unseated := (unseated_iff follows query.key).mpr absent
    have free : (seatsBehind capacity past).length < capacity := by
      rw [← follows.keys, List.length_map, ← follows.holds]
      exact room
    have unanswered := unanswered_of_free unseated free
    constructor
    · have keys : (query.key :: cache.slots.map Slot.key) =
          seatsBehind capacity (past ++ [query]) := by
        simp [follows.keys, seat_free unseated free]
      exact follows_settled sound follows.holds keys
        (List.forall_mem_cons.mpr ⟨rfl, follows.lasting⟩)
        (List.forall_mem_cons.mpr ⟨unanswered.symm, follows.values⟩) unanswered
        List.mem_cons_self rfl
    · simp [reply, unanswered]
  | bypass absent full =>
    rw [purge_lasting follows.lasting] at full ⊢
    have unseated := (unseated_iff follows query.key).mpr absent
    have crowded : capacity ≤ (seatsBehind capacity past).length := by
      rw [← follows.keys, List.length_map, ← follows.holds]
      exact of_decide_eq_true full
    constructor
    · apply follows_unchanged follows query (seat_full crowded _)
      intro slot member named
      exact (absent slot member named).elim
    · cases success : firstSuccess? query.key past <;> simp [reply, success, unseated]

theorem lookups_follow (follows : Follows capacity past cache) (queries : List (Query κ ε α))
    (index : Nat) :
    (lookups cache queries)[index]? =
      queries[index]?.map (reply capacity (past ++ queries.take index)) := by
  induction queries generalizing past cache index with
  | nil => simp [lookups]
  | cons query rest ih =>
    obtain ⟨later, found⟩ := get_follows follows query
    cases index with
    | zero => simp [lookups, found]
    | succ index => simpa [lookups, List.append_assoc] using ih later index

/-- Every lookup of a run is the reply to its query behind the queries before it. -/
theorem get_run (capacity : Nat) (queries : List (Query κ ε α)) (index : Nat) :
    (run capacity queries)[index]? =
      queries[index]?.map (reply capacity (queries.take index)) := by
  simpa [run] using lookups_follow (empty_follows capacity) queries index

end Replies
end Cache
end PoolRouting
