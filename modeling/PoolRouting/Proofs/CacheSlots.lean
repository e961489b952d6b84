import Mathlib.Data.List.Nodup
import Mathlib.Data.List.Perm.Subperm
import PoolRouting.Cache

/-!
What one request can do to a cache, said once: it finds a value, joins the cell of a slot, enters a
new slot, or is turned away, and no slot that lasts is ever given up. What is known about a cache
over a run of requests follows from these four cases and from what a producer stores.
-/

namespace PoolRouting
namespace Cache
variable {κ α ε : Type}

/-- No key and no cell is used twice, every cell has been issued, and the slots fit. -/
structure Sound (cache : Cache κ α) : Prop where
  keys : (cache.slots.map Slot.key).Nodup
  cells : (cache.slots.map Slot.cell).Nodup
  issued : ∀ slot ∈ cache.slots, slot.cell < cache.issued
  bounded : cache.size ≤ cache.capacity

inductive Admits (cache : Cache κ α) (key : κ) (lifetime : Lifetime) :
    Cache κ α → Admission α → Prop where
  | hit (slot : Slot κ α) (value : α) (member : slot ∈ cache.slots) (named : slot.key = key)
      (lasting : slot.lifetime = .lasting) (filled : slot.value = some value) :
      Admits cache key lifetime cache (.hit value)
  | join (slot : Slot κ α) (member : slot ∈ cache.slots) (named : slot.key = key)
      (lasting : slot.lifetime = .lasting) (unfilled : slot.value = none) :
      Admits cache key lifetime cache (.cell slot.cell)
  | enter (kept : List (Slot κ α)) (sublist : kept.Sublist cache.slots)
      (lasts : ∀ slot ∈ cache.slots, slot.lifetime = .lasting → slot ∈ kept)
      (absent : ∀ slot ∈ kept, slot.key ≠ key) (room : kept.length < cache.capacity) :
      Admits cache key lifetime
        { cache with
          slots := ⟨key, lifetime, cache.issued, none⟩ :: kept
          issued := cache.issued + 1 }
        (.cell cache.issued)
  | bypass (absent : ∀ slot ∈ cache.slots, slot.key ≠ key) (full : cache.purge.isFull = true) :
      Admits cache key lifetime cache.purge .bypass

theorem mem_purge_iff (cache : Cache κ α) (slot : Slot κ α) :
    slot ∈ cache.purge.slots ↔ slot ∈ cache.slots ∧ slot.lifetime = .lasting := by
  simp [purge]

section Request
variable [DecidableEq κ]

theorem find_none_iff (cache : Cache κ α) (key : κ) :
    cache.find? key = none ↔ ∀ slot ∈ cache.slots, slot.key ≠ key := by
  simp [find?, List.find?_eq_none]

theorem mem_of_find {cache : Cache κ α} {key : κ} {slot : Slot κ α}
    (found : cache.find? key = some slot) : slot ∈ cache.slots ∧ slot.key = key :=
  ⟨List.mem_of_find?_eq_some found, by simpa using List.find?_some found⟩

variable {cache : Cache κ α}

-- An expired slot of the key is the only one of the key, so no lasting slot goes with it.
theorem enter_admits (sound : cache.Sound) (key : κ) (lifetime : Lifetime)
    (room : cache.find? key = none → cache.size < cache.capacity) :
    Admits cache key lifetime (cache.enter key lifetime).1 (cache.enter key lifetime).2 := by
  cases found : cache.find? key with
  | none =>
    have absent := (find_none_iff cache key).mp found
    have kept : ∀ slot ∈ cache.slots, slot.lifetime = .lasting → slot ∈ cache.slots :=
      fun slot member _ => member
    simp only [enter, found]
    exact .enter cache.slots (List.Sublist.refl _) kept absent (room found)
  | some slot =>
    obtain ⟨member, named⟩ := mem_of_find found
    cases life : slot.lifetime with
    | elapsed =>
      have shorter : (cache.erase key).slots.length < cache.capacity := by
        refine Nat.lt_of_lt_of_le ?_ sound.bounded
        exact List.length_filter_lt_length_iff_exists.mpr ⟨slot, member, by simp [named]⟩
      have lasts : ∀ other ∈ cache.slots, other.lifetime = .lasting →
          other ∈ (cache.erase key).slots := by
        intro other listed lasting
        refine List.mem_filter.mpr ⟨listed, ?_⟩
        rw [decide_eq_true_eq]
        intro same
        have single := List.inj_on_of_nodup_map sound.keys listed member (same.trans named.symm)
        rw [single, life] at lasting
        cases lasting
      have absent : ∀ other ∈ (cache.erase key).slots, other.key ≠ key := by
        intro other listed
        simpa using (List.mem_filter.mp listed).2
      simp only [enter, found, life]
      exact .enter (cache.erase key).slots List.filter_sublist lasts absent shorter
    | lasting =>
      cases filled : slot.value with
      | none =>
        simp only [enter, found, life, filled]
        exact .join slot member named life filled
      | some value =>
        simp only [enter, found, life, filled]
        exact .hit slot value member named life filled

theorem request_admits (sound : cache.Sound) (key : κ) (lifetime : Lifetime) :
    Admits cache key lifetime (cache.request key lifetime).1 (cache.request key lifetime).2 := by
  unfold request
  split
  case isFalse known =>
    refine enter_admits sound key lifetime fun missing => ?_
    simpa [missing, isFull] using known
  case isTrue crowded =>
    obtain ⟨_, missing⟩ := (Bool.and_eq_true _ _).mp crowded
    have absent := (find_none_iff cache key).mp (Option.isNone_iff_eq_none.mp missing)
    split
    case isTrue full => exact .bypass absent full
    case isFalse roomy =>
      have purged : ∀ slot ∈ cache.purge.slots, slot.key ≠ key := fun slot member =>
        absent slot ((mem_purge_iff cache slot).mp member).1
      have lasts : ∀ slot ∈ cache.slots, slot.lifetime = .lasting → slot ∈ cache.purge.slots :=
        fun slot member lasting => (mem_purge_iff cache slot).mpr ⟨member, lasting⟩
      have room : cache.purge.size < cache.purge.capacity := by
        simpa only [isFull, decide_eq_true_eq, Nat.not_le] using roomy
      simp only [enter, (find_none_iff cache.purge key).mpr purged]
      exact .enter cache.purge.slots List.filter_sublist lasts purged room

end Request

/-! Both halves of a lookup keep a cache sound. -/
section Admitted
variable {cache later : Cache κ α} {key : κ} {lifetime : Lifetime} {admission : Admission α}

theorem empty_sound (capacity : Nat) : (empty capacity : Cache κ α).Sound where
  keys := List.nodup_nil
  cells := List.nodup_nil
  issued := fun slot member => by cases member
  bounded := Nat.zero_le _

theorem capacity_of_admits (admits : Admits cache key lifetime later admission) :
    later.capacity = cache.capacity := by
  cases admits <;> rfl

theorem issued_of_admits (admits : Admits cache key lifetime later admission) :
    cache.issued ≤ later.issued := by
  cases admits with
  | enter => exact Nat.le_succ _
  | _ => exact Nat.le_refl _

theorem sound_of_admits (sound : cache.Sound) (admits : Admits cache key lifetime later admission) :
    later.Sound := by
  cases admits with
  | hit | join => exact sound
  | enter kept sublist lasts absent room =>
    refine ⟨?_, ?_, ?_, room⟩
    · refine List.nodup_cons.mpr ⟨?_, sound.keys.sublist (sublist.map _)⟩
      intro again
      obtain ⟨slot, member, same⟩ := List.mem_map.mp again
      exact absent slot member same
    · refine List.nodup_cons.mpr ⟨?_, sound.cells.sublist (sublist.map _)⟩
      intro again
      obtain ⟨slot, member, same⟩ := List.mem_map.mp again
      exact Nat.ne_of_lt (sound.issued slot (sublist.subset member)) same
    · refine List.forall_mem_cons.mpr ⟨Nat.lt_succ_self _, fun slot member => ?_⟩
      exact Nat.lt_succ_of_lt (sound.issued slot (sublist.subset member))
  | bypass absent full =>
    have sublist : cache.purge.slots.Sublist cache.slots := List.filter_sublist
    exact
      { keys := sound.keys.sublist (sublist.map _)
        cells := sound.cells.sublist (sublist.map _)
        issued := fun slot member => sound.issued slot (sublist.subset member)
        bounded := Nat.le_trans sublist.length_le sound.bounded }

/-- A slot is an old one, or the new and empty one of the request. -/
theorem mem_of_admits (admits : Admits cache key lifetime later admission) {slot : Slot κ α}
    (member : slot ∈ later.slots) :
    slot ∈ cache.slots ∨ slot = ⟨key, lifetime, cache.issued, none⟩ := by
  cases admits with
  | hit | join => exact Or.inl member
  | enter kept sublist lasts absent room =>
    rcases List.mem_cons.mp member with new | old
    · exact Or.inr new
    · exact Or.inl (sublist.subset old)
  | bypass absent full => exact Or.inl ((mem_purge_iff cache slot).mp member).1

theorem lasts_of_admits (admits : Admits cache key lifetime later admission) {slot : Slot κ α}
    (member : slot ∈ cache.slots) (lasting : slot.lifetime = .lasting) : slot ∈ later.slots := by
  cases admits with
  | hit | join => exact member
  | enter kept sublist lasts absent room => exact List.mem_cons_of_mem _ (lasts slot member lasting)
  | bypass absent full => exact (mem_purge_iff cache slot).mpr ⟨member, lasting⟩

/-- Who is given a cell to compute is given that of a slot of its key. -/
theorem slot_of_admits {cell : Nat} (admits : Admits cache key lifetime later (.cell cell)) :
    ∃ slot ∈ later.slots, slot.key = key ∧ slot.cell = cell := by
  generalize given : Admission.cell cell = admission at admits
  cases admits <;> cases given
  · next slot member named _ _ => exact ⟨slot, member, named, rfl⟩
  · exact ⟨_, List.mem_cons_self, rfl, rfl⟩

/-- Who asks for a stored value is given it, and nothing changes. -/
theorem hit_of_admits (sound : cache.Sound) (admits : Admits cache key lifetime later admission)
    {slot : Slot κ α} {value : α} (member : slot ∈ cache.slots) (named : slot.key = key)
    (lasting : slot.lifetime = .lasting) (filled : slot.value = some value) :
    later = cache ∧ admission = .hit value := by
  have single : ∀ other ∈ cache.slots, other.key = key → other = slot := fun other listed same =>
    List.inj_on_of_nodup_map sound.keys listed member (same.trans named.symm)
  cases admits with
  | hit other found listed same =>
    cases single other listed same
    simp_all
  | join other listed same life unfilled =>
    rw [single other listed same, filled] at unfilled
    cases unfilled
  | enter kept sublist lasts absent room =>
    exact (absent slot (lasts slot member lasting) named).elim
  | bypass absent full => exact (absent slot member named).elim

end Admitted

section Filled
variable {cache : Cache κ α}

theorem mem_fill_iff (cache : Cache κ α) (cell : Nat) (value : α) (slot : Slot κ α) :
    slot ∈ (cache.fill cell value).slots ↔
      (slot ∈ cache.slots ∧ slot.cell ≠ cell) ∨
        ∃ old ∈ cache.slots, old.cell = cell ∧ slot = { old with value := some value } := by
  rw [fill, List.mem_map]
  constructor
  · rintro ⟨old, member, rfl⟩
    split
    · next same => exact Or.inr ⟨old, member, same, rfl⟩
    · next other => exact Or.inl ⟨member, other⟩
  · rintro (⟨member, other⟩ | ⟨old, member, same, rfl⟩)
    · exact ⟨slot, member, if_neg other⟩
    · exact ⟨old, member, if_pos same⟩

/-- A fill changes nothing of a slot but its value. -/
theorem origin_of_fill {cell : Nat} {value : α} {slot : Slot κ α}
    (member : slot ∈ (cache.fill cell value).slots) :
    ∃ old ∈ cache.slots,
      old.key = slot.key ∧ old.cell = slot.cell ∧ old.lifetime = slot.lifetime := by
  rcases (mem_fill_iff cache cell value slot).mp member with ⟨old, _⟩ | ⟨old, listed, _, rfl⟩
  · exact ⟨slot, old, rfl, rfl, rfl⟩
  · exact ⟨old, listed, rfl, rfl, rfl⟩

theorem stays_in_fill {slot : Slot κ α} (member : slot ∈ cache.slots) (cell : Nat) (value : α) :
    ∃ later ∈ (cache.fill cell value).slots, later.key = slot.key ∧ later.cell = slot.cell ∧
      later.lifetime = slot.lifetime ∧
      ∀ old, slot.value = some old → ∃ new, later.value = some new := by
  by_cases same : slot.cell = cell
  · exact ⟨_, (mem_fill_iff cache cell value _).mpr (Or.inr ⟨slot, member, same, rfl⟩),
      rfl, rfl, rfl, fun _ _ => ⟨value, rfl⟩⟩
  · exact ⟨slot, (mem_fill_iff cache cell value slot).mpr (Or.inl ⟨member, same⟩),
      rfl, rfl, rfl, fun old filled => ⟨old, filled⟩⟩

theorem map_fill (cell : Nat) (value : α) {β : Type} (view : Slot κ α → β)
    (blind : ∀ slot, view { slot with value := some value } = view slot) :
    (cache.fill cell value).slots.map view = cache.slots.map view := by
  rw [fill, List.map_map]
  apply List.map_congr_left
  intro slot _
  rw [Function.comp_apply]
  split
  · exact blind slot
  · rfl

theorem fill_sound (sound : cache.Sound) (cell : Nat) (value : α) :
    (cache.fill cell value).Sound := by
  refine ⟨?_, ?_, ?_, ?_⟩
  · rw [map_fill cell value Slot.key fun _ => rfl]
    exact sound.keys
  · rw [map_fill cell value Slot.cell fun _ => rfl]
    exact sound.cells
  · intro slot member
    obtain ⟨old, listed, _, cells, _⟩ := origin_of_fill member
    rw [← cells]
    exact sound.issued old listed
  · rw [size, fill, List.length_map]
    exact sound.bounded

theorem settle_sound (sound : cache.Sound) (cell : Nat) (outcome : Except ε α) :
    (cache.settle cell outcome).Sound := by
  cases outcome with
  | ok value => exact fill_sound sound cell value
  | error error => exact sound

end Filled

/-- Whatever the cache holds under a key is right for the key. -/
def Stores (cache : Cache κ α) (right : κ → α → Prop) : Prop :=
  ∀ slot ∈ cache.slots, ∀ value, slot.value = some value → right slot.key value

section Stores
variable {cache later : Cache κ α} {key : κ} {lifetime : Lifetime} {admission : Admission α}
variable {right : κ → α → Prop}

theorem stores_of_admits (stores : cache.Stores right)
    (admits : Admits cache key lifetime later admission) : later.Stores right := by
  intro slot member value filled
  rcases mem_of_admits admits member with old | rfl
  · exact stores slot old value filled
  · cases filled

-- No other slot has the cell, so the value of the producer is stored under its own key only.
theorem settle_stores (sound : cache.Sound) (stores : cache.Stores right) {cell : Nat}
    (owned : ∃ slot ∈ cache.slots, slot.key = key ∧ slot.cell = cell) (outcome : Except ε α)
    (holds : ∀ value, outcome = .ok value → right key value) :
    (cache.settle cell outcome).Stores right := by
  cases outcome with
  | error error => exact stores
  | ok value =>
    intro slot member other filled
    rcases (mem_fill_iff cache cell value slot).mp member with ⟨old, _⟩ | ⟨old, found, same, rfl⟩
    · exact stores slot old other filled
    · cases filled
      obtain ⟨owner, held, rfl, cells⟩ := owned
      rw [List.inj_on_of_nodup_map sound.cells found held (same.trans cells.symm)]
      exact holds value rfl

end Stores

/-- The key has a slot with a value. -/
def Holds (cache : Cache κ α) (key : κ) : Prop :=
  ∃ slot ∈ cache.slots, slot.key = key ∧ ∃ value, slot.value = some value

section Holds
variable {cache later : Cache κ α} {key other : κ} {lifetime : Lifetime} {admission : Admission α}

theorem holds_of_admits (lasting : ∀ slot ∈ cache.slots, slot.lifetime = .lasting)
    (admits : Admits cache other lifetime later admission) (holds : cache.Holds key) :
    later.Holds key := by
  obtain ⟨slot, member, rest⟩ := holds
  exact ⟨slot, lasts_of_admits admits member (lasting slot member), rest⟩

theorem holds_fill (holds : cache.Holds key) (cell : Nat) (value : α) :
    (cache.fill cell value).Holds key := by
  obtain ⟨slot, member, named, stored, filled⟩ := holds
  obtain ⟨later, found, keys, _, _, still⟩ := stays_in_fill member cell value
  exact ⟨later, found, keys.trans named, still stored filled⟩

theorem fill_holds {cell : Nat} (owned : ∃ slot ∈ cache.slots, slot.key = key ∧ slot.cell = cell)
    (value : α) : (cache.fill cell value).Holds key := by
  obtain ⟨slot, member, named, same⟩ := owned
  exact ⟨_, (mem_fill_iff cache cell value _).mpr (Or.inr ⟨slot, member, same, rfl⟩), named, _, rfl⟩

end Holds

/-- The cache has no room for the key, and no slot will ever make room. -/
structure Shut (cache : Cache κ α) (key : κ) : Prop where
  full : cache.capacity ≤ cache.size
  lasting : ∀ slot ∈ cache.slots, slot.lifetime = .lasting
  absent : ∀ slot ∈ cache.slots, slot.key ≠ key

section Shut
variable {cache later : Cache κ α} {key other : κ} {lifetime : Lifetime} {admission : Admission α}

theorem purge_shut (absent : ∀ slot ∈ cache.slots, slot.key ≠ key)
    (full : cache.purge.isFull = true) : cache.purge.Shut key where
  full := by simpa [isFull] using full
  lasting := fun slot member => ((mem_purge_iff cache slot).mp member).2
  absent := fun slot member => absent slot ((mem_purge_iff cache slot).mp member).1

theorem shut_of_bypass (admits : Admits cache key lifetime later .bypass) : later.Shut key := by
  cases admits with
  | bypass absent full => exact purge_shut absent full

-- A slot can only be entered beside those that last, and these already fill the cache.
theorem shut_of_admits (sound : cache.Sound) (shut : cache.Shut key)
    (admits : Admits cache other lifetime later admission) : later.Shut key := by
  cases admits with
  | hit | join => exact shut
  | enter kept sublist lasts absent room =>
    have subset : cache.slots ⊆ kept := fun slot member =>
      lasts slot member (shut.lasting slot member)
    have fits : cache.slots.length ≤ kept.length :=
      ((List.Nodup.of_map _ sound.keys).subperm subset).length_le
    have full := shut.full
    rw [size] at full
    omega
  | bypass absent full => exact purge_shut shut.absent full

theorem fill_shut (shut : cache.Shut key) (cell : Nat) (value : α) :
    (cache.fill cell value).Shut key := by
  refine ⟨?_, ?_, ?_⟩
  · rw [size, fill, List.length_map]
    exact shut.full
  · intro slot member
    obtain ⟨old, listed, _, _, life⟩ := origin_of_fill member
    rw [← life]
    exact shut.lasting old listed
  · intro slot member
    obtain ⟨old, listed, keys, _⟩ := origin_of_fill member
    rw [← keys]
    exact shut.absent old listed

end Shut
end Cache
end PoolRouting
