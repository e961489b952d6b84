/-!
A bounded cache whose entries expire and whose failures are not kept. Each slot refers to a cell;
the cell of a slot is computed once, and callers that find it uncomputed compute it themselves.
-/

namespace PoolRouting

/-- Whether the time of an entry has run out. -/
inductive Lifetime where
  | elapsed
  | lasting
  deriving DecidableEq

/-- The entry of one key. Its cell is empty until a producer has succeeded. -/
structure Slot (κ α : Type) where
  key : κ
  lifetime : Lifetime
  cell : Nat
  value : Option α

structure Cache (κ α : Type) where
  capacity : Nat
  slots : List (Slot κ α)
  /-- Cells given out so far. -/
  issued : Nat

/-- What a caller finds: a value, a cell to compute, or no room to store anything. -/
inductive Admission (α : Type) where
  | hit (value : α)
  | cell (cell : Nat)
  | bypass

namespace Cache
variable {κ α ε : Type} [DecidableEq κ]

def empty (capacity : Nat) : Cache κ α := ⟨capacity, [], 0⟩

def size (cache : Cache κ α) : Nat := cache.slots.length

def find? (cache : Cache κ α) (key : κ) : Option (Slot κ α) :=
  cache.slots.find? fun slot => slot.key = key

/-- Drops what has expired; an entry whose producer failed stays until it expires. -/
def purge (cache : Cache κ α) : Cache κ α :=
  { cache with slots := cache.slots.filter fun slot => slot.lifetime = .lasting }

/-- A new slot with an empty cell. -/
def insert (cache : Cache κ α) (key : κ) (lifetime : Lifetime) : Cache κ α :=
  { cache with
    slots := ⟨key, lifetime, cache.issued, none⟩ :: cache.slots
    issued := cache.issued + 1 }

def erase (cache : Cache κ α) (key : κ) : Cache κ α :=
  { cache with slots := cache.slots.filter fun slot => slot.key ≠ key }

/-- Enters a key: an expired slot gives way to a new one. -/
def enter (cache : Cache κ α) (key : κ) (lifetime : Lifetime) : Cache κ α × Admission α :=
  match cache.find? key with
  | none => (cache.insert key lifetime, .cell cache.issued)
  | some slot =>
    match slot.lifetime with
    | .elapsed => ((cache.erase key).insert key lifetime, .cell cache.issued)
    | .lasting =>
      match slot.value with
      | some value => (cache, .hit value)
      | none => (cache, .cell slot.cell)

def isFull (cache : Cache κ α) : Bool := decide (cache.capacity ≤ cache.size)

-- Only a new key can need room, and only a full cache is searched for expired entries.
/-- What happens to a caller before it waits for anything. -/
def request (cache : Cache κ α) (key : κ) (lifetime : Lifetime) : Cache κ α × Admission α :=
  if cache.isFull && (cache.find? key).isNone then
    if cache.purge.isFull then (cache.purge, .bypass) else cache.purge.enter key lifetime
  else cache.enter key lifetime

/-- A producer has succeeded for a cell. A cell whose slot is gone is forgotten. -/
def fill (cache : Cache κ α) (cell : Nat) (value : α) : Cache κ α :=
  { cache with
    slots := cache.slots.map fun slot =>
      if slot.cell = cell then { slot with value := some value } else slot }

/-- The result of a lookup, and whether it ran its own producer. -/
structure Lookup (ε α : Type) where
  result : Except ε α
  ran : Bool

/-- Stores what the producer of a cell came to. -/
def settle (cache : Cache κ α) (cell : Nat) (outcome : Except ε α) : Cache κ α :=
  match outcome with
  | .ok value => cache.fill cell value
  | .error _ => cache

/-- A lookup that nothing interrupts; `outcome` is what the producer comes to if it runs. -/
def get (cache : Cache κ α) (key : κ) (lifetime : Lifetime) (outcome : Except ε α) :
    Cache κ α × Lookup ε α :=
  match cache.request key lifetime with
  | (cache, .hit value) => (cache, ⟨.ok value, false⟩)
  | (cache, .bypass) => (cache, ⟨outcome, true⟩)
  | (cache, .cell cell) => (cache.settle cell outcome, ⟨outcome, true⟩)

end Cache
end PoolRouting
