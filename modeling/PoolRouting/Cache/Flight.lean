import PoolRouting.Cache

/-!
Many callers on one cache. A caller is admitted in one step; the first caller of an empty cell runs
its producer and the others wait. When the producer succeeds all of them have the value; when it
fails or is given up, the next waiter runs its own.
-/

namespace PoolRouting.Flight

/-- A lookup to come: its key, its lifetime, and what its producer would come to. -/
structure Call (κ α ε : Type) where
  key : κ
  lifetime : Lifetime
  outcome : Except ε α
  /-- How often the producer gives up control before it ends. -/
  yields : Nat

/-- Where a caller stands. A producer that bypasses the cache runs without a cell. -/
inductive Stage (α ε : Type) where
  | pending
  | running (cell : Option Nat) (yields : Nat)
  | waiting (cell : Nat)
  | finished (lookup : Cache.Lookup ε α)
  | dropped

structure Caller (κ α ε : Type) where
  call : Call κ α ε
  stage : Stage α ε

structure Flights (κ α ε : Type) where
  cache : Cache κ α
  callers : List (Caller κ α ε)

variable {κ α ε : Type} [DecidableEq κ]

def Caller.runs (cell : Nat) (caller : Caller κ α ε) : Bool :=
  match caller.stage with
  | .running (some running) _ => running = cell
  | _ => false

def Caller.waitsFor (cell : Nat) (caller : Caller κ α ε) : Bool :=
  match caller.stage with
  | .waiting waiting => waiting = cell
  | _ => false

def Caller.isDone (caller : Caller κ α ε) : Bool :=
  match caller.stage with
  | .finished _ => true
  | .dropped => true
  | _ => false

/-- The stage of a caller after its admission. -/
def admitted (callers : List (Caller κ α ε)) (call : Call κ α ε) : Admission α → Stage α ε
  | .hit value => .finished ⟨.ok value, false⟩
  | .bypass => .running none call.yields
  | .cell cell =>
    if callers.any (Caller.runs cell) then .waiting cell else .running (some cell) call.yields

/-- All who wait for a cell have its value. -/
def release (cell : Nat) (value : α) (callers : List (Caller κ α ε)) : List (Caller κ α ε) :=
  callers.map fun caller =>
    if caller.waitsFor cell then { caller with stage := .finished ⟨.ok value, false⟩ } else caller

/-- The first who waits for a cell runs its own producer. -/
def handOver (cell : Nat) : List (Caller κ α ε) → List (Caller κ α ε)
  | [] => []
  | caller :: rest =>
    if caller.waitsFor cell then
      { caller with stage := .running (some cell) caller.call.yields } :: rest
    else caller :: handOver cell rest

/-- What the end of a producer means for the others. -/
def relay (cell : Nat) (outcome : Except ε α) (callers : List (Caller κ α ε)) :
    List (Caller κ α ε) :=
  match outcome with
  | .ok value => release cell value callers
  | .error _ => handOver cell callers

namespace Flights

def setStage (flights : Flights κ α ε) (index : Nat) (stage : Stage α ε) : Flights κ α ε :=
  { flights with
    callers := flights.callers.modify index fun caller => { caller with stage := stage } }

/-- A caller arrives: everything up to its first wait is one step. -/
def arrive (flights : Flights κ α ε) (index : Nat) (call : Call κ α ε) : Flights κ α ε :=
  let (cache, admission) := flights.cache.request call.key call.lifetime
  Flights.setStage { flights with cache := cache } index (admitted flights.callers call admission)

/-- The producer of a caller ends. -/
def settle (flights : Flights κ α ε) (index : Nat) (cell : Option Nat) (outcome : Except ε α) :
    Flights κ α ε :=
  let flights := flights.setStage index (.finished ⟨outcome, true⟩)
  match cell with
  | none => flights
  | some cell =>
    { cache := flights.cache.settle cell outcome, callers := relay cell outcome flights.callers }

/-- A caller goes away; a cell it was computing passes to the next waiter. -/
def leave (flights : Flights κ α ε) (index : Nat) : Flights κ α ε :=
  match (flights.callers[index]?).map Caller.stage with
  | some (.running (some cell) _) =>
    let flights := flights.setStage index .dropped
    { flights with callers := handOver cell flights.callers }
  | some (.running none _) => flights.setStage index .dropped
  | some (.waiting _) => flights.setStage index .dropped
  | some .pending => flights.setStage index .dropped
  | _ => flights

end Flights

/-- The steps that any scheduler can take. -/
inductive Step : Flights κ α ε → Flights κ α ε → Prop where
  | arrive (flights : Flights κ α ε) (index : Nat) (caller : Caller κ α ε)
      (present : flights.callers[index]? = some caller) (pending : caller.stage = .pending) :
      Step flights (flights.arrive index caller.call)
  | settle (flights : Flights κ α ε) (index : Nat) (caller : Caller κ α ε) (cell : Option Nat)
      (yields : Nat) (present : flights.callers[index]? = some caller)
      (running : caller.stage = .running cell yields) :
      Step flights (flights.settle index cell caller.call.outcome)
  | yield (flights : Flights κ α ε) (index : Nat) (caller : Caller κ α ε) (cell : Option Nat)
      (yields : Nat) (present : flights.callers[index]? = some caller)
      (running : caller.stage = .running cell (yields + 1)) :
      Step flights (flights.setStage index (.running cell yields))
  | leave (flights : Flights κ α ε) (index : Nat) (caller : Caller κ α ε)
      (present : flights.callers[index]? = some caller) (active : caller.isDone = false) :
      Step flights (flights.leave index)
  -- The first to wait need not be the one who goes on when a producer fails or is given up.
  | pass (flights : Flights κ α ε) (index place cell yields : Nat) (caller other : Caller κ α ε)
      (stage : Stage α ε) (present : flights.callers[index]? = some caller)
      (running : caller.stage = .running (some cell) yields)
      (failed : stage = .dropped ∨
        ∃ error, caller.call.outcome = .error error ∧ stage = .finished ⟨.error error, true⟩)
      (listed : flights.callers[place]? = some other) (waiting : other.stage = .waiting cell) :
      Step flights
        ((flights.setStage index stage).setStage place (.running (some cell) other.call.yields))

/-! One thread takes the callers in turn: each starts, goes on with its producer, or waits. -/

namespace Flights

/-- A producer goes on until it gives up control or ends. -/
def advance (flights : Flights κ α ε) (index : Nat) : Flights κ α ε :=
  match flights.callers[index]? with
  | some ⟨call, .running cell 0⟩ => flights.settle index cell call.outcome
  | some ⟨_, .running cell (yields + 1)⟩ => flights.setStage index (.running cell yields)
  | _ => flights

def turn (flights : Flights κ α ε) (index : Nat) : Flights κ α ε :=
  match flights.callers[index]? with
  | some ⟨call, .pending⟩ => (flights.arrive index call).advance index
  | _ => flights.advance index

/-- Every caller once, in order. -/
def round (flights : Flights κ α ε) : Flights κ α ε :=
  (List.range flights.callers.length).foldl turn flights

def rounds : Nat → Flights κ α ε → Flights κ α ε
  | 0, flights => flights
  | count + 1, flights => rounds count flights.round

/-- Starts all calls together; by the last round the slowest order of producers has ended. -/
def run (cache : Cache κ α) (calls : List (Call κ α ε)) : Flights κ α ε :=
  rounds (calls.foldr (fun call count => call.yields + count + 1) 1)
    ⟨cache, calls.map fun call => ⟨call, .pending⟩⟩

/-- The results of the finished calls, in call order. -/
def lookups (flights : Flights κ α ε) : List (Cache.Lookup ε α) :=
  flights.callers.filterMap fun caller =>
    match caller.stage with
    | .finished lookup => some lookup
    | _ => none

end Flights
end PoolRouting.Flight
