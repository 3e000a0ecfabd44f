import BumpArena.Session.Basic
import BumpArena.Workload

/-!
What a client of a session can ask for, and what the answers are.
-/
namespace BumpArena

/-- A request to a session. New objects are called `id`, the objects that are asked `on`, and handles
    `handle`; the block that an allocation ends with is kept under the name `keep`. -/
inductive Step where
  | createHeap (id : String)
  | createRegion (id : String) (capacity : Nat)
  | createCounted (id on : String)
  | createRationed (id on : String) (budget : Option Nat) (refusesResizes : Bool)
  /-- Without settings the arena has the standard ones. -/
  | createArena (id on : String) (settings : Option Settings)
  | createChain (id : String)
  /-- Takes the chain out of an arena, which is gone then. -/
  | detach (id on : String)
  /-- Builds an arena with the standard settings from a chain, which is gone then. -/
  | promote (id on backing : String)
  /-- Builds an arena with settings of its own from a chain, which is gone then. -/
  | attach (id on backing : String) (settings : Settings)
  | finish (on : String)
  | discard (on : String)
  /-- Ends a counter, and answers with the name of the object it was built on. -/
  | endCounted (on : String)
  | alloc (on : String) (size align : Nat) (keep : Option String)
  | allocCopy (on : String) (bytes : List UInt8) (keep : Option String)
  | resize (on handle : String) (newSize : Nat)
  | remap (on handle : String) (newSize : Nat)
  | free (on handle : String)
  | reset (on : String) (retention : Retention)
  /-- Serves the first requests of a stream from an arena. -/
  | fill (on : String) (profile : Profile) (count : Nat) (seed : UInt64)
  | allocate (on : String) (size align : Nat) (keep : Option String)
  /-- The size, if given, is claimed to be that of the block. -/
  | resizeInPlace (on handle : String) (newSize : Nat) (size : Option Nat)
  | release (on handle : String) (size : Option Nat)
  | resetCounts (on : String)
  | setBudget (on : String) (budget : Option Nat)
  | inspect (on : String)
  | write (handle : String) (byte : UInt8)
  | read (handle : String)

namespace Step

/-- The objects that a step is about, a new one first. -/
def objects : Step → List String
  | createHeap id | createRegion id _ | createChain id => [id]
  | createCounted id on | createRationed id on _ _ | createArena id on _ | detach id on
  | promote id on _ | attach id on _ _ => [id, on]
  | finish on | discard on | endCounted on | alloc on _ _ _ | allocCopy on _ _ | resize on _ _
  | remap on _ _ | free on _ | reset on _ | fill on _ _ _ | allocate on _ _ _
  | resizeInPlace on _ _ _ | release on _ _ | resetCounts on | setBudget on _ | inspect on => [on]
  | write _ _ | read _ => []

end Step

inductive Value where
  | nothing
  | flag (value : Bool)
  | count (value : Nat)
  | block (value : Block)
  | name (value : String)
  | bytes (value : List UInt8)
  deriving DecidableEq

inductive Failure where
  | fault (fault : Fault)
  | invalidLayout
  | refusal (refusal : Refusal)
  | arena (error : ArenaError)
  | misuse (reason : String)
  deriving DecidableEq

/-- What is known after a step: its answer, what happened, and the object it was about. -/
structure Report where
  answer : Except Failure Value
  trace : Trace
  shown : Option Object

/-- What is known after a session: the report of each step, the objects that are left, newest first, and
    what happens when they are ended. -/
structure Transcript where
  reports : List Report
  objects : List (String × Object)
  teardown : Trace

end BumpArena
