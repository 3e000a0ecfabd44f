import BumpArena.Log

/-!
A trace is what an observer of an allocator sees happen, in order of occurrence: the calls that were
made to named allocators, each entered when it returns, and the log records.
-/
namespace BumpArena

/-- One entry of a trace. A call is entered with its answer; a fault of the callee takes the answer's
    place. -/
inductive Event where
  | allocate (callee : String) (layout : Layout) (answer : Except Refusal Block)
  | resize (callee : String) (addr : Nat) (layout : Layout) (newSize : Nat)
      (answer : Except Fault Bool)
  | release (callee : String) (addr : Nat) (layout : Layout) (answer : Except Fault Unit)
  | log (record : Record)

abbrev Trace := List Event

end BumpArena
