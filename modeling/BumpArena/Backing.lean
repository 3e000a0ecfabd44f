import BumpArena.Act

/-!
A backing is a source of memory blocks. Clients know it by three actions: ask for a block, ask for
another length of a block without moving it, and give a block back. A client describes a block by its
address and the layout of its current length.
-/
namespace BumpArena

/-- A source of memory blocks that keeps a state of type `σ`. -/
structure Backing (σ : Type) where
  /-- Hands out a block for a layout, or refuses. -/
  allocate : Layout → Act σ (Except Refusal Block)
  /-- Gives the block at an address a new size, if that needs no move. -/
  resizeInPlace : Nat → Layout → Nat → Act σ Bool
  /-- Takes the block at an address back. -/
  release : Nat → Layout → Act σ Unit

namespace Backing

variable {σ : Type}

def void : Backing σ where
  allocate layout := pure (.error (.ofLayout layout))
  resizeInPlace _ _ _ := pure false
  release _ _ := pure ()

/-- The backing with every call entered in the trace under the callee's name after it returns. -/
def recorded (name : String) (backing : Backing σ) : Backing σ where
  allocate layout := (backing.allocate layout).noted fun
    | .ok answer => [.allocate name layout answer]
    | .error _ => []
  resizeInPlace addr layout newSize := (backing.resizeInPlace addr layout newSize).noted fun answer =>
    [.resize name addr layout newSize answer]
  release addr layout := (backing.release addr layout).noted fun answer =>
    [.release name addr layout answer]

/-- The backing with its faults hidden: one that faults on a resize refuses it, and one that faults on
    a release returns. What it changed before the fault stays changed. -/
def shielded (backing : Backing σ) : Backing σ where
  allocate := backing.allocate
  resizeInPlace addr layout newSize := (backing.resizeInPlace addr layout newSize).recover false
  release addr layout := (backing.release addr layout).recover ()

end Backing
end BumpArena
