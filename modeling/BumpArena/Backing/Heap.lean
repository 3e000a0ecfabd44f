import BumpArena.Backing

/-!
The heap that everything else lives on: one window of addresses that is handed out from its beginning
to its end. Released memory is not used again, so a block follows the one before it up to rounding.
-/
namespace BumpArena

/-- The part of the window that is not handed out yet, from `next` up to `limit`. -/
structure Heap where
  next : Nat
  limit : Nat
  deriving DecidableEq

namespace Heap

def base : Nat := 0x100000000000

/-- The alignment that every block has at least. -/
def granule : Alignment := .sixteen

/-- A window of so many bytes with nothing handed out. -/
def ofSize (size : Nat) : Heap := ⟨base, base + size⟩

/-- Where a block of this layout goes, if there is room for it. -/
def place? (heap : Heap) (layout : Layout) : Option Nat :=
  ((layout.align.max granule).alignUp? heap.next).filter fun start =>
    start + layout.size ≤ heap.limit

/-- The heap as a backing. It cannot resize a block without moving it. Requests for no bytes never
    reach the window. -/
def backing : Backing Heap where
  allocate layout := do
    if layout.size = 0 then
      return .ok (.empty layout.align)
    else
      match (← get).place? layout with
      | none => return .error (.ofLayout layout)
      | some start =>
        modify fun heap => { heap with next := start + layout.size }
        return .ok ⟨start, layout.size⟩
  resizeInPlace _ layout newSize := return newSize == layout.size
  release _ _ := return ()

end Heap
end BumpArena
