import BumpArena.Layout

/-!
What an allocator answers to a request: a block of memory, or a refusal that repeats the request.
-/
namespace BumpArena

/-- The bytes from `addr` up to `addr + len`. -/
structure Block where
  addr : Nat
  len : Nat
  deriving DecidableEq

/-- An allocator has no block for a request of this size and alignment. -/
structure Refusal where
  size : Nat
  align : Nat
  deriving DecidableEq

def Refusal.ofLayout (layout : Layout) : Refusal := ⟨layout.size, layout.align.bytes⟩

def Refusal.message (refusal : Refusal) : String :=
  s!"backing allocation failed: {refusal.size} bytes at alignment {refusal.align}"

/-- The block of a request for no bytes: it needs no memory, only an aligned address. -/
def Block.empty (align : Alignment) : Block := ⟨align.bytes, 0⟩

end BumpArena
