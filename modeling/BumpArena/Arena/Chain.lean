import BumpArena.Act

/-!
The bookkeeping of an arena that no backing takes part in: a chain of nodes, each one block of a
backing, and a cursor into the newest one. Bytes of the newest node, the head, below the cursor are in
use; blocks that end exactly at the cursor are topmost, and only these change their size.
-/
namespace BumpArena

/-- The alignment at which every node is requested. -/
def nodeAlignment : Alignment := .sixteen

/-- One block of a backing. -/
structure Node where
  base : Nat
  len : Nat
  fits : len + nodeAlignment.bytes ≤ Word.half
  deriving DecidableEq

/-- A place for a block in a node, as offsets from the base of the node. -/
structure Placement where
  start : Nat
  finish : Nat
  deriving DecidableEq

namespace Node

/-- The node of `len` bytes at `base`; a length that forms no layout is a fault. -/
def ofLength (base len : Nat) : Except Fault Node :=
  if fits : len + nodeAlignment.bytes ≤ Word.half then .ok ⟨base, len, fits⟩
  else .error (.nodeLength len)

def layout (node : Node) : Layout := ⟨node.len, nodeAlignment, node.fits⟩

/-- Whether the block lies inside the first `committed` bytes of the node. -/
def contains (node : Node) (block : Block) (committed : Nat) : Bool :=
  decide (node.base ≤ block.addr) &&
    match Word.add? (block.addr - node.base) block.len with
    | none => false
    | some finish => decide (finish ≤ min committed node.len)

/-- The first place at or after `cursor` where a block of this layout may start. It need not end inside
    the node. None if no such place has a word for an address. -/
def place (node : Node) (cursor : Nat) (layout : Layout) : Except Fault (Option Placement) := do
  let addr ← Word.add node.base cursor
  match layout.align.alignUp? addr with
  | none => return none
  | some aligned =>
    let start ← Word.add cursor (← Word.sub aligned addr)
    return (Word.add? start layout.size).map fun finish => ⟨start, finish⟩

end Node

/-- The nodes of an arena, newest first, and the offset of the next free byte in the newest. -/
structure Chain where
  nodes : List Node
  cursor : Nat
  deriving DecidableEq

namespace Chain

def empty : Chain := ⟨[], 0⟩

def head? (chain : Chain) : Option Node := chain.nodes.head?

def capacity (chain : Chain) : Nat := chain.nodes.foldr (fun node total => node.len + total) 0

def remaining (chain : Chain) : Except Fault Nat :=
  match chain.nodes with
  | [] => .ok 0
  | head :: _ => Word.sub head.len chain.cursor

/-- Whether the block lies below the cursor of the head and ends at it. The first condition keeps the
    last block of an older node out that the head happens to follow in memory. -/
def isTopmost (chain : Chain) (block : Block) : Except Fault Bool :=
  match chain.nodes with
  | [] => .ok false
  | head :: _ =>
    if head.contains block chain.cursor then do
      return (← Word.add block.addr block.len) == (← Word.add head.base chain.cursor)
    else .ok false

/-- Gives a block a new size where it is, if that is possible without a backing: the topmost block
    shrinks and grows within the head, and any other block can only pretend to shrink. -/
def resize (block : Block) (newSize : Nat) : Act Chain Bool := do
  let chain ← get
  if ← chain.isTopmost block then
    if newSize ≤ block.len then
      let cursor ← Word.sub chain.cursor (block.len - newSize)
      set { chain with cursor }
      return true
    else if newSize - block.len ≤ (← chain.remaining) then
      let cursor ← Word.add chain.cursor (newSize - block.len)
      set { chain with cursor }
      return true
    else
      return false
  else
    return decide (newSize ≤ block.len)

/-- Gives a block a new size as `resize` does and answers with the block of that size. -/
def remap (block : Block) (newSize : Nat) : Act Chain (Option Block) := do
  if ← resize block newSize then
    return some { block with len := newSize }
  else
    return none

/-- Takes the topmost block back; any other block stays as it is. -/
def free (block : Block) : Act Chain Unit := do
  let chain ← get
  if ← chain.isTopmost block then
    let cursor ← Word.sub chain.cursor block.len
    set { chain with cursor }

/-- Ends a chain that no arena holds. No backing is there to take its nodes. -/
def abandon {σ : Type} (chain : Chain) : Act σ Unit :=
  if chain.nodes.isEmpty then pure ()
  else Act.log (.chainLeaked chain.nodes.length chain.capacity)

end Chain
end BumpArena
