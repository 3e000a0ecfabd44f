import BumpArena.Arena.Chain
import BumpArena.Arena.Config
import BumpArena.Backing
import BumpArena.Memory

/-!
An arena serves requests by moving the cursor through the head of its chain. When the head is full it
asks its backing for a longer head in place, and then for a fresh node, which becomes the head. Blocks
never move, and older nodes are left alone until a reset. `Arena.alloc` is this procedure, and
`Arena.asBacking` makes an arena a backing for others.
-/
namespace BumpArena

/-- A chain of nodes, how its nodes are sized, and the backing's state they come from. -/
structure Arena (σ : Type) extends Chain where
  config : Config
  source : σ

inductive Round where
  | served (block : Block)
  | refused
  | again
  deriving DecidableEq

namespace Arena

variable {σ α : Type}

/-- An arena with the standard settings and no node. -/
def ofSource (source : σ) : Arena σ := { Chain.empty with config := .standard, source }

def onChain (act : Act Chain α) : Act (Arena σ) α :=
  act.zoom Arena.toChain fun arena chain => { arena with toChain := chain }

def onSource (act : Act σ α) : Act (Arena σ) α :=
  act.zoom Arena.source fun arena source => { arena with source }

/-- Asks for another length of the head where it is. -/
def resizeHead (backing : Backing σ) (newLength : Nat) : Act (Arena σ) Bool := do
  match (← get).nodes with
  | [] => return false
  | head :: older =>
    if (Layout.ofSize? newLength nodeAlignment).isNone then
      return false
    else if ← onSource (backing.resizeInPlace head.base head.layout newLength) then
      Act.log (.headResized head.len newLength)
      let resized ← Node.ofLength head.base newLength
      modify fun arena => { arena with nodes := resized :: older }
      return true
    else
      return false

/-- Asks for a node of `length` bytes that is not yet part of the chain. -/
def allocateNode (backing : Backing σ) (length : Nat) : Act (Arena σ) (Option Node) := do
  match Layout.ofSize? length nodeAlignment with
  | none => return none
  | some layout =>
    match ← onSource (backing.allocate layout) with
    | .ok block => return some (← Node.ofLength block.addr length)
    | .error refusal =>
      Act.log (.nodeRefused refusal)
      return none

/-- Puts a fresh node before the chain, after a head of length `previous` had no room for a request
    that needs at most `footprint` bytes. -/
def linkNode (backing : Backing σ) (previous footprint : Nat) : Act (Arena σ) Bool := do
  match (← get).config.nodeLength? previous footprint with
  | none => return false
  | some length =>
    match ← allocateNode backing length with
    | none => return false
    | some node =>
      modify fun arena => { arena with nodes := node :: arena.nodes, cursor := 0 }
      Act.log (.nodeLinked length (← get).nodes.length)
      return true

/-- Serves a request from the head if it fits there. If not, gets a longer head or a new one, so that
    another round can serve it. -/
def round (backing : Backing σ) (layout : Layout) : Act (Arena σ) Round := do
  let arena ← get
  match arena.nodes with
  | [] =>
    if ← linkNode backing 0 layout.footprint then return .again else return .refused
  | head :: _ =>
    match ← head.place arena.cursor layout with
    | none => return .refused
    | some place =>
      if place.finish ≤ head.len then
        set { arena with cursor := place.finish }
        return .served ⟨head.base + place.start, layout.size⟩
      else if ← resizeHead backing place.finish then
        return .again
      else if ← linkNode backing head.len layout.footprint then
        return .again
      else
        return .refused

/-- Serves a request in at most so many rounds; one that takes more is a fault. -/
def allocWithin (backing : Backing σ) (layout : Layout) :
    Nat → Act (Arena σ) (Except ArenaError Block)
  | 0 => Act.fail .unsettled
  | rounds + 1 => do
    match ← round backing layout with
    | .served block => return .ok block
    | .refused => return .error (.outOfMemory layout.size layout.align.bytes)
    | .again => allocWithin backing layout rounds

/-- Serves a request. Two rounds are enough: a head that was resized ends where the block ends, and a
    fresh node is longer than the block with any padding. -/
def alloc (backing : Backing σ) (layout : Layout) : Act (Arena σ) (Except ArenaError Block) :=
  allocWithin backing layout 2

/-- Serves a request for a copy of `bytes`, and writes them to the memory. -/
def allocCopy (backing : Backing σ) (bytes : List UInt8) (memory : Memory) :
    Act (Arena σ) (Except ArenaError (Block × Memory)) := do
  match Layout.ofSize? bytes.length .one with
  | none => return .error (.outOfMemory bytes.length Alignment.one.bytes)
  | some layout =>
    return (← alloc backing layout).map fun block => (block, memory.write block.addr bytes)

/-- Gives a block a new size without moving it and without asking the backing. -/
def resize (block : Block) (newSize : Nat) : Act (Arena σ) Bool :=
  onChain (Chain.resize block newSize)

/-- Gives a block a new size as `resize` does and answers with the block of that size. -/
def remap (block : Block) (newSize : Nat) : Act (Arena σ) (Option Block) :=
  onChain (Chain.remap block newSize)

/-- Takes the topmost block back; any other block stays as it is. -/
def free (block : Block) : Act (Arena σ) Unit :=
  onChain (Chain.free block)

def asBacking (backing : Backing σ) : Backing (Arena σ) where
  allocate layout := do
    match ← alloc backing layout with
    | .ok block => return .ok block
    | .error _ => return .error (.ofLayout layout)
  resizeInPlace addr layout newSize := resize ⟨addr, layout.size⟩ newSize
  release addr layout := free ⟨addr, layout.size⟩

end Arena
end BumpArena
