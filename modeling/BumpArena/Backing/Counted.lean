import BumpArena.Backing
import BumpArena.Region.SpanMap

/-!
A backing with a counter before it. The counter counts the calls of each kind and keeps the blocks that
are out, by address; a client that resizes or releases a block the counter does not know meets a fault
instead of the backing.
-/
namespace BumpArena

/-- How many calls of each kind there were. -/
structure CallCounts where
  allocations : Nat
  failedAllocations : Nat
  resizes : Nat
  refusedResizes : Nat
  releases : Nat
  deriving DecidableEq

def CallCounts.zero : CallCounts := ⟨0, 0, 0, 0, 0⟩

def CallCounts.total (counts : CallCounts) : Nat :=
  counts.allocations + counts.resizes + counts.releases

structure Tally where
  counts : CallCounts
  live : SpanMap
  deriving DecidableEq

namespace Tally

def empty : Tally := ⟨.zero, .empty⟩

/-- Counts from zero again; the blocks that are out stay known. -/
def resetCounts (tally : Tally) : Tally := { tally with counts := .zero }

def count (tally : Tally) (step : CallCounts → CallCounts) : Tally :=
  { tally with counts := step tally.counts }

end Tally

/-- A counter and the state of the backing behind it. -/
structure Counted (σ : Type) extends Tally where
  inner : σ

namespace Counted

variable {σ α : Type}

def onInner (act : Act σ α) : Act (Counted σ) α :=
  act.zoom Counted.inner fun counted inner => { counted with inner }

def onTally (step : Tally → Tally) : Act (Counted σ) Unit :=
  modify fun counted => { counted with toTally := step counted.toTally }

def count (step : CallCounts → CallCounts) : Act (Counted σ) Unit :=
  onTally (·.count step)

/-- Remembers that the block at an address has this size. -/
def track (addr size : Nat) : Act (Counted σ) Unit :=
  onTally fun tally => { tally with live := tally.live.insert ⟨addr, size⟩ }

/-- Forgets the block at an address. -/
def untrack (addr : Nat) : Act (Counted σ) Unit :=
  onTally fun tally => { tally with live := tally.live.erase addr }

def backing (inner : Backing σ) : Backing (Counted σ) where
  allocate layout := do
    count fun counts => { counts with allocations := counts.allocations + 1 }
    match ← onInner (inner.allocate layout) with
    | .ok block =>
      track block.addr layout.size
      return .ok block
    | .error refusal =>
      count fun counts => { counts with failedAllocations := counts.failedAllocations + 1 }
      return .error refusal
  resizeInPlace addr layout newSize := do
    count fun counts => { counts with resizes := counts.resizes + 1 }
    if ((← get).live.find? addr).isNone then
      Act.fail (.resizeUntracked addr)
    else if ← onInner (inner.resizeInPlace addr layout newSize) then
      track addr newSize
      return true
    else
      count fun counts => { counts with refusedResizes := counts.refusedResizes + 1 }
      return false
  release addr layout := do
    count fun counts => { counts with releases := counts.releases + 1 }
    match (← get).live.find? addr with
    | none => Act.fail (.releaseUntracked addr)
    | some size =>
      untrack addr
      if size = layout.size then
        onInner (inner.release addr layout)
      else
        Act.fail (.releaseStale addr size layout.size)

end Counted
end BumpArena
