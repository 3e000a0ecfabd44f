import BumpArena.Backing.Heap
import BumpArena.Region.SpanMap

/-!
A region is a fixed range of addresses that is handed out first fit: a request gets the lowest place in
the first free span that has one. Free spans that touch are always joined, so a block can grow where it
is exactly when the bytes after it are free.
-/
namespace BumpArena

/-- A range of addresses with its free spans and its live blocks, both as offsets from `base`. -/
structure Region where
  base : Nat
  capacity : Nat
  free : SpanMap
  live : SpanMap
  deriving DecidableEq

/-- A place for a block: it starts at offset `start`, inside a free span. -/
structure Fit where
  span : Span
  start : Nat
  deriving DecidableEq

/-- The free bytes of the span before the block. -/
def Fit.padding (fit : Fit) : Nat := fit.start - fit.span.start

namespace Region

def alignment : Alignment := .page

/-- The region of `capacity` bytes at `base`, all of it free. -/
def ofRange (base capacity : Nat) : Region :=
  ⟨base, capacity, SpanMap.empty.insertNonempty ⟨0, capacity⟩, .empty⟩

def create (capacity : Nat) : Act Heap Region := do
  match Layout.ofSize? (max capacity 1) alignment with
  | none => Act.fail (.regionTooLarge capacity)
  | some layout =>
    match ← Heap.backing.allocate layout with
    | .ok block => return ofRange block.addr capacity
    | .error _ => Act.fail (.regionUnavailable capacity)

def liveBlocks (region : Region) : Nat := region.live.size

/-- The bytes that no live block covers. -/
def freeBytes (region : Region) : Nat := region.free.total

def longestFree (region : Region) : Nat := region.free.longest

/-- The offset of an address; one outside of the region is a fault. -/
def offsetOf (region : Region) (addr : Nat) : Except Fault Nat :=
  if region.base ≤ addr ∧ addr < region.base + max region.capacity 1 then .ok (addr - region.base)
  else .error (.outsideRegion addr)

/-- The length of the live block at an offset; it is a fault if there is none or if the layout
    describes another size. -/
def liveLength (region : Region) (offset : Nat) (layout : Layout) : Except Fault Nat :=
  match region.live.find? offset with
  | none => .error (.blockNotLive offset)
  | some len => if len = layout.size then .ok len else .error (.blockSize offset len layout.size)

/-- The lowest place for a block in a free span, if it has one. -/
def fitIn? (region : Region) (layout : Layout) (span : Span) : Option Fit :=
  (layout.align.alignUp? (region.base + span.start)).bind fun aligned =>
    let fit : Fit := ⟨span, aligned - region.base⟩
    if fit.padding + layout.size ≤ span.len then some fit else none

/-- The place for a block in the first free span that has one. -/
def firstFit? (region : Region) (layout : Layout) : Option Fit :=
  region.free.spans.findSome? (region.fitIn? layout)

/-- Puts a live block of `size` bytes at a place. What is left of the free span stays free. -/
def occupy (region : Region) (fit : Fit) (size : Nat) : Region :=
  let before : Span := ⟨fit.span.start, fit.padding⟩
  let after : Span := ⟨fit.start + size, fit.span.len - fit.padding - size⟩
  { region with
    free := ((region.free.erase fit.span.start).insertNonempty before).insertNonempty after
    live := region.live.insert ⟨fit.start, size⟩ }

/-- Makes the live block at an offset shorter; its tail becomes free. -/
def shrink (region : Region) (offset old new : Nat) : Region :=
  { region with
    free := region.free.insertMerged ⟨offset + new, old - new⟩
    live := region.live.insert ⟨offset, new⟩ }

/-- Makes the live block at an offset longer, if enough of the bytes after it are free. -/
def grow? (region : Region) (offset old new : Nat) : Option Region :=
  match region.free.find? (offset + old) with
  | none => none
  | some len =>
    if new - old ≤ len then
      some { region with
        free := (region.free.erase (offset + old)).insertNonempty ⟨offset + new, len - (new - old)⟩
        live := region.live.insert ⟨offset, new⟩ }
    else none

/-- Takes the live block at an offset out; its bytes become free. -/
def vacate (region : Region) (offset len : Nat) : Region :=
  { region with
    free := region.free.insertMerged ⟨offset, len⟩
    live := region.live.erase offset }

/-- The region as a backing. Blocks of no bytes are not part of it. -/
def backing : Backing Region where
  allocate layout := do
    if layout.size = 0 then
      return .ok (.empty layout.align)
    else
      let region ← get
      match region.firstFit? layout with
      | none => return .error (.ofLayout layout)
      | some fit =>
        set (region.occupy fit layout.size)
        return .ok ⟨region.base + fit.start, layout.size⟩
  resizeInPlace addr layout newSize := do
    if layout.size = 0 then
      return newSize == 0
    else
      let region ← get
      let offset ← region.offsetOf addr
      let old ← region.liveLength offset layout
      if newSize = 0 then
        return false
      else if newSize ≤ old then
        set (region.shrink offset old newSize)
        return true
      else
        match region.grow? offset old newSize with
        | none => return false
        | some grown =>
          set grown
          return true
  release addr layout := do
    if layout.size = 0 then
      return ()
    else
      let region ← get
      let offset ← region.offsetOf addr
      let len ← region.liveLength offset layout
      set (region.vacate offset len)

end Region
end BumpArena
