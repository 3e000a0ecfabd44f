import BumpArena.Arena.Lifecycle

/-!
An arena never asks for an empty node. A fresh node is as long as the footprint of a request at least, a head that
grows gets longer, and what a reset keeps or what a new arena starts with is empty only if it is not asked for. So an
arena does the same over a backing that refuses all that is empty (`Backing.wary`), whatever the backing itself makes
of it.
-/
namespace BumpArena

namespace Backing

variable {σ : Type} {backing : Backing σ}

/-- The backing, except that it gives no block without bytes. -/
def wary (backing : Backing σ) : Backing σ where
  allocate layout :=
    if layout.size = 0 then return .error (.ofLayout layout) else backing.allocate layout
  resizeInPlace addr layout newSize :=
    if newSize = 0 then return false else backing.resizeInPlace addr layout newSize
  release := backing.release

theorem allocate_wary {layout : Layout} (filled : layout.size ≠ 0) :
    backing.wary.allocate layout = backing.allocate layout := if_neg filled

theorem resizeInPlace_wary (addr : Nat) (layout : Layout) {newSize : Nat} (filled : newSize ≠ 0) :
    backing.wary.resizeInPlace addr layout newSize = backing.resizeInPlace addr layout newSize := if_neg filled

end Backing

namespace Arena

variable {σ : Type}

theorem resizeHead_wary (backing : Backing σ) {newLength : Nat} (filled : newLength ≠ 0) :
    resizeHead backing.wary newLength = resizeHead backing newLength := by
  simp only [resizeHead, Backing.resizeInPlace_wary _ _ filled]

theorem allocateNode_wary (backing : Backing σ) {length : Nat} (filled : length ≠ 0) :
    allocateNode backing.wary length = allocateNode backing length := by
  unfold allocateNode
  rcases sized : Layout.ofSize? length nodeAlignment with _ | layout
  · rfl
  · obtain ⟨rfl, _⟩ := Layout.ofSize?_eq_some_iff.mp sized
    simp only [Backing.allocate_wary filled]

theorem linkNode_wary (backing : Backing σ) (previous : Nat) (layout : Layout) :
    linkNode backing.wary previous layout.footprint = linkNode backing previous layout.footprint := by
  refine bind_congr fun arena => ?_
  rcases sized : arena.config.nodeLength? previous layout.footprint with _ | length
  · rfl
  · have long := Config.le_of_nodeLength? sized
    have positive := layout.align.bytes_pos
    rw [Layout.footprint] at long
    simp only [allocateNode_wary backing (show length ≠ 0 by omega)]

theorem round_wary (backing : Backing σ) (layout : Layout) : round backing.wary layout = round backing layout := by
  refine bind_congr fun arena => ?_
  rcases arena.nodes with _ | ⟨head, older⟩
  · simp only [linkNode_wary]
  refine bind_congr fun place? => ?_
  rcases place? with _ | place
  · rfl
  by_cases fits : place.finish ≤ head.len
  · simp only [fits, ↓reduceIte]
  · simp only [fits, ↓reduceIte, linkNode_wary, resizeHead_wary backing (show place.finish ≠ 0 by omega)]

theorem alloc_wary (backing : Backing σ) (layout : Layout) : alloc backing.wary layout = alloc backing layout := by
  simp only [alloc, allocWithin, round_wary]

theorem releaseNodes_wary (backing : Backing σ) (keep : Nat) (nodes : List Node) :
    releaseNodes backing.wary keep nodes = releaseNodes backing keep nodes := by
  induction nodes with
  | nil => rfl
  | cons node older ih =>
    rw [releaseNodes, releaseNodes, ih]
    rfl

theorem releaseDownTo_wary (backing : Backing σ) (keep : Nat) :
    releaseDownTo backing.wary keep = releaseDownTo backing keep := by
  simp only [releaseDownTo, releaseNodes_wary]

theorem adopt_wary (backing : Backing σ) (settings : Settings) :
    adopt backing.wary settings = adopt backing settings := by
  simp only [adopt, releaseAll, releaseDownTo_wary]

theorem replaceNode_wary (backing : Backing σ) (retained : Node) {target : Nat} (filled : target ≠ 0) :
    replaceNode backing.wary retained target = replaceNode backing retained target := by
  rw [replaceNode, replaceNode, allocateNode_wary backing filled]
  rfl

theorem reset_wary (backing : Backing σ) (retention : Retention) :
    reset backing.wary retention = reset backing retention := by
  refine bind_congr fun arena => bind_congr fun capacity => ?_
  by_cases none : retention.target capacity = 0
  · simp only [none, ↓reduceIte, releaseAll, releaseDownTo_wary]
  · simp only [none, ↓reduceIte, releaseDownTo_wary, resizeHead_wary backing none, replaceNode_wary backing _ none]

theorem prepare_wary (backing : Backing σ) (settings : Settings) :
    prepare backing.wary settings = prepare backing settings := by
  unfold prepare
  rcases settings.validate with error | config
  · rfl
  by_cases none : config.initialCapacity = 0
  · simp only [none, ↓reduceIte]
  · simp only [none, ↓reduceIte, allocateNode_wary backing none]

end Arena
end BumpArena
