import BumpArena.Alignment

/-!
A layout is what a client asks for and describes a block by: a size and an alignment whose sum stays
in the lower half of the address space.
-/
namespace BumpArena

structure Layout where
  size : Nat
  align : Alignment
  fits : size + align.bytes ≤ Word.half
  deriving DecidableEq

namespace Layout

/-- The layout of `size` bytes at `align`, if there is one. -/
def ofSize? (size : Nat) (align : Alignment) : Option Layout :=
  if fits : size + align.bytes ≤ Word.half then some ⟨size, align, fits⟩ else none

/-- The layout of `size` bytes at an alignment of `align` bytes, if there is one. -/
def ofBytes? (size align : Nat) : Option Layout :=
  (Alignment.ofBytes? align).bind (ofSize? size)

/-- Room for the block wherever it starts: its size and the worst padding, and one byte more. -/
def footprint (layout : Layout) : Nat := layout.size + layout.align.bytes

theorem ofSize?_eq_some_iff {size : Nat} {align : Alignment} {layout : Layout} :
    ofSize? size align = some layout ↔ layout.size = size ∧ layout.align = align := by
  obtain ⟨s, a, fits⟩ := layout
  unfold ofSize?
  split
  · simp [eq_comm]
  · simp only [reduceCtorEq, false_iff]
    rintro ⟨rfl, rfl⟩
    contradiction

theorem ofSize?_eq_none_iff {size : Nat} {align : Alignment} :
    ofSize? size align = none ↔ Word.half < size + align.bytes := by
  unfold ofSize?
  split <;> simp <;> omega

theorem footprint_pos (layout : Layout) : 0 < layout.footprint :=
  Nat.lt_of_lt_of_le layout.align.bytes_pos (Nat.le_add_left ..)

theorem footprint_lt (layout : Layout) : layout.footprint < Word.limit :=
  Nat.lt_of_le_of_lt layout.fits (by decide)

end Layout
end BumpArena
