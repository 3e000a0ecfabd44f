import Mathlib.Algebra.Ring.Nat
import Mathlib.Data.Finset.Card
import Mathlib.Order.Interval.Finset.Nat
import BumpArena.Arena.Chain

/-!
Blocks as ranges of addresses. Two blocks are apart if no address belongs to both, and a block of no
bytes is apart from every other one. Blocks that are apart from each other have no more bytes together
than there are addresses (`Block.total_le`).
-/
namespace BumpArena

namespace Block

instance : Membership Nat Block := ⟨fun block address =>
  block.addr ≤ address ∧ address < block.addr + block.len⟩

/-- The address behind the last byte. -/
def finish (block : Block) : Nat := block.addr + block.len

/-- No address belongs to both blocks. -/
def Apart (a b : Block) : Prop := ∀ address, address ∈ a → address ∉ b

/-- The block lies inside another one. -/
def Within (a b : Block) : Prop := b.addr ≤ a.addr ∧ a.finish ≤ b.finish

theorem mem_iff {block : Block} {address : Nat} :
    address ∈ block ↔ block.addr ≤ address ∧ address < block.addr + block.len := Iff.rfl

theorem apart_iff {a b : Block} :
    a.Apart b ↔ a.len = 0 ∨ b.len = 0 ∨ a.finish ≤ b.addr ∨ b.finish ≤ a.addr := by
  simp only [Apart, mem_iff, finish]
  constructor
  · intro apart
    by_contra overlap
    have := apart (max a.addr b.addr)
    omega
  · intro apart address inA inB
    omega

theorem Apart.symm {a b : Block} (apart : a.Apart b) : b.Apart a :=
  fun address inB inA => apart address inA inB

theorem Apart.within {a b outer : Block} (apart : outer.Apart b) (within : a.Within outer) : a.Apart b := by
  rw [apart_iff] at apart ⊢
  unfold Within finish at *
  omega

/-- Blocks with bytes that are apart start at different addresses. -/
theorem Apart.addr_ne {a b : Block} (apart : a.Apart b) (filled : 0 < a.len) (filled' : 0 < b.len) :
    a.addr ≠ b.addr := by
  intro same
  rw [apart_iff, finish, finish] at apart
  omega

/-- A block of no bytes is apart from every block. -/
theorem apart_of_len_eq_zero {a b : Block} (none : a.len = 0) : a.Apart b :=
  apart_iff.mpr (.inl none)

/-- The addresses that belong to one of the blocks. -/
def covered : List Block → Finset Nat
  | [] => ∅
  | block :: rest => Finset.Ico block.addr (block.addr + block.len) ∪ covered rest

theorem mem_covered {blocks : List Block} {address : Nat} :
    address ∈ covered blocks ↔ ∃ block ∈ blocks, address ∈ block := by
  induction blocks with
  | nil => simp [covered]
  | cons block rest ih => simp [covered, ih, mem_iff]

theorem card_covered {blocks : List Block} (apart : blocks.Pairwise Apart) :
    (covered blocks).card = (blocks.map (·.len)).sum := by
  induction blocks with
  | nil => rfl
  | cons block rest ih =>
    obtain ⟨first, others⟩ := List.pairwise_cons.mp apart
    have disjoint : Disjoint (Finset.Ico block.addr (block.addr + block.len)) (covered rest) := by
      rw [Finset.disjoint_left]
      intro address inBlock inRest
      obtain ⟨other, member, inOther⟩ := mem_covered.mp inRest
      exact first other member address (Finset.mem_Ico.mp inBlock) inOther
    rw [covered, Finset.card_union_of_disjoint disjoint, ih others]
    simp

/-- Blocks that are apart from each other and end at `limit` or before have at most `limit` bytes. -/
theorem total_le {blocks : List Block} {limit : Nat} (apart : blocks.Pairwise Apart)
    (ends : ∀ block ∈ blocks, block.finish ≤ limit) : (blocks.map (·.len)).sum ≤ limit := by
  rw [← card_covered apart]
  have below : covered blocks ⊆ Finset.range limit := by
    intro address member
    obtain ⟨block, listed, inside⟩ := mem_covered.mp member
    have := ends block listed
    rw [mem_iff] at inside
    rw [finish] at this
    exact Finset.mem_range.mpr (by omega)
  simpa using Finset.card_le_card below

end Block

/-- The block of a backing that the node is. -/
def Node.block (node : Node) : Block := ⟨node.base, node.len⟩

end BumpArena
