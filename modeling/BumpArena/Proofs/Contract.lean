import BumpArena.Backing.Heap
import BumpArena.Proofs.Blocks
import BumpArena.Proofs.Ends
import BumpArena.Proofs.Rounding

/-!
What a backing promises its clients. The promise is made about a relation between the states of the
backing and the lists of grants that are out: it holds of the answer to every call that describes a
grant as it is now, it is kept by these calls, and it makes sure that all grants are apart from each
other and end below `Word.limit`. `Backing.Contract` is the whole promise; `Backing.LendsNodes` is the
part that an arena relies on. The heap keeps the whole promise (`Heap.contract`), and so do a region
(`Region.contract`) and an arena (`Arena.contract`).
-/
namespace BumpArena

/-- A block that is out, with the alignment it was asked for. -/
structure Grant where
  block : Block
  align : Alignment
  deriving DecidableEq

/-- The grant of a block of this layout. -/
def Layout.grant (layout : Layout) (addr : Nat) : Grant := ⟨⟨addr, layout.size⟩, layout.align⟩

/-- The grant after its block got another size where it is. -/
def Grant.resized (grant : Grant) (size : Nat) : Grant := ⟨⟨grant.block.addr, size⟩, grant.align⟩

@[simp] theorem Layout.grant_block (layout : Layout) (addr : Nat) :
    (layout.grant addr).block = ⟨addr, layout.size⟩ := rfl

@[simp] theorem Layout.grant_align (layout : Layout) (addr : Nat) :
    (layout.grant addr).align = layout.align := rfl

/-- The grants are apart from each other. -/
def Spread (grants : List Grant) : Prop := grants.Pairwise fun a b => a.block.Apart b.block

namespace Backing

variable {σ : Type}

/-- The promise of a backing to a client that asks for blocks of some layouts only. `Out s grants` says
    that these grants, and no others of this client, are out in the state `s`. -/
structure Obeys (backing : Backing σ) (asked : Layout → Prop) (Out : σ → List Grant → Prop) : Prop where
  spread : ∀ {s grants}, Out s grants → Spread grants
  below : ∀ {s grants}, Out s grants → ∀ grant ∈ grants, grant.block.finish < Word.limit
  allocate : ∀ {s grants layout}, Out s grants → asked layout →
    (backing.allocate layout).Ends s fun answer _ s' =>
      match answer with
      | .ok block => Out s' (layout.grant block.addr :: grants)
      | .error _ => Out s' grants
  resizeInPlace : ∀ {s before after layout addr} (newSize : Nat),
    Out s (before ++ layout.grant addr :: after) → asked layout →
    (backing.resizeInPlace addr layout newSize).Ends s fun granted _ s' =>
      Out s' (before ++ (if granted then (layout.grant addr).resized newSize else layout.grant addr) :: after)
  release : ∀ {s before after layout addr}, Out s (before ++ layout.grant addr :: after) → asked layout →
    (backing.release addr layout).Ends s fun _ _ s' => Out s' (before ++ after)

/-- The promise of a backing to any client. Its blocks are aligned as they were asked for, and not shorter. -/
structure Contract (backing : Backing σ) (Out : σ → List Grant → Prop) : Prop extends
    Obeys backing (fun _ => True) Out where
  aligned : ∀ {s grants}, Out s grants → ∀ grant ∈ grants, grant.align.bytes ∣ grant.block.addr
  size_le : ∀ {s grants layout}, Out s grants → (backing.allocate layout).Ends s fun answer _ _ =>
    ∀ block, answer = .ok block → layout.size ≤ block.len

/-- The promise of a backing to an arena. -/
def LendsNodes (backing : Backing σ) (Out : σ → List Grant → Prop) : Prop :=
  Obeys backing (fun layout => layout.align = nodeAlignment) Out

variable {backing : Backing σ} {asked : Layout → Prop} {Out : σ → List Grant → Prop}

theorem Contract.lendsNodes (contract : backing.Contract Out) : backing.LendsNodes Out where
  spread := contract.spread
  below := contract.below
  allocate out _ := contract.allocate out trivial
  resizeInPlace newSize out _ := contract.resizeInPlace newSize out trivial
  release out _ := contract.release out trivial

/-- Grants of other clients do not matter as long as they stay out. -/
theorem Obeys.beside (obeys : backing.Obeys asked Out) (others : List Grant) :
    backing.Obeys asked fun s grants => Out s (grants ++ others) where
  spread out := (List.pairwise_append.mp (obeys.spread out)).1
  below out grant member := obeys.below out grant (List.mem_append_left _ member)
  allocate out ask := by
    refine (obeys.allocate out ask).mono ?_
    intro answer _ s' kept
    cases answer with
    | ok block => exact kept
    | error refusal => exact kept
  resizeInPlace newSize out ask := by
    rw [List.append_assoc, List.cons_append] at out
    refine (obeys.resizeInPlace newSize out ask).mono ?_
    intro granted _ s' kept
    rwa [List.append_assoc, List.cons_append]
  release out ask := by
    rw [List.append_assoc, List.cons_append] at out
    refine (obeys.release out ask).mono ?_
    intro _ _ s' kept
    rwa [List.append_assoc]

end Backing

/-! ### The heap -/

namespace Heap

/-- The grants lie in the part of the window that is handed out, or have no bytes. -/
structure Lent (heap : Heap) (grants : List Grant) : Prop where
  room : heap.next ≤ heap.limit ∧ heap.limit < Word.limit
  spread : Spread grants
  below : ∀ grant ∈ grants, grant.block.finish < Word.limit
  handedOut : ∀ grant ∈ grants, grant.block.len = 0 ∨ grant.block.finish ≤ heap.next
  aligned : ∀ grant ∈ grants, grant.align.bytes ∣ grant.block.addr

theorem lent_ofSize {size : Nat} (fits : base + size < Word.limit) : (ofSize size).Lent [] :=
  ⟨⟨Nat.le_add_right .., fits⟩, .nil, by simp, by simp, by simp⟩

/-- What is left after grants went back is still lent properly. -/
private theorem Lent.sublist {heap : Heap} {grants fewer : List Grant} (lent : heap.Lent grants)
    (part : fewer.Sublist grants) : heap.Lent fewer where
  room := lent.room
  spread := lent.spread.sublist part
  below grant member := lent.below grant (part.subset member)
  handedOut grant member := lent.handedOut grant (part.subset member)
  aligned grant member := lent.aligned grant (part.subset member)

private theorem lent_empty {heap : Heap} {grants : List Grant} (lent : heap.Lent grants) {layout : Layout}
    (empty : layout.size = 0) : heap.Lent (layout.grant layout.align.bytes :: grants) where
  room := lent.room
  spread := List.pairwise_cons.mpr
    ⟨fun other _ => Block.apart_of_len_eq_zero empty, lent.spread⟩
  below := by
    have small : layout.align.bytes < Word.limit := Nat.lt_of_le_of_lt layout.align.bytes_le_half (by decide)
    simpa [Block.finish, empty] using ⟨small, lent.below⟩
  handedOut := by simpa [empty] using lent.handedOut
  aligned := by simpa using lent.aligned

private theorem lent_placed {heap : Heap} {grants : List Grant} (lent : heap.Lent grants) {layout : Layout}
    {start : Nat} (placed : heap.place? layout = some start) :
    Lent { heap with next := start + layout.size } (layout.grant start :: grants) := by
  obtain ⟨room, isWord⟩ := lent.room
  simp only [place?, Option.filter_eq_some_iff, Alignment.alignUp?_eq_some_iff, decide_eq_true_eq] at placed
  obtain ⟨⟨rounded, _⟩, fits⟩ := placed
  have after : heap.next ≤ start := rounded ▸ Alignment.le_roundUp ..
  constructor
  · exact ⟨fits, isWord⟩
  · refine List.pairwise_cons.mpr ⟨fun other member => ?_, lent.spread⟩
    rw [Block.apart_iff]
    have := lent.handedOut other member
    simp only [Layout.grant_block, Block.finish] at this ⊢
    omega
  · intro grant member
    rcases List.mem_cons.mp member with rfl | member
    · simp only [Layout.grant_block, Block.finish]
      omega
    · exact lent.below grant member
  · intro grant member
    rcases List.mem_cons.mp member with rfl | member
    · exact .inr (Nat.le_refl _)
    · exact (lent.handedOut grant member).imp_right fun old =>
        Nat.le_trans old (Nat.le_trans after (Nat.le_add_right ..))
  · intro grant member
    rcases List.mem_cons.mp member with rfl | member
    · rw [Layout.grant_align, Layout.grant_block, rounded]
      exact Nat.dvd_trans (Alignment.bytes_dvd_max ..) (Alignment.dvd_roundUp ..)
    · exact lent.aligned grant member

/-- The heap keeps the promise of a backing to any client. -/
theorem contract : backing.Contract Lent where
  spread := Lent.spread
  below := Lent.below
  aligned := Lent.aligned
  size_le {heap grants layout} lent := by
    by_cases empty : layout.size = 0
    · simp [backing, empty]
    · simp only [backing, empty, ↓reduceIte, Act.ends_bind, Act.ends_get]
      rcases heap.place? layout with _ | start
      · simp
      · simp
  allocate {heap grants layout} lent _ := by
    by_cases empty : layout.size = 0
    · simp [backing, empty, lent_empty lent empty, Block.empty]
    · simp only [backing, empty, ↓reduceIte, Act.ends_bind, Act.ends_get]
      rcases placed : heap.place? layout with _ | start
      · simpa using lent
      · simpa using lent_placed lent placed
  resizeInPlace {heap before after layout addr} newSize lent _ := by
    simp only [backing, Act.ends_pure, beq_iff_eq]
    split
    · next same => simpa [Grant.resized, Layout.grant, same] using lent
    · exact lent
  release {heap before after layout addr} lent _ := by
    simp only [backing, Act.ends_pure]
    exact lent.sublist ((List.sublist_cons_self ..).append_left before)

end Heap
end BumpArena
