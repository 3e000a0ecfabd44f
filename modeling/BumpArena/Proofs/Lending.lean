import BumpArena.Proofs.Contract
import BumpArena.Proofs.InPlace

/-!
A region as a backing for any client. Its live blocks are the blocks that are out, but for those without bytes, which
are no part of it (`Region.Lent`). A call that describes a grant as it is now finds that grant among the live blocks,
whatever other clients there are, and leaves it there as the answer says. So a region keeps the whole promise of a
backing (`Region.contract`); unlike the heap, it grants a longer block where the bytes behind it are free.
-/
namespace BumpArena

/-- The blocks of the grants that have bytes. -/
def Grant.filled (grants : List Grant) : List Block := (grants.map Grant.block).filter fun block => 0 < block.len

namespace Grant

variable {grant : Grant}

theorem filled_of_pos (before after : List Grant) (positive : 0 < grant.block.len) :
    (filled (before ++ grant :: after)).Perm (grant.block :: filled (before ++ after)) := by
  unfold filled
  rw [List.map_append, List.map_append, List.map_cons, List.filter_append, List.filter_append,
    List.filter_cons_of_pos (by simpa using positive)]
  exact List.perm_middle

theorem filled_of_empty (before after : List Grant) (empty : grant.block.len = 0) :
    filled (before ++ grant :: after) = filled (before ++ after) := by
  unfold filled
  rw [List.map_append, List.map_append, List.map_cons, List.filter_append, List.filter_append,
    List.filter_cons_of_neg (by simpa using empty)]

theorem forall_mem_middle {holds : Grant → Prop} {before after : List Grant} :
    (∀ other ∈ before ++ grant :: after, holds other) ↔ holds grant ∧ ∀ other ∈ before ++ after, holds other := by
  rw [← List.forall_mem_cons]
  exact forall_congr' fun other => imp_congr_left List.perm_middle.mem_iff

end Grant

namespace Region

variable {region : Region} {grants before after : List Grant} {layout : Layout} {addr : Nat}

/-- The block of a span of offsets. -/
def blockAt (region : Region) (span : Span) : Block := ⟨region.base + span.start, span.len⟩

/-- The live blocks. -/
def blocks (region : Region) : List Block := region.live.spans.map region.blockAt

theorem Tiled.blocks_apart (tiled : region.Tiled) : region.blocks.Pairwise Block.Apart := by
  refine List.pairwise_map.mpr (tiled.live.pairwise.imp ?_)
  intro a b clear
  rw [Block.apart_iff]
  unfold Span.Clear Span.stop at clear
  simp only [blockAt, Block.finish]
  omega

theorem Tiled.finish_le (tiled : region.Tiled) {block : Block} (live : block ∈ region.blocks) :
    block.finish ≤ region.base + region.capacity := by
  obtain ⟨span, listed, rfl⟩ := List.mem_map.mp live
  have inside := tiled.canonical.inside span listed
  unfold Span.stop at inside
  simp only [blockAt, Block.finish]
  omega

/-- The live blocks are the blocks with bytes among the grants, each of them once. A block without bytes may lie
    anywhere. -/
structure Lent (region : Region) (grants : List Grant) : Prop where
  tiled : region.Tiled
  isWord : region.base + region.capacity < Word.limit
  blocks : region.blocks.Perm (Grant.filled grants)
  voids : ∀ grant ∈ grants, grant.block.len = 0 → grant.block.addr < Word.limit
  aligned : ∀ grant ∈ grants, grant.align.bytes ∣ grant.block.addr

theorem lent_ofRange {base capacity : Nat} (isWord : base + capacity < Word.limit) :
    (ofRange base capacity).Lent [] where
  tiled := tiled_ofRange base capacity
  isWord := isWord
  blocks := .nil
  voids := by simp
  aligned := by simp

/-- A region that was made from the heap has nothing out. -/
theorem lent_of_create {heap heap' : Heap} {capacity : Nat} {created : Trace} {fresh : Region}
    (made : (create capacity).run heap = ⟨.ok fresh, created, heap'⟩) (window : heap.limit < Word.limit) :
    fresh.Lent [] := by
  obtain ⟨whole, _, ends, _⟩ := of_create made
  rw [whole]
  exact lent_ofRange (Nat.lt_of_le_of_lt ends window)

theorem Lent.spread (lent : region.Lent grants) : Spread grants := by
  have apart := (lent.blocks.pairwise_iff Block.Apart.symm).mp lent.tiled.blocks_apart
  rw [Grant.filled, List.pairwise_filter, List.pairwise_map] at apart
  refine apart.imp ?_
  intro a b apart
  rcases Nat.eq_zero_or_pos a.block.len with empty | positive
  · exact Block.apart_of_len_eq_zero empty
  rcases Nat.eq_zero_or_pos b.block.len with empty | positive'
  · exact (Block.apart_of_len_eq_zero empty).symm
  · exact apart (decide_eq_true positive) (decide_eq_true positive')

theorem Lent.below (lent : region.Lent grants) : ∀ grant ∈ grants, grant.block.finish < Word.limit := by
  intro grant member
  rcases Nat.eq_zero_or_pos grant.block.len with empty | positive
  · rw [Block.finish, empty]
    exact lent.voids grant member empty
  · have live : grant.block ∈ region.blocks :=
      lent.blocks.mem_iff.mpr (List.mem_filter.mpr ⟨List.mem_map_of_mem member, decide_eq_true positive⟩)
    exact Nat.lt_of_le_of_lt (lent.tiled.finish_le live) lent.isWord

/-! ### What calls do -/

/-- A grant with bytes is a live block, and the other live blocks are those of the other grants. -/
theorem Lent.located (lent : region.Lent (before ++ layout.grant addr :: after)) (positive : 0 < layout.size) :
    ∃ offset, addr = region.base + offset ∧ region.live.find? offset = some layout.size ∧
      ((region.live.erase offset).spans.map region.blockAt).Perm (Grant.filled (before ++ after)) := by
  have parts := lent.blocks.trans (Grant.filled_of_pos before after positive)
  obtain ⟨span, listed, same⟩ := List.mem_map.mp (parts.mem_iff.mpr List.mem_cons_self)
  obtain ⟨rfl, len⟩ := Block.mk.inj same
  refine ⟨span.start, rfl, SpanMap.find?_eq_some_iff.mpr (len ▸ listed), ?_⟩
  have others := (SpanMap.perm_cons_erase listed).map region.blockAt
  rw [List.map_cons, same] at others
  exact List.Perm.cons_inv (others.symm.trans parts)

/-- A block without bytes comes and goes without the region. -/
theorem Lent.void (lent : region.Lent grants) (empty : layout.size = 0) :
    region.Lent (layout.grant layout.align.bytes :: grants) where
  tiled := lent.tiled
  isWord := lent.isWord
  blocks := by
    have same : Grant.filled (layout.grant layout.align.bytes :: grants) = Grant.filled grants :=
      Grant.filled_of_empty [] grants empty
    rw [same]
    exact lent.blocks
  voids := by
    have small : layout.align.bytes < Word.limit := Nat.lt_of_le_of_lt layout.align.bytes_le_half (by decide)
    exact List.forall_mem_cons.mpr ⟨fun _ => small, lent.voids⟩
  aligned := List.forall_mem_cons.mpr ⟨Nat.dvd_refl _, lent.aligned⟩

theorem Lent.occupied (lent : region.Lent grants) (positive : 0 < layout.size) {fit : Fit}
    (found : region.firstFit? layout = some fit) :
    (region.occupy fit layout.size).Lent (layout.grant (region.base + fit.start) :: grants) where
  tiled := lent.tiled.occupied positive found
  isWord := lent.isWord
  blocks := by
    obtain ⟨listed, within, divides⟩ := fits_of_firstFit? found
    have vacant := (lent.tiled.open_of_within listed positive divides within).2
    have live := (vacant.insert_perm lent.tiled).map region.blockAt
    have front : 0 < (layout.grant (region.base + fit.start)).block.len := positive
    exact live.trans ((lent.blocks.cons _).trans (Grant.filled_of_pos [] grants front).symm)
  voids := List.forall_mem_cons.mpr ⟨fun empty => absurd empty (Nat.ne_of_gt positive), lent.voids⟩
  aligned := List.forall_mem_cons.mpr ⟨(fits_of_firstFit? found).2.2, lent.aligned⟩

theorem Lent.allocate_ends (lent : region.Lent grants) (layout : Layout) :
    (backing.allocate layout).Ends region fun answer _ region' =>
      match answer with
      | .ok block => region'.Lent (layout.grant block.addr :: grants)
      | .error _ => region'.Lent grants := by
  by_cases empty : layout.size = 0
  · simp only [backing, empty, ↓reduceIte, Act.ends_pure]
    exact lent.void empty
  simp only [backing, empty, ↓reduceIte, Act.ends_bind, Act.ends_get]
  rcases found : region.firstFit? layout with _ | fit
  · exact (Act.ends_pure ..).mpr lent
  · simp only [Act.ends_bind, Act.ends_set, Act.ends_pure]
    exact lent.occupied (Nat.pos_of_ne_zero empty) found

/-- A block of another size takes the place of the old one, and the other grants stay as they are. -/
theorem Lent.resized {region' : Region} {offset old newSize : Nat}
    (lent : region.Lent (before ++ layout.grant (region.base + offset) :: after))
    (others : ((region.live.erase offset).spans.map region.blockAt).Perm (Grant.filled (before ++ after)))
    (resized : Resized region offset old newSize true region') :
    region'.Lent (before ++ (layout.grant (region.base + offset)).resized newSize :: after) where
  tiled := resized.tiled
  isWord := by
    rw [resized.base, resized.capacity]
    exact lent.isWord
  blocks := by
    have positive := (resized.granted_iff.mp rfl).1
    have same : region'.blockAt = region.blockAt := by
      unfold blockAt
      rw [resized.base]
    have live := (region.live.insert_perm ⟨offset, newSize⟩).map region.blockAt
    have front : 0 < ((layout.grant (region.base + offset)).resized newSize).block.len := positive
    rw [Region.blocks, same, resized.live rfl]
    exact live.trans ((others.cons _).trans (Grant.filled_of_pos before after front).symm)
  voids := by
    have positive := (resized.granted_iff.mp rfl).1
    exact Grant.forall_mem_middle.mpr
      ⟨fun empty => absurd empty (Nat.ne_of_gt positive), (Grant.forall_mem_middle.mp lent.voids).2⟩
  aligned := Grant.forall_mem_middle.mpr (Grant.forall_mem_middle.mp lent.aligned)

theorem Lent.resizeInPlace_ends (lent : region.Lent (before ++ layout.grant addr :: after)) (newSize : Nat) :
    (backing.resizeInPlace addr layout newSize).Ends region fun granted _ region' =>
      region'.Lent
        (before ++ (if granted then (layout.grant addr).resized newSize else layout.grant addr) :: after) := by
  rcases Nat.eq_zero_or_pos layout.size with empty | positive
  · simp only [backing, empty, ↓reduceIte, Act.ends_pure, beq_iff_eq]
    split
    · next none => simpa [Grant.resized, Layout.grant, empty, none] using lent
    · exact lent
  · obtain ⟨offset, rfl, live, others⟩ := lent.located positive
    refine (resizeInPlace_resized lent.tiled live newSize).mono ?_
    intro granted _ region' resized
    cases granted with
    | false =>
      rw [resized.refused rfl]
      exact lent
    | true => exact lent.resized others resized

theorem Lent.release_ends (lent : region.Lent (before ++ layout.grant addr :: after)) :
    (backing.release addr layout).Ends region fun _ _ region' => region'.Lent (before ++ after) := by
  have voids := (Grant.forall_mem_middle.mp lent.voids).2
  have aligned := (Grant.forall_mem_middle.mp lent.aligned).2
  rcases Nat.eq_zero_or_pos layout.size with empty | positive
  · simp only [backing, empty, ↓reduceIte, Act.ends_pure]
    have none : (layout.grant addr).block.len = 0 := empty
    refine ⟨lent.tiled, lent.isWord, ?_, voids, aligned⟩
    rw [← Grant.filled_of_empty before after none]
    exact lent.blocks
  · obtain ⟨offset, rfl, live, others⟩ := lent.located positive
    exact (Act.ends_iff_of_run (run_release lent.tiled live)).mpr
      ⟨lent.tiled.vacated live, lent.isWord, others, voids, aligned⟩

/-- A region keeps the promise of a backing to any client. -/
theorem contract : backing.Contract Lent where
  spread := Lent.spread
  below := Lent.below
  aligned := Lent.aligned
  size_le _ := (allocate_ends _ _).mono fun _ _ _ known block granted => Nat.le_of_eq (known block granted).2.1.symm
  allocate lent _ := lent.allocate_ends _
  resizeInPlace newSize lent _ := lent.resizeInPlace_ends newSize
  release lent _ := lent.release_ends

end Region
end BumpArena
