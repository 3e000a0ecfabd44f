import BumpArena.Proofs.Carving
import BumpArena.Proofs.Clearing

/-!
An arena as the backing of another client. `Arena.Lent` is the arena's side of the promise: its own nodes
are out for it, and the grants of its client are apart from each other, aligned and covered by the chain.
Every operation keeps this, and so the arena makes to its client the promise that its backing makes to it
(`Arena.contract`). It needs only what a backing promises to an arena.
-/
namespace BumpArena

/-- What an arena owes to a client for one grant. -/
structure Chain.Owes (chain : Chain) (grant : Grant) : Prop where
  below : grant.block.finish < Word.limit
  aligned : grant.align.bytes ∣ grant.block.addr
  covers : chain.Covers grant.block

namespace Arena

variable {σ : Type} {backing : Backing σ} {Out : σ → List Grant → Prop} {arena arena' : Arena σ}
  {grants others : List Grant} {grant : Grant}

/-- The grants are out for a client of the arena. -/
structure Lent (Out : σ → List Grant → Prop) (arena : Arena σ) (grants : List Grant) : Prop where
  backed : arena.Backed Out
  spread : Spread grants
  owes : ∀ grant ∈ grants, arena.toChain.Owes grant

theorem Lent.perm {grants' : List Grant} (lent : arena.Lent Out grants) (same : grants.Perm grants') :
    arena.Lent Out grants' where
  backed := lent.backed
  spread := lent.spread.perm same Block.Apart.symm
  owes grant member := lent.owes grant (same.mem_iff.mpr member)

/-- A grant may as well be the first one. -/
theorem lent_middle {before after : List Grant} :
    arena.Lent Out (before ++ grant :: after) ↔ arena.Lent Out (grant :: (before ++ after)) :=
  ⟨fun lent => lent.perm List.perm_middle, fun lent => lent.perm List.perm_middle.symm⟩

theorem lent_nil : arena.Lent Out [] ↔ arena.Backed Out :=
  ⟨Lent.backed, fun backed => ⟨backed, .nil, by simp⟩⟩

theorem lent_cons :
    arena.Lent Out (grant :: others) ↔ arena.Lent Out others ∧ arena.toChain.Owes grant ∧
      ∀ other ∈ others, other.block.Apart grant.block := by
  constructor
  · rintro ⟨backed, spread, owes⟩
    obtain ⟨first, rest⟩ := List.pairwise_cons.mp spread
    obtain ⟨owed, owes⟩ := List.forall_mem_cons.mp owes
    exact ⟨⟨backed, rest, owes⟩, owed, fun other member => (first other member).symm⟩
  · rintro ⟨⟨backed, rest, owes⟩, owed, first⟩
    exact ⟨backed, List.pairwise_cons.mpr ⟨fun other member => (first other member).symm, rest⟩,
      List.forall_mem_cons.mpr ⟨owed, owes⟩⟩

/-- The grants stay out as long as the chain covers their blocks. -/
theorem Lent.of_covers (lent : arena.Lent Out grants) (backed : arena'.Backed Out)
    (covers : ∀ grant ∈ grants, arena'.toChain.Covers grant.block) : arena'.Lent Out grants where
  backed := backed
  spread := lent.spread
  owes grant member := ⟨(lent.owes grant member).below, (lent.owes grant member).aligned, covers grant member⟩

/-! ### One operation -/

/-- A block that is carved is one more grant. -/
theorem Lent.carved (lends : backing.LendsNodes Out) (lent : arena.Lent Out grants) (backed : arena'.Backed Out)
    {config : Config} {layout : Layout} {roomy : Chain} {block : Block}
    (made : arena.toChain.MakesRoom config layout roomy) (carves : roomy.Carves layout block arena'.toChain) :
    block.len = layout.size ∧ arena'.Lent Out (layout.grant block.addr :: grants) := by
  obtain ⟨covers, aligned, len, below, kept⟩ := carves.spec (backed.sound lends)
  have same : (layout.grant block.addr).block = block := by rw [Layout.grant_block, ← len]
  have stays : ∀ grant ∈ grants, arena'.toChain.Covers grant.block ∧ grant.block.Apart block := by
    intro grant member
    exact kept grant.block (made.covers (lent.backed.sound lends) (lent.owes grant member).covers)
  refine ⟨len, lent_cons.mpr ⟨lent.of_covers backed fun grant member => (stays grant member).1, ?_, ?_⟩⟩
  · exact ⟨same.symm ▸ below, aligned, same.symm ▸ covers⟩
  · rw [same]
    exact fun other member => (stays other member).2

theorem Lent.resize_ends (lends : backing.LendsNodes Out) (lent : arena.Lent Out (grant :: others)) (newSize : Nat) :
    (resize grant.block newSize).Ends arena fun granted _ arena' =>
      arena'.nodes = arena.nodes ∧ arena'.config = arena.config ∧
      arena'.Lent Out ((if granted then grant.resized newSize else grant) :: others) := by
  obtain ⟨rest, owed, apart⟩ := lent_cons.mp lent
  rw [resize, onChain, Act.ends_zoom]
  refine (Chain.resize_cases (lent.backed.sound lends) grant.block newSize).mono ?_
  intro granted _ chain' resizes
  obtain ⟨sound, nodes⟩ := resizes.keeps (lent.backed.sound lends)
  have kept := resizes.covers (lent.backed.sound lends) owed.covers owed.below
  have backed : Backed Out { arena with toChain := chain' } :=
    ⟨nodes ▸ lent.backed.out, sound.filled, sound.cursor_le⟩
  refine ⟨nodes, rfl, ?_⟩
  cases granted with
  | false =>
    simp only [Bool.false_eq_true, ↓reduceIte] at kept ⊢
    subst kept
    exact lent
  | true =>
    obtain ⟨covers, below, kept⟩ := kept
    have stays := fun other member => kept other.block (rest.owes other member).covers (apart other member)
    refine lent_cons.mpr ⟨rest.of_covers backed fun other member => (stays other member).1, ?_, ?_⟩
    · exact ⟨below, owed.aligned, covers⟩
    · exact fun other member => (stays other member).2

theorem Lent.free_ends (lends : backing.LendsNodes Out) (lent : arena.Lent Out (grant :: others)) :
    (free grant.block).Ends arena fun _ _ arena' =>
      arena'.nodes = arena.nodes ∧ arena'.config = arena.config ∧ arena'.Lent Out others := by
  obtain ⟨rest, owed, apart⟩ := lent_cons.mp lent
  rw [free, onChain, Act.ends_zoom]
  refine (Chain.free_ends (lent.backed.sound lends) owed.covers owed.below).mono ?_
  rintro _ _ chain' ⟨sound, nodes, kept⟩
  have backed : Backed Out { arena with toChain := chain' } :=
    ⟨nodes ▸ lent.backed.out, sound.filled, sound.cursor_le⟩
  refine ⟨nodes, rfl, rest.of_covers backed ?_⟩
  intro other member
  exact kept other.block (rest.owes other member).covers (apart other member)

/-! ### The promise -/

/-- The arena keeps the promise of a backing to any client. -/
theorem contract (lends : backing.LendsNodes Out) : (asBacking backing).Contract (Lent Out) where
  spread := Lent.spread
  below lent grant member := (lent.owes grant member).below
  aligned lent grant member := (lent.owes grant member).aligned
  size_le {arena grants layout} lent := by
    simp only [asBacking, Act.ends_bind]
    refine (alloc_ends lends lent.backed layout).mono ?_
    rintro (error | block) _ arena' ⟨backed, _, served⟩
    · simp
    · obtain ⟨roomy, made, carves⟩ := served
      simpa using (lent.carved lends backed made carves).1.ge
  allocate {arena grants layout} lent _ := by
    simp only [asBacking, Act.ends_bind]
    refine (alloc_ends lends lent.backed layout).mono ?_
    rintro (error | block) _ arena' ⟨backed, _, served⟩
    · rw [Act.ends_pure]
      refine lent.of_covers backed ?_
      intro grant member
      rw [served.2]
      exact (lent.owes grant member).covers
    · rw [Act.ends_pure]
      obtain ⟨roomy, made, carves⟩ := served
      exact (lent.carved lends backed made carves).2
  resizeInPlace {arena before after layout addr} newSize lent _ := by
    refine (Lent.resize_ends lends (lent_middle.mp lent) newSize).mono ?_
    rintro granted _ arena' ⟨_, _, lent'⟩
    exact lent_middle.mpr lent'
  release {arena before after layout addr} lent _ := by
    refine (Lent.free_ends lends (lent_middle.mp lent)).mono ?_
    rintro _ _ arena' ⟨_, _, lent'⟩
    exact lent'

end Arena
end BumpArena
