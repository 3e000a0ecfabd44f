import BumpArena.Proofs.Courses

/-!
What the operations of an arena do to the blocks that it has handed out. A chain covers a block
(`Chain.Covers`) if the block has no bytes or lies in the part of a node that is in use: all of an older
node, and the head up to the cursor. A covered block stays covered when room is made for a request and when
another block is carved, resized or freed, and the block that such an operation hands out is apart from all
of them. So whoever keeps blocks apart from each other and covered needs to look at one operation only.
-/
namespace BumpArena.Chain

/-- The parts of the nodes that are in use. -/
def extents (chain : Chain) : List Block :=
  match chain.nodes with
  | [] => []
  | head :: older => ⟨head.base, chain.cursor⟩ :: older.map Node.block

/-- The block has no bytes or lies in a part of a node that is in use. -/
def Covers (chain : Chain) (block : Block) : Prop :=
  block.len = 0 ∨ ∃ extent ∈ chain.extents, block.Within extent

variable {chain chain' : Chain} {block other : Block}

theorem Covers.smaller (covers : chain.Covers block) {len : Nat} (le : len ≤ block.len) :
    chain.Covers { block with len } := by
  rcases covers with empty | ⟨extent, member, starts, ends⟩
  · left
    show len = 0
    omega
  · right
    refine ⟨extent, member, starts, Nat.le_trans ?_ ends⟩
    simp only [Block.finish]
    omega

/-- A block with bytes that is covered lies inside a node. -/
theorem Covers.in_node (sound : chain.Sound) (covers : chain.Covers block) (bytes : 0 < block.len) :
    ∃ node ∈ chain.nodes, block.Within node.block := by
  rcases covers with empty | ⟨extent, member, starts, ends⟩
  · omega
  rcases nodes : chain.nodes with _ | ⟨head, older⟩
  · simp [extents, nodes] at member
  obtain ⟨cursor, _⟩ := sound.head_room nodes
  simp only [extents, nodes, List.mem_cons, List.mem_map] at member
  rcases member with rfl | ⟨node, listed, rfl⟩
  · refine ⟨head, by simp, starts, Nat.le_trans ends ?_⟩
    simp only [Block.finish, Node.block]
    omega
  · exact ⟨node, by simp [listed], starts, ends⟩

theorem MakesRoom.covers {config : Config} {layout : Layout} (sound : chain.Sound)
    (made : MakesRoom config layout chain chain') (covers : chain.Covers block) : chain'.Covers block := by
  cases made with
  | fits => exact covers
  | @grown head longer older cursor full base len =>
    have same : extents ⟨longer :: older, cursor⟩ = extents ⟨head :: older, cursor⟩ := by
      simp only [extents, base]
    rw [Covers, same]
    exact covers
  | linked full len =>
    by_cases empty : block.len = 0
    · exact .inl empty
    obtain ⟨node, member, within⟩ := covers.in_node sound (Nat.pos_of_ne_zero empty)
    exact .inr ⟨node.block, List.mem_cons_of_mem _ (List.mem_map_of_mem member), within⟩

/-- A block that is carved is covered, aligned, ends inside its node and meets no block that was covered;
    and these stay covered. -/
theorem Carves.spec {layout : Layout} (sound : chain'.Sound) (carves : Carves layout chain block chain') :
    chain'.Covers block ∧ layout.align.bytes ∣ block.addr ∧ block.len = layout.size ∧
      block.finish < Word.limit ∧
      ∀ other, chain.Covers other → chain'.Covers other ∧ other.Apart block := by
  cases carves with
  | @head head older cursor fits =>
    have after := head.le_start cursor layout.align
    obtain ⟨_, room⟩ := sound.head_room rfl
    rw [Node.Fits] at fits
    refine ⟨.inr ⟨_, List.mem_cons_self, Nat.le_add_right .., ?_⟩, ?_, rfl, ?_, ?_⟩
    · simp only [Node.carving, Block.finish]
      omega
    · rw [Node.carving, Node.base_add_start]
      exact Alignment.dvd_roundUp ..
    · simp only [Node.carving, Block.finish]
      omega
    · rintro other (empty | ⟨extent, member, within⟩)
      · exact ⟨.inl empty, Block.apart_of_len_eq_zero empty⟩
      rcases List.mem_cons.mp member with rfl | member
      · obtain ⟨starts, ends⟩ := within
        simp only [Block.finish] at starts ends
        refine ⟨.inr ⟨_, List.mem_cons_self, starts, ?_⟩, Block.apart_iff.mpr ?_⟩
        · simp only [Block.finish]
          omega
        · simp only [Node.carving, Block.finish]
          omega
      · refine ⟨.inr ⟨extent, List.mem_cons_of_mem _ member, within⟩, ?_⟩
        obtain ⟨node, listed, rfl⟩ := List.mem_map.mp member
        have apart : head.block.Apart node.block := (List.pairwise_cons.mp sound.spread).1 node listed
        have inside : Block.Within (head.carving cursor layout) head.block := by
          simp only [Block.Within, Node.carving, Node.block, Block.finish]
          omega
        exact ((apart.within inside).symm.within within)

/-- The topmost block ends where the bytes in use end, so every other block that is apart from it lies
    before it or in an older node. -/
private theorem Tops.covers_resized (sound : chain.Sound) (tops : chain.Tops block) {newSize : Nat}
    (fits : chain.cursor - block.len + newSize ≤ chain.headLength) (covers : chain.Covers other)
    (apart : other.Apart block) :
    Covers { chain with cursor := chain.cursor - block.len + newSize } other ∧
      other.Apart { block with len := newSize } := by
  have len := tops.len_le
  obtain ⟨head, older, nodes, starts, ends⟩ := tops
  obtain ⟨cursor, room⟩ := sound.head_room nodes
  simp only [headLength, nodes] at fits
  rw [Block.finish] at ends
  rw [Block.apart_iff] at apart
  rcases covers with empty | ⟨extent, member, within⟩
  · exact ⟨.inl empty, Block.apart_of_len_eq_zero empty⟩
  simp only [extents, nodes, List.mem_cons] at member
  rcases member with rfl | member
  · obtain ⟨first, last⟩ := within
    simp only [Block.finish] at first last apart
    by_cases empty : other.len = 0
    · exact ⟨.inl empty, Block.apart_of_len_eq_zero empty⟩
    refine ⟨.inr ⟨⟨head.base, chain.cursor - block.len + newSize⟩, ?_, first, ?_⟩, Block.apart_iff.mpr ?_⟩
    · simp [extents, nodes]
    · simp only [Block.finish]
      omega
    · simp only [Block.finish]
      omega
  · refine ⟨.inr ⟨extent, by simp [extents, nodes, member], within⟩, ?_⟩
    obtain ⟨node, listed, rfl⟩ := List.mem_map.mp member
    have spread := sound.spread
    rw [nodes] at spread
    have nodesApart : head.block.Apart node.block := (List.pairwise_cons.mp spread).1 node listed
    have inside : Block.Within { block with len := newSize } head.block := by
      simp only [Block.Within, Node.block, Block.finish]
      omega
    exact (nodesApart.within inside).symm.within within

/-- What a resize does to the blocks: the block stays covered with its new size, and so does every
    covered block that was apart from it. -/
theorem Resizes.covers {newSize : Nat} {granted : Bool} (resizes : chain.Resizes block newSize granted chain')
    (sound : chain.Sound) (covers : chain.Covers block) (below : block.finish < Word.limit) :
    if granted then
      chain'.Covers { block with len := newSize } ∧ block.addr + newSize < Word.limit ∧
      ∀ other, chain.Covers other → other.Apart block →
        chain'.Covers other ∧ other.Apart { block with len := newSize }
    else chain' = chain := by
  rw [Block.finish] at below
  cases resizes with
  | moved tops fits =>
    refine ⟨?_, ?_, fun other others apart => tops.covers_resized sound fits others apart⟩
    · obtain ⟨head, older, nodes, starts, ends⟩ := tops
      rw [Block.finish] at ends
      refine .inr ⟨⟨head.base, chain.cursor - block.len + newSize⟩, by simp [extents, nodes], starts, ?_⟩
      simp only [Block.finish]
      omega
    · have len := tops.len_le
      obtain ⟨head, older, nodes, starts, ends⟩ := tops
      obtain ⟨_, room⟩ := sound.head_room nodes
      simp only [headLength, nodes] at fits
      rw [Block.finish] at ends
      omega
  | refused => rfl
  | elsewhere =>
    by_cases shrinks : newSize ≤ block.len
    · simp only [shrinks, decide_true, ↓reduceIte]
      refine ⟨covers.smaller shrinks, by omega, ?_⟩
      intro other others apart
      have inside : Block.Within { block with len := newSize } block := by
        simp only [Block.Within, Block.finish]
        omega
      exact ⟨others, (apart.symm.within inside).symm⟩
    · simp [shrinks]

/-- Giving a block back is a resize to no bytes that nobody looks at. -/
theorem run_free (sound : chain.Sound) (block : Block) :
    (free block).run chain = ((fun _ => ()) <$> resize block 0).run chain := by
  rw [Act.run_map]
  by_cases tops : chain.Tops block
  · have cursor := sound.cursor_le
    rw [run_free_of_tops sound tops, run_resize_of_tops sound tops, if_pos (by omega)]
    rfl
  · rw [run_free_of_not_tops sound tops, run_resize_of_not_tops sound tops]
    rfl

theorem free_ends (sound : chain.Sound) (covers : chain.Covers block) (below : block.finish < Word.limit) :
    (free block).Ends chain fun _ _ chain' =>
      chain'.Sound ∧ chain'.nodes = chain.nodes ∧
      ∀ other, chain.Covers other → other.Apart block → chain'.Covers other := by
  rw [Act.ends_congr (run_free sound block), Act.ends_map]
  refine (resize_cases sound block 0).mono ?_
  intro granted _ chain' resizes
  obtain ⟨sound', nodes⟩ := resizes.keeps sound
  have kept := resizes.covers sound covers below
  refine ⟨sound', nodes, ?_⟩
  intro other others apart
  cases granted with
  | true => exact (kept.2.2 other others apart).1
  | false => exact kept ▸ others

end BumpArena.Chain
