import BumpArena.Proofs.Blocks
import BumpArena.Proofs.Ends

/-!
The bookkeeping of an arena between two operations. `Chain.Sound` is its invariant, and under it the
operations that need no backing are described by plain arithmetic: no sum and no difference that they form
leaves the range of words, whatever block they are called with. A block is at the top (`Chain.Tops`) if it
starts in the head or behind it and ends at the cursor.
-/
namespace BumpArena

namespace Word

theorem add_of_lt {a b : Nat} (isWord : a + b < limit) : add a b = .ok (a + b) :=
  add_eq_ok_iff.mpr ⟨rfl, isWord⟩

theorem add?_of_lt {a b : Nat} (isWord : a + b < limit) : add? a b = some (a + b) :=
  add?_eq_some_iff.mpr ⟨rfl, isWord⟩

theorem sub_of_le {a b : Nat} (enough : b ≤ a) : sub a b = .ok (a - b) :=
  sub_eq_ok_iff.mpr ⟨enough, rfl⟩

end Word

namespace Chain

/-- The length of the head, and zero without one. -/
def headLength (chain : Chain) : Nat :=
  match chain.nodes with
  | [] => 0
  | head :: _ => head.len

/-- The invariant of a chain. -/
structure Sound (chain : Chain) : Prop where
  spread : chain.nodes.Pairwise fun a b => a.block.Apart b.block
  below : ∀ node ∈ chain.nodes, node.block.finish < Word.limit
  filled : ∀ node ∈ chain.nodes, 0 < node.len
  cursor_le : chain.cursor ≤ chain.headLength

theorem sound_empty : empty.Sound := ⟨.nil, by simp [empty], by simp [empty], Nat.le_refl _⟩

/-- The block does not start before the head and ends at the cursor. -/
def Tops (chain : Chain) (block : Block) : Prop :=
  ∃ head older, chain.nodes = head :: older ∧ head.base ≤ block.addr ∧ block.finish = head.base + chain.cursor

variable {chain : Chain} {block : Block}

theorem Sound.head_room (sound : chain.Sound) {head : Node} {older : List Node}
    (nodes : chain.nodes = head :: older) : chain.cursor ≤ head.len ∧ head.base + head.len < Word.limit := by
  have cursor := sound.cursor_le
  rw [headLength, nodes] at cursor
  exact ⟨cursor, sound.below head (by simp [nodes])⟩

theorem Sound.apart (sound : chain.Sound) {node other : Node} (listed : node ∈ chain.nodes)
    (listed' : other ∈ chain.nodes) (different : node ≠ other) : node.block.Apart other.block := by
  have symmetric : Std.Symm fun a b : Node => a.block.Apart b.block := ⟨fun _ _ => Block.Apart.symm⟩
  exact sound.spread.forall listed listed' different

theorem isTopmost_of_tops (sound : chain.Sound) (tops : chain.Tops block) : chain.isTopmost block = .ok true := by
  obtain ⟨head, older, nodes, starts, ends⟩ := tops
  obtain ⟨cursor, room⟩ := sound.head_room nodes
  rw [Block.finish] at ends
  have inside : head.contains block chain.cursor = true := by
    rw [Node.contains, Word.add?_of_lt (by omega)]
    simp only [Bool.and_eq_true, decide_eq_true_eq]
    omega
  simp only [isTopmost, nodes, inside, ↓reduceIte]
  rw [Word.add_of_lt (a := block.addr) (by omega), Word.add_of_lt (by omega), ends]
  simp [bind, Except.bind, pure, Except.pure]

theorem isTopmost_of_not_tops (sound : chain.Sound) (tops : ¬ chain.Tops block) :
    chain.isTopmost block = .ok false := by
  rcases nodes : chain.nodes with _ | ⟨head, older⟩
  · simp only [isTopmost, nodes]
  obtain ⟨cursor, room⟩ := sound.head_room nodes
  by_cases inside : head.contains block chain.cursor
  · -- The block lies below the cursor, so both of its ends are words, and it does not reach the cursor.
    simp only [isTopmost, nodes, inside, ↓reduceIte]
    simp only [Node.contains, Bool.and_eq_true, decide_eq_true_eq] at inside
    obtain ⟨starts, inside⟩ := inside
    rcases added : Word.add? (block.addr - head.base) block.len with _ | finish
    · simp [added] at inside
    obtain ⟨rfl, _⟩ := Word.add?_eq_some_iff.mp added
    simp only [added, decide_eq_true_eq] at inside
    have short : block.addr + block.len ≠ head.base + chain.cursor := by
      intro ends
      exact tops ⟨head, older, nodes, starts, ends⟩
    rw [Word.add_of_lt (a := block.addr) (by omega), Word.add_of_lt (by omega)]
    simp [bind, Except.bind, pure, Except.pure, short]
  · simp [isTopmost, nodes, inside]

theorem remaining_eq (sound : chain.Sound) : chain.remaining = .ok (chain.headLength - chain.cursor) := by
  have cursor := sound.cursor_le
  rcases nodes : chain.nodes with _ | ⟨head, older⟩
  · simp only [remaining, headLength, nodes, Nat.zero_sub]
  · simp only [headLength, nodes] at cursor
    simp only [remaining, headLength, nodes, Word.sub_of_le cursor]

/-- The topmost block has room in the head up to the cursor. -/
theorem Tops.len_le (tops : chain.Tops block) : block.len ≤ chain.cursor := by
  obtain ⟨_, _, _, starts, ends⟩ := tops
  rw [Block.finish] at ends
  omega

/-- The topmost block gets any size with which it ends inside the head, and the cursor moves with its
    end. -/
theorem run_resize_of_tops (sound : chain.Sound) (tops : chain.Tops block) (newSize : Nat) :
    (resize block newSize).run chain =
      if chain.cursor - block.len + newSize ≤ chain.headLength then
        ⟨.ok true, [], { chain with cursor := chain.cursor - block.len + newSize }⟩
      else ⟨.ok false, [], chain⟩ := by
  have len := tops.len_le
  have cursor := sound.cursor_le
  have word : chain.headLength < Word.limit := by
    obtain ⟨head, older, nodes, _⟩ := tops
    rw [headLength, nodes]
    exact Nat.lt_of_le_of_lt (Nat.le_add_left ..) (sound.head_room nodes).2
  simp only [resize, Act.run_bind, Act.run_get, isTopmost_of_tops sound tops, Act.run_lift_ok, ↓reduceIte,
    Outcome.after_nil]
  by_cases shrinks : newSize ≤ block.len
  · have target : chain.cursor - (block.len - newSize) = chain.cursor - block.len + newSize := by omega
    simp only [shrinks, ↓reduceIte, Act.run_bind, Word.sub_of_le (show block.len - newSize ≤ chain.cursor by omega),
      Act.run_lift_ok, Act.run_set, Act.run_pure, Outcome.after_nil, target]
    rw [if_pos (by omega)]
  · simp only [shrinks, ↓reduceIte, Act.run_bind, remaining_eq sound, Act.run_lift_ok, Outcome.after_nil]
    by_cases fits : newSize - block.len ≤ chain.headLength - chain.cursor
    · have target : chain.cursor + (newSize - block.len) = chain.cursor - block.len + newSize := by omega
      simp only [fits, ↓reduceIte, Act.run_bind,
        Word.add_of_lt (show chain.cursor + (newSize - block.len) < _ by omega), Act.run_lift_ok, Act.run_set,
        Act.run_pure, Outcome.after_nil, target]
      rw [if_pos (by omega)]
    · simp only [fits, ↓reduceIte, Act.run_pure]
      rw [if_neg (by omega)]

/-- Any other block only seems to shrink. -/
theorem run_resize_of_not_tops (sound : chain.Sound) (tops : ¬ chain.Tops block) (newSize : Nat) :
    (resize block newSize).run chain = ⟨.ok (decide (newSize ≤ block.len)), [], chain⟩ := by
  simp [resize, Act.run_bind, isTopmost_of_not_tops sound tops]

/-- What a resize comes to, with its answer. -/
inductive Resizes (chain : Chain) (block : Block) (newSize : Nat) : Bool → Chain → Prop where
  | moved (tops : chain.Tops block) (fits : chain.cursor - block.len + newSize ≤ chain.headLength) :
    Resizes chain block newSize true { chain with cursor := chain.cursor - block.len + newSize }
  | refused (tops : chain.Tops block) (long : ¬ chain.cursor - block.len + newSize ≤ chain.headLength) :
    Resizes chain block newSize false chain
  | elsewhere (below : ¬ chain.Tops block) : Resizes chain block newSize (decide (newSize ≤ block.len)) chain

theorem resize_cases (sound : chain.Sound) (block : Block) (newSize : Nat) :
    (resize block newSize).Ends chain fun granted _ chain' => chain.Resizes block newSize granted chain' := by
  by_cases tops : chain.Tops block
  · have ran := run_resize_of_tops sound tops newSize
    by_cases fits : chain.cursor - block.len + newSize ≤ chain.headLength
    · rw [if_pos fits] at ran
      exact (Act.ends_iff_of_run ran).mpr (.moved tops fits)
    · rw [if_neg fits] at ran
      exact (Act.ends_iff_of_run ran).mpr (.refused tops fits)
  · exact (Act.ends_iff_of_run (run_resize_of_not_tops sound tops newSize)).mpr (.elsewhere tops)

theorem Resizes.keeps {chain' : Chain} {newSize : Nat} {granted : Bool} (sound : chain.Sound)
    (resizes : chain.Resizes block newSize granted chain') : chain'.Sound ∧ chain'.nodes = chain.nodes := by
  cases resizes with
  | moved _ fits => exact ⟨⟨sound.spread, sound.below, sound.filled, fits⟩, rfl⟩
  | refused => exact ⟨sound, rfl⟩
  | elsewhere => exact ⟨sound, rfl⟩

theorem run_free_of_tops (sound : chain.Sound) (tops : chain.Tops block) :
    (free block).run chain = ⟨.ok (), [], { chain with cursor := chain.cursor - block.len }⟩ := by
  simp [free, Act.run_bind, isTopmost_of_tops sound tops, Word.sub_of_le tops.len_le]

theorem run_free_of_not_tops (sound : chain.Sound) (tops : ¬ chain.Tops block) :
    (free block).run chain = ⟨.ok (), [], chain⟩ := by
  simp [free, Act.run_bind, isTopmost_of_not_tops sound tops]

/-- A block that is remapped stays where it is. -/
theorem remap_eq (block : Block) (newSize : Nat) :
    remap block newSize =
      (fun granted => if granted then some { block with len := newSize } else none) <$> resize block newSize := by
  rw [remap, ← bind_pure_comp]
  congr 1
  funext granted
  cases granted <;> rfl

end Chain
end BumpArena
