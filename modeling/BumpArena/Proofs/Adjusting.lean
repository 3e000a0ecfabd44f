import BumpArena.Proofs.Estate
import BumpArena.Proofs.Topmost

/-!
The topmost block under any calls for other sizes. Its end moves with the cursor, so a call is granted exactly if the
block still ends inside the head, and what earlier calls did does not matter: after all of them the cursor is where the
last granted one has set it (`Arena.Adapts`). The backing has no part in this. A block that the arena does not take for
its topmost one can only pretend to shrink.
-/
namespace BumpArena

/-- A call for another size of a block, by one of the two operations for it. -/
inductive Adjustment where
  | resize (newSize : Nat)
  | remap (newSize : Nat)
  deriving DecidableEq

namespace Adjustment

def newSize : Adjustment → Nat
  | resize newSize | remap newSize => newSize

/-- The last of the sizes with which the block ends inside the head, and `len` if there is none. -/
def settledLength (head : Node) (offset : Nat) (adjustments : List Adjustment) (len : Nat) : Nat :=
  ((adjustments.map newSize).filter (offset + · ≤ head.len)).getLastD len

variable {head : Node} {offset len : Nat} {adjustment : Adjustment}

theorem settledLength_of_fits (fits : offset + adjustment.newSize ≤ head.len) (later : List Adjustment) :
    settledLength head offset (adjustment :: later) len = settledLength head offset later adjustment.newSize := by
  rw [settledLength, List.map_cons, List.filter_cons_of_pos (by simpa using fits), List.getLastD_cons, settledLength]

theorem settledLength_of_long (long : ¬ offset + adjustment.newSize ≤ head.len) (later : List Adjustment) :
    settledLength head offset (adjustment :: later) len = settledLength head offset later len := by
  rw [settledLength, List.map_cons, List.filter_cons_of_neg (by simpa using long), settledLength]

/-- The sizes never lead out of the head. -/
theorem settledLength_le (within : offset + len ≤ head.len) (adjustments : List Adjustment) :
    offset + settledLength head offset adjustments len ≤ head.len := by
  induction adjustments generalizing len with
  | nil => exact within
  | cons adjustment later ih =>
    by_cases fits : offset + adjustment.newSize ≤ head.len
    · rw [settledLength_of_fits fits]
      exact ih fits
    · rw [settledLength_of_long fits]
      exact ih within

end Adjustment

namespace Chain

/-- The block lies at this offset of the head and ends at the cursor. -/
structure Crowns (chain : Chain) (head : Node) (offset : Nat) (block : Block) : Prop where
  nodes : ∃ older, chain.nodes = head :: older
  addr : block.addr = head.base + offset
  ends : offset + block.len = chain.cursor

variable {chain : Chain} {head : Node} {offset : Nat} {block : Block}

theorem Crowns.tops (crowns : chain.Crowns head offset block) : chain.Tops block := by
  obtain ⟨⟨older, nodes⟩, addr, ends⟩ := crowns
  refine ⟨head, older, nodes, by omega, ?_⟩
  rw [Block.finish]
  omega

theorem Crowns.headLength_eq (crowns : chain.Crowns head offset block) : chain.headLength = head.len := by
  obtain ⟨older, nodes⟩ := crowns.nodes
  rw [headLength, nodes]

/-- The block may end anywhere in the head. -/
theorem Crowns.moved (crowns : chain.Crowns head offset block) (sound : chain.Sound) {len : Nat}
    (fits : offset + len ≤ head.len) :
    ({ chain with cursor := offset + len } : Chain).Sound ∧
      ({ chain with cursor := offset + len } : Chain).Crowns head offset { block with len } := by
  refine ⟨⟨sound.spread, sound.below, sound.filled, ?_⟩, ⟨crowns.nodes, crowns.addr, rfl⟩⟩
  show offset + len ≤ chain.headLength
  rw [crowns.headLength_eq]
  exact fits

theorem Crowns.within (crowns : chain.Crowns head offset block) (sound : chain.Sound) :
    offset + block.len ≤ head.len := by
  rw [crowns.ends, ← crowns.headLength_eq]
  exact sound.cursor_le

end Chain

namespace Arena

variable {σ : Type} {backing : Backing σ} {arena : Arena σ} {head : Node} {block : Block} {offset : Nat}

/-- Makes a call for the block, and answers with the block as it is then if the call was granted. -/
def adjust (block : Block) : Adjustment → Act (Arena σ) (Option Block)
  | .resize newSize => do
    if ← Arena.resize block newSize then
      return some { block with len := newSize }
    else
      return none
  | .remap newSize => Arena.remap block newSize

/-- Makes the calls one after the other, each for the block as the last granted one has left it. Answers with what was
    granted and with the block at the end. -/
def adjustAll (block : Block) : List Adjustment → Act (Arena σ) (List Bool × Block)
  | [] => return ([], block)
  | adjustment :: later => do
    let adjusted? ← adjust block adjustment
    let (granted, last) ← adjustAll (adjusted?.getD block) later
    return (adjusted?.isSome :: granted, last)

/-- Both operations do to the arena what `Arena.resize` does. -/
theorem run_adjust {adjustment : Adjustment} {granted : Bool} {arena' : Arena σ}
    (ran : (Arena.resize block adjustment.newSize).run arena = ⟨.ok granted, [], arena'⟩) :
    (adjust block adjustment).run arena =
      ⟨.ok (if granted then some { block with len := adjustment.newSize } else none), [], arena'⟩ := by
  cases adjustment with
  | resize newSize =>
    simp only [Adjustment.newSize] at ran
    rw [adjust, Act.run_bind_of_ok ran]
    cases granted with
    | false => rfl
    | true => rfl
  | remap newSize =>
    simp only [Adjustment.newSize] at ran
    rw [adjust, run_remap, Act.run_map, ran]
    rfl

/-- One call for the topmost block: it is granted exactly if the block ends inside the head, and else nothing
    changes. -/
theorem run_adjust_of_crowns (sound : arena.toChain.Sound) (crowns : arena.toChain.Crowns head offset block)
    (adjustment : Adjustment) :
    (adjust block adjustment).run arena =
      if offset + adjustment.newSize ≤ head.len then
        ⟨.ok (some { block with len := adjustment.newSize }), [], { arena with cursor := offset + adjustment.newSize }⟩
      else ⟨.ok none, [], arena⟩ := by
  have start : arena.cursor - block.len = offset := by
    have := crowns.ends
    omega
  have ran := Chain.run_resize_of_tops sound crowns.tops adjustment.newSize
  rw [start, crowns.headLength_eq] at ran
  by_cases fits : offset + adjustment.newSize ≤ head.len
  · rw [if_pos fits] at ran ⊢
    exact run_adjust (run_onChain ran)
  · rw [if_neg fits] at ran ⊢
    exact run_adjust (run_onChain ran)

/-- Any number of calls leaves the block as the last granted one has made it, with the cursor at its end. -/
theorem run_adjustAll (sound : arena.toChain.Sound) (crowns : arena.toChain.Crowns head offset block)
    (adjustments : List Adjustment) :
    (adjustAll block adjustments).run arena =
      ⟨.ok (adjustments.map fun adjustment => decide (offset + adjustment.newSize ≤ head.len),
        { block with len := Adjustment.settledLength head offset adjustments block.len }), [],
        { arena with cursor := offset + Adjustment.settledLength head offset adjustments block.len }⟩ := by
  induction adjustments generalizing arena block with
  | nil =>
    rw [adjustAll, Act.run_pure, Adjustment.settledLength]
    simp only [List.filter_nil, List.map_nil, List.getLastD_nil, crowns.ends]
  | cons adjustment later ih =>
    have step := run_adjust_of_crowns sound crowns adjustment
    by_cases fits : offset + adjustment.newSize ≤ head.len
    · rw [if_pos fits] at step
      -- With its new end the block is topmost again, so the other calls go as they would from here.
      obtain ⟨sound', crowns'⟩ := crowns.moved sound fits
      have rest : (adjustAll { block with len := adjustment.newSize } later).run
          { arena with cursor := offset + adjustment.newSize } = _ := ih sound' crowns'
      rw [adjustAll, Act.run_bind_of_ok step, Option.getD_some, Act.run_bind_of_ok rest,
        Adjustment.settledLength_of_fits fits, List.map_cons, decide_eq_true fits]
      rfl
    · rw [if_neg fits] at step
      rw [adjustAll, Act.run_bind_of_ok step, Option.getD_none, Act.run_bind_of_ok (ih sound crowns),
        Adjustment.settledLength_of_long fits, List.map_cons, decide_eq_false fits]
      rfl

/-- A request goes to the cursor if that is aligned for it and the head has room. -/
theorem run_alloc_of_dvd (sound : arena.toChain.Sound) (nodes : ∃ older, arena.nodes = head :: older) {layout : Layout}
    (divides : layout.align.bytes ∣ head.base + arena.cursor) (fits : arena.cursor + layout.size ≤ head.len) :
    (alloc backing layout).run arena =
      ⟨.ok (.ok ⟨head.base + arena.cursor, layout.size⟩), [], { arena with cursor := arena.cursor + layout.size }⟩ := by
  obtain ⟨older, nodes⟩ := nodes
  have start : head.start arena.cursor layout.align = arena.cursor := by
    rw [Node.start, Alignment.roundUp_of_dvd divides, Nat.add_sub_cancel_left]
  have room : head.Fits arena.cursor layout := by
    rw [Node.Fits, start]
    exact fits
  rw [alloc, run_allocWithin_of_fits sound nodes room, Node.carving, start]

/-- A block of alignment 1 that fits into the head starts at the cursor. -/
theorem run_alloc_at_cursor (sound : arena.toChain.Sound) (nodes : ∃ older, arena.nodes = head :: older)
    {layout : Layout} (anywhere : layout.align = .one) (fits : arena.cursor + layout.size ≤ head.len) :
    (alloc backing layout).run arena =
      ⟨.ok (.ok ⟨head.base + arena.cursor, layout.size⟩), [], { arena with cursor := arena.cursor + layout.size }⟩ := by
  have divides : layout.align.bytes ∣ head.base + arena.cursor := by
    rw [anywhere]
    exact one_dvd _
  exact run_alloc_of_dvd sound nodes divides fits

/-- What calls for other sizes come to, if the block lies at this offset of the head and ends at the cursor. -/
structure Adapts (backing : Backing σ) (arena : Arena σ) (head : Node) (offset : Nat) (block : Block)
    (adjustments : List Adjustment) (len : Nat) : Prop where
  run : (adjustAll block adjustments).run arena =
    ⟨.ok (adjustments.map fun adjustment => decide (offset + adjustment.newSize ≤ head.len), { block with len }), [],
      { arena with cursor := offset + len }⟩
  /-- The next call changes nothing if it fails. -/
  failed : ∀ adjustment : Adjustment, head.len < offset + adjustment.newSize →
    (adjust { block with len } adjustment).run { arena with cursor := offset + len } =
      ⟨.ok none, [], { arena with cursor := offset + len }⟩
  alloc : ∀ layout : Layout, layout.align = .one → offset + len + layout.size ≤ head.len →
    (Arena.alloc backing layout).run { arena with cursor := offset + len } =
      ⟨.ok (.ok ⟨head.base + (offset + len), layout.size⟩), [],
        { arena with cursor := offset + len + layout.size }⟩

theorem adapts_of_crowns (sound : arena.toChain.Sound) (crowns : arena.toChain.Crowns head offset block)
    (adjustments : List Adjustment) :
    Adapts backing arena head offset block adjustments
      (Adjustment.settledLength head offset adjustments block.len) := by
  have within := Adjustment.settledLength_le (crowns.within sound) adjustments
  obtain ⟨sound', crowns'⟩ := crowns.moved sound within
  refine ⟨run_adjustAll sound crowns adjustments, ?_, ?_⟩
  · intro adjustment long
    exact (run_adjust_of_crowns sound' crowns' adjustment).trans (if_neg (Nat.not_le.mpr long))
  · intro layout anywhere fits
    apply run_alloc_at_cursor sound' _ anywhere fits
    exact crowns.nodes

/-- A block that the test does not take for the topmost one can only pretend to shrink. -/
theorem run_adjust_of_not_topmost (sound : arena.toChain.Sound) (other : arena.toChain.isTopmost block = .ok false)
    (adjustment : Adjustment) :
    (adjust block adjustment).run arena =
      ⟨.ok (if adjustment.newSize ≤ block.len then some { block with len := adjustment.newSize } else none), [],
        arena⟩ := by
  have below : ¬ arena.toChain.Tops block := by
    intro tops
    rw [Chain.isTopmost_of_tops sound tops] at other
    contradiction
  rw [run_adjust (run_onChain (Chain.run_resize_of_not_tops sound below adjustment.newSize))]
  simp only [decide_eq_true_eq]

end Arena

namespace Estate

variable {σ : Type} {backing : Backing σ} {Out : σ → List Grant → Prop}

/-- In every state that an arena can reach: a block in the head that ends at the cursor gets exactly the sizes with
    which it ends inside the head, in any number of calls, and the cursor follows its end, so that the next block
    starts there. The nodes stay as they are, and the backing is never asked. Any other block only pretends to
    shrink. -/
theorem adjusts_topmost (lends : backing.LendsNodes Out) {s : σ} (out : Out s []) (commands : List Command) :
    (carryOutAll (Ledger.backing backing) commands).Ends (ofSource ⟨s, []⟩) fun _ _ estate =>
      ∀ arena, estate.holding = .running arena → ∀ block : Block,
        (∀ head older offset, arena.nodes = head :: older → block.addr = head.base + offset →
          offset + block.len = arena.cursor → ∀ adjustments,
          Arena.Adapts (Ledger.backing backing) arena head offset block adjustments
            (Adjustment.settledLength head offset adjustments block.len)) ∧
        (arena.toChain.isTopmost block = .ok false → ∀ adjustment : Adjustment,
          (Arena.adjust block adjustment).run arena =
            ⟨.ok (if adjustment.newSize ≤ block.len then some { block with len := adjustment.newSize } else none), [],
              arena⟩) := by
  refine (reaches_backed lends out commands).mono ?_
  intro _ _ estate backed arena holding block
  have sound := (backed arena holding).sound (lendsNodes_beside (Ledger.lendsNodes lends) estate.lost)
  constructor
  · intro head older offset nodes addr ends adjustments
    exact Arena.adapts_of_crowns sound ⟨⟨older, nodes⟩, addr, ends⟩ adjustments
  · intro other adjustment
    exact Arena.run_adjust_of_not_topmost sound other adjustment

/-- A block at offset 8 of a head of 64 bytes on the heap, and one below it. -/
theorem heap_adjusts_topmost :
    Heap.backing.LendsNodes Heap.Lent ∧ (Heap.ofSize 4096).Lent [] ∧
      ∃ trace estate arena,
        (carryOutAll (Ledger.backing Heap.backing)
            [.create (.withInitialCapacity 64), .alloc ⟨8, .one, by decide⟩, .alloc ⟨32, .one, by decide⟩]).run
          (ofSource ⟨Heap.ofSize 4096, []⟩) = ⟨.ok (), trace, estate⟩ ∧
        estate.holding = .running arena ∧
        (Arena.adjustAll ⟨Heap.base + 8, 32⟩ [.resize 0, .remap 56, .resize 57, .remap 10]).run arena =
          ⟨.ok ([true, true, false, true], ⟨Heap.base + 8, 10⟩), [], { arena with cursor := 18 }⟩ ∧
        (Arena.adjust ⟨Heap.base, 8⟩ (.resize 9)).run arena = ⟨.ok none, [], arena⟩ := by
  have lends := Heap.contract.lendsNodes
  have out : (Heap.ofSize 4096).Lent [] := Heap.lent_ofSize (by decide)
  obtain ⟨trace, estate, arena, ran, holding, nodes, cursor, other⟩ : ∃ trace estate arena,
      (carryOutAll (Ledger.backing Heap.backing)
          [.create (.withInitialCapacity 64), .alloc ⟨8, .one, by decide⟩, .alloc ⟨32, .one, by decide⟩]).run
        (ofSource ⟨Heap.ofSize 4096, []⟩) = ⟨.ok (), trace, estate⟩ ∧
      estate.holding = .running arena ∧ arena.nodes = [⟨Heap.base, 64, by decide⟩] ∧ arena.cursor = 40 ∧
      arena.toChain.isTopmost ⟨Heap.base, 8⟩ = .ok false := ⟨_, _, _, rfl, rfl, rfl, rfl, rfl⟩
  have adjusts := (adjusts_topmost lends out _).of_run ran arena holding
  refine ⟨lends, out, trace, estate, arena, ran, holding, ?_, ?_⟩
  · exact ((adjusts ⟨Heap.base + 8, 32⟩).1 _ [] 8 nodes rfl cursor.symm _).run
  · exact (adjusts ⟨Heap.base, 8⟩).2 other (.resize 9)

end Estate
end BumpArena
