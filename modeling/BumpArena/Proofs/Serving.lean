import BumpArena.Arena.Basic
import BumpArena.Proofs.Chain
import BumpArena.Proofs.Contract

/-!
How an arena serves a request. A block is carved from a head that has room for it (`Chain.Carves`), and if
there is no such head the arena gets one first (`Chain.MakesRoom`), by a longer head in place or by a fresh
node. All the while its nodes are exactly the grants that the backing has out for it (`Arena.Backed`).
-/
namespace BumpArena

/-! ### Places in a node -/

namespace Node

/-- The grant that the node is to its backing. -/
def grant (node : Node) : Grant := node.layout.grant node.base

@[simp] theorem grant_block (node : Node) : node.grant.block = node.block := rfl

@[simp] theorem grant_align (node : Node) : node.grant.align = nodeAlignment := rfl

/-- The offset of the first aligned address at or after `cursor`. -/
def start (node : Node) (cursor : Nat) (align : Alignment) : Nat :=
  align.roundUp (node.base + cursor) - node.base

theorem base_add_start (node : Node) (cursor : Nat) (align : Alignment) :
    node.base + node.start cursor align = align.roundUp (node.base + cursor) := by
  have := align.le_roundUp (node.base + cursor)
  rw [start]
  omega

theorem le_start (node : Node) (cursor : Nat) (align : Alignment) : cursor ≤ node.start cursor align := by
  have := node.base_add_start cursor align
  have := align.le_roundUp (node.base + cursor)
  omega

theorem start_lt (node : Node) (cursor : Nat) (align : Alignment) :
    node.start cursor align < cursor + align.bytes := by
  have := node.base_add_start cursor align
  have := align.roundUp_lt (node.base + cursor)
  omega

theorem place_eq {node : Node} {cursor : Nat} (layout : Layout) (room : node.base + cursor < Word.limit) :
    node.place cursor layout = .ok
      (if node.base + node.start cursor layout.align < Word.limit ∧
          node.start cursor layout.align + layout.size < Word.limit then
        some ⟨node.start cursor layout.align, node.start cursor layout.align + layout.size⟩
      else none) := by
  have aligned := node.base_add_start cursor layout.align
  have after := node.le_start cursor layout.align
  simp only [place, Word.add_of_lt room]
  rcases rounded : layout.align.alignUp? (node.base + cursor) with _ | address
  · have outside := Alignment.alignUp?_eq_none_iff.mp rounded
    rw [if_neg (by omega)]
    simp [bind, Except.bind, rounded, pure, Except.pure]
  · obtain ⟨rfl, isWord⟩ := Alignment.alignUp?_eq_some_iff.mp rounded
    have padding : layout.align.roundUp (node.base + cursor) - (node.base + cursor) =
        node.start cursor layout.align - cursor := by omega
    have sum : cursor + (node.start cursor layout.align - cursor) = node.start cursor layout.align := by omega
    simp only [bind, Except.bind, rounded, Word.sub_of_le (layout.align.le_roundUp _), padding]
    rw [Word.add_of_lt (by omega), sum]
    simp only [pure, Except.pure, Word.add?]
    by_cases small : node.start cursor layout.align + layout.size < Word.limit
    · simp [small, aligned, isWord]
    · simp [small]

/-- The node has room for a block of this layout after `cursor`. -/
def Fits (node : Node) (cursor : Nat) (layout : Layout) : Prop :=
  node.start cursor layout.align + layout.size ≤ node.len

instance (node : Node) (cursor : Nat) (layout : Layout) : Decidable (node.Fits cursor layout) :=
  inferInstanceAs (Decidable (_ ≤ _))

/-- The block of this layout that goes into the node after `cursor`. -/
def carving (node : Node) (cursor : Nat) (layout : Layout) : Block :=
  ⟨node.base + node.start cursor layout.align, layout.size⟩

/-- A node that was sized for a request has room for it wherever it lies. -/
theorem fits_of_footprint_le {node : Node} {layout : Layout} (long : layout.footprint ≤ node.len) :
    node.Fits 0 layout := by
  have := node.start_lt 0 layout.align
  rw [Layout.footprint] at long
  rw [Fits]
  omega

end Node

/-! ### Carving a block from the head -/

namespace Chain

/-- A request takes the chain to another one: its block is carved from the head. -/
inductive Carves (layout : Layout) : Chain → Block → Chain → Prop where
  | head {head : Node} {older : List Node} {cursor : Nat} (fits : head.Fits cursor layout) :
    Carves layout ⟨head :: older, cursor⟩ (head.carving cursor layout)
      ⟨head :: older, head.start cursor layout.align + layout.size⟩

theorem carves_of_fits {chain : Chain} {head : Node} {older : List Node} (nodes : chain.nodes = head :: older)
    {layout : Layout} (fits : head.Fits chain.cursor layout) :
    Carves layout chain (head.carving chain.cursor layout)
      { chain with cursor := head.start chain.cursor layout.align + layout.size } := by
  obtain ⟨_, cursor⟩ := chain
  subst nodes
  exact .head fits

/-- Where a request finds room: in the head as it is; in the head after it was made just long enough; or in
    a fresh node. -/
inductive MakesRoom (config : Config) (layout : Layout) : Chain → Chain → Prop where
  | fits {head : Node} {older : List Node} {cursor : Nat} (fits : head.Fits cursor layout) :
    MakesRoom config layout ⟨head :: older, cursor⟩ ⟨head :: older, cursor⟩
  | grown {head longer : Node} {older : List Node} {cursor : Nat} (full : ¬ head.Fits cursor layout)
    (base : longer.base = head.base) (len : longer.len = head.start cursor layout.align + layout.size) :
    MakesRoom config layout ⟨head :: older, cursor⟩ ⟨longer :: older, cursor⟩
  | linked {chain : Chain} {fresh : Node}
    (full : ∀ head older, chain.nodes = head :: older → ¬ head.Fits chain.cursor layout)
    (len : config.nodeLength? chain.headLength layout.footprint = some fresh.len) :
    MakesRoom config layout chain ⟨fresh :: chain.nodes, 0⟩

end Chain

namespace Arena

variable {σ : Type} {backing : Backing σ} {Out : σ → List Grant → Prop} {arena : Arena σ}

/-- The invariant of an arena: its nodes are exactly the grants that are out for it. -/
structure Backed (Out : σ → List Grant → Prop) (arena : Arena σ) : Prop where
  out : Out arena.source (arena.nodes.map Node.grant)
  filled : ∀ node ∈ arena.nodes, 0 < node.len
  cursor_le : arena.cursor ≤ arena.headLength

theorem Backed.sound {asked : Layout → Prop} (obeys : backing.Obeys asked Out) (backed : arena.Backed Out) :
    arena.toChain.Sound where
  spread := by
    have spread := obeys.spread backed.out
    rwa [Spread, List.pairwise_map] at spread
  below node member := obeys.below backed.out node.grant (List.mem_map_of_mem member)
  filled := backed.filled
  cursor_le := backed.cursor_le

/-- The invariant speaks about the backing only through the grants. -/
theorem Backed.of_toChain_eq {arena' : Arena σ} (backed : arena.Backed Out) (chain : arena'.toChain = arena.toChain)
    (out : Out arena'.source (arena'.nodes.map Node.grant)) : arena'.Backed Out where
  out := out
  filled := by rw [chain]; exact backed.filled
  cursor_le := by rw [chain]; exact backed.cursor_le

/-! ### Serving a request -/

/-- A round serves a request for which the head has room, and does nothing else. -/
theorem run_round_of_fits {head : Node} {older : List Node} (nodes : arena.nodes = head :: older)
    (cursor_le : arena.cursor ≤ head.len) (below : head.base + head.len < Word.limit) {layout : Layout}
    (fits : head.Fits arena.cursor layout) :
    (round backing layout).run arena = ⟨.ok (.served (head.carving arena.cursor layout)), [],
      { arena with cursor := head.start arena.cursor layout.align + layout.size }⟩ := by
  have small := fits
  rw [Node.Fits] at small
  simp only [round, Act.run_bind, Act.run_get, nodes, Node.place_eq layout (show head.base + arena.cursor < _ by omega)]
  rw [if_pos (by omega)]
  simp only [Act.run_lift_ok, small, ↓reduceIte, Act.run_bind, Act.run_set, Act.run_pure, Outcome.after_mk,
    List.append_nil]
  rfl

/-- So does a request, in its first round. The nodes may overlap. -/
theorem run_allocWithin_of_room {head : Node} {older : List Node} (nodes : arena.nodes = head :: older)
    (cursor_le : arena.cursor ≤ head.len) (below : head.base + head.len < Word.limit) {layout : Layout}
    (fits : head.Fits arena.cursor layout) (rounds : Nat) :
    (allocWithin backing layout (rounds + 1)).run arena =
      ⟨.ok (.ok (head.carving arena.cursor layout)), [],
        { arena with cursor := head.start arena.cursor layout.align + layout.size }⟩ := by
  rw [allocWithin, Act.run_bind_of_ok (run_round_of_fits nodes cursor_le below fits)]
  rfl

theorem run_allocWithin_of_fits (sound : arena.toChain.Sound) {head : Node} {older : List Node}
    (nodes : arena.nodes = head :: older) {layout : Layout} (fits : head.Fits arena.cursor layout) (rounds : Nat) :
    (allocWithin backing layout (rounds + 1)).run arena =
      ⟨.ok (.ok (head.carving arena.cursor layout)), [],
        { arena with cursor := head.start arena.cursor layout.align + layout.size }⟩ := by
  obtain ⟨cursor_le, below⟩ := sound.head_room nodes
  exact run_allocWithin_of_room nodes cursor_le below fits rounds

/-- A block that is carved from the head changes the cursor only. -/
theorem Backed.carved (backed : arena.Backed Out) {head : Node} {older : List Node}
    (nodes : arena.nodes = head :: older) {layout : Layout} (fits : head.Fits arena.cursor layout) :
    ({ arena with cursor := head.start arena.cursor layout.align + layout.size } : Arena σ).Backed Out where
  out := backed.out
  filled := backed.filled
  cursor_le := by
    rw [Chain.headLength, nodes]
    exact fits

end Arena
end BumpArena
