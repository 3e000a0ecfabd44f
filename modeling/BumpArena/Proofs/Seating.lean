import BumpArena.Proofs.Carving

/-!
Where in a chain a block was carved. A seat names the node by the number of older nodes, which does not
change before a reset, and the place in it by the offset. Seats say which node a block belongs to where
addresses do not: a block without bytes at the end of a node has the address of the node that follows it
in memory.
-/
namespace BumpArena

/-- A place in a chain. -/
structure Seat where
  home : Nat
  offset : Nat
  deriving DecidableEq

namespace Chain

/-- The place of an address in the head. -/
def seat (chain : Chain) (addr : Nat) : Seat :=
  match chain.nodes with
  | [] => ⟨0, 0⟩
  | head :: older => ⟨older.length, addr - head.base⟩

/-- The block lies at this place, inside the node. -/
def Seats (chain : Chain) (seat : Seat) (block : Block) : Prop :=
  ∃ newer node older, chain.nodes = newer ++ node :: older ∧ older.length = seat.home ∧
    block.addr = node.base + seat.offset ∧ seat.offset + block.len ≤ node.len

variable {chain chain' : Chain} {seat : Seat} {block : Block}

theorem Seats.of_nodes_eq (seats : chain.Seats seat block) (nodes : chain'.nodes = chain.nodes) :
    chain'.Seats seat block := by
  rw [Seats, nodes]
  exact seats

theorem Seats.smaller (seats : chain.Seats seat block) {len : Nat} (le : len ≤ block.len) :
    chain.Seats seat { block with len } := by
  obtain ⟨newer, node, older, nodes, home, addr, fits⟩ := seats
  exact ⟨newer, node, older, nodes, home, addr, Nat.le_trans (Nat.add_le_add_left le _) fits⟩

/-- A block that starts and ends in the head has its seat there. -/
theorem seats_of_head {head : Node} {older : List Node} (nodes : chain.nodes = head :: older) {addr len : Nat}
    (starts : head.base ≤ addr) (ends : addr - head.base + len ≤ head.len) :
    chain.Seats (chain.seat addr) ⟨addr, len⟩ := by
  rw [seat, nodes]
  exact ⟨[], head, older, nodes, rfl, by simp only; omega, ends⟩

/-- Room for a request leaves all seats as they are. -/
theorem MakesRoom.seats {config : Config} {layout : Layout} (made : MakesRoom config layout chain chain')
    (seats : chain.Seats seat block) : chain'.Seats seat block := by
  obtain ⟨newer, node, older, nodes, home, addr, fits⟩ := seats
  cases made with
  | fits => exact ⟨newer, node, older, nodes, home, addr, fits⟩
  | linked => exact ⟨_ :: newer, node, older, congrArg _ nodes, home, addr, fits⟩
  | @grown head longer behind cursor full base len =>
    rcases newer with _ | ⟨first, newer⟩
    · obtain ⟨rfl, rfl⟩ := List.cons.inj nodes
      refine ⟨[], longer, behind, rfl, home, base ▸ addr, ?_⟩
      rw [Node.Fits] at full
      omega
    · obtain ⟨rfl, rfl⟩ := List.cons.inj nodes
      exact ⟨longer :: newer, node, older, rfl, home, addr, fits⟩

theorem Carves.seats {layout : Layout} (carves : Carves layout chain block chain') :
    chain'.Seats (chain'.seat block.addr) block ∧
      ∀ seat other, chain.Seats seat other → chain'.Seats seat other := by
  cases carves with
  | @head head older cursor fits =>
    refine ⟨seats_of_head rfl (Nat.le_add_right ..) ?_, fun _ _ seats => seats.of_nodes_eq rfl⟩
    simp only [Node.carving, Nat.add_sub_cancel_left]
    exact fits

/-- The seat of a topmost block with bytes is in the head. -/
theorem Tops.seat_eq (sound : chain.Sound) (tops : chain.Tops block) (seats : chain.Seats seat block)
    (bytes : 0 < block.len) : seat = chain.seat block.addr := by
  obtain ⟨head, behind, nodes, starts, ends⟩ := tops
  obtain ⟨newer, node, older, nodes', home, addr, fits⟩ := seats
  obtain ⟨cursor, _⟩ := sound.head_room nodes
  obtain ⟨home', offset⟩ := seat
  have spread := sound.spread
  rw [Block.finish] at ends
  rw [nodes] at nodes' spread
  rcases newer with _ | ⟨first, newer⟩
  · obtain ⟨rfl, rfl⟩ := List.cons.inj nodes'
    simp only [Chain.seat, nodes] at home addr ⊢
    rw [← home, addr, Nat.add_sub_cancel_left]
  · -- Then the first byte would belong to the head and to an older node.
    obtain ⟨rfl, rfl⟩ := List.cons.inj nodes'
    have apart := (List.pairwise_cons.mp spread).1 node (by simp) block.addr
    simp only [Block.mem_iff, Node.block] at apart
    omega

/-- A topmost block that gets another size has its seat in the head. -/
theorem Tops.seats_resized (tops : chain.Tops block) {newSize : Nat}
    (fits : chain.cursor - block.len + newSize ≤ chain.headLength) :
    chain.Seats (chain.seat block.addr) { block with len := newSize } := by
  obtain ⟨head, older, nodes, starts, ends⟩ := tops
  rw [Block.finish] at ends
  simp only [headLength, nodes] at fits
  have inside : block.addr - head.base + newSize ≤ head.len := by omega
  exact seats_of_head nodes starts inside

/-- The place of a block that is given another size. A block without bytes gets its first ones from the head, so it
    is seated there; that is the seat it has, unless it was carved at the border of an older node. -/
def reseat (chain : Chain) (seat : Seat) (block : Block) (newSize : Nat) : Seat :=
  if block.len = 0 ∧ 0 < newSize then chain.seat block.addr else seat

theorem Resizes.seats {newSize : Nat} {granted : Bool} (resizes : chain.Resizes block newSize granted chain')
    (sound : chain.Sound) (seats : chain.Seats seat block) (yes : granted) :
    chain'.Seats (chain'.reseat seat block newSize) { block with len := newSize } := by
  have shrinks (le : newSize ≤ block.len) :
      chain.Seats (chain.reseat seat block newSize) { block with len := newSize } := by
    rw [reseat, if_neg (by omega)]
    exact seats.smaller le
  cases resizes with
  | moved tops fits =>
    refine Seats.of_nodes_eq ?_ rfl
    by_cases none : block.len = 0
    · by_cases some : 0 < newSize
      · rw [reseat, if_pos ⟨none, some⟩]
        exact tops.seats_resized fits
      · exact shrinks (by omega)
    · rw [reseat, if_neg (fun anew => none anew.1), tops.seat_eq sound seats (Nat.pos_of_ne_zero none)]
      exact tops.seats_resized fits
  | refused => contradiction
  | elsewhere => exact shrinks (by simpa using yes)

end Chain
end BumpArena
