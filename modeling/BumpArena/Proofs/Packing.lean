import BumpArena.Proofs.Clearing

/-!
Lists of requests. `Chain.packed` says where the cursor would be if the head alone served them all, each
block at the first aligned address after the one before. A chain that serves a list of requests
(`Chain.Serves`) does just that as long as it gets no more capacity. With another node each request starts
again at another base, so the padding of the whole list is another one then; only without padding the bytes
of the requests add up to the same everywhere.
-/
namespace BumpArena

/-- Where the cursor is after these requests, if all of them go into the node. -/
def Node.packed (node : Node) : Nat → List Layout → Nat
  | cursor, [] => cursor
  | cursor, layout :: later => node.packed (node.start cursor layout.align + layout.size) later

theorem Node.le_packed (node : Node) (cursor : Nat) (requests : List Layout) :
    cursor ≤ node.packed cursor requests := by
  induction requests generalizing cursor with
  | nil => exact Nat.le_refl _
  | cons layout later ih =>
    have := node.le_start cursor layout.align
    have := ih (node.start cursor layout.align + layout.size)
    rw [packed]
    omega

/-- Without alignment there is no padding. -/
theorem Node.packed_of_one (node : Node) (cursor : Nat) {requests : List Layout}
    (ones : ∀ layout ∈ requests, layout.align = .one) :
    node.packed cursor requests = cursor + (requests.map (·.size)).sum := by
  induction requests generalizing cursor with
  | nil => rfl
  | cons layout later ih =>
    obtain ⟨one, ones⟩ := List.forall_mem_cons.mp ones
    have start : node.start cursor layout.align = cursor := by
      rw [start, one, Alignment.roundUp_one, Nat.add_sub_cancel_left]
    rw [packed, start, ih _ ones, List.map_cons, List.sum_cons, Nat.add_assoc]

namespace Chain

/-- Where the cursor would be if the head served all requests. -/
def packed (chain : Chain) (requests : List Layout) : Nat :=
  match chain.nodes with
  | [] => chain.cursor
  | head :: _ => head.packed chain.cursor requests

theorem packed_nil (chain : Chain) : chain.packed [] = chain.cursor := by
  rw [packed]
  split <;> rfl

theorem packed_of_one (chain : Chain) {requests : List Layout} (ones : ∀ layout ∈ requests, layout.align = .one) :
    chain.packed requests ≤ chain.cursor + (requests.map (·.size)).sum := by
  rw [packed]
  split
  · exact Nat.le_add_right ..
  · exact (Node.packed_of_one _ _ ones).le

/-- The bytes before the cursor, those of older nodes included. -/
def used (chain : Chain) : Nat := chain.capacity - chain.headLength + chain.cursor

@[simp] theorem capacity_cons (head : Node) (older : List Node) (cursor : Nat) :
    capacity ⟨head :: older, cursor⟩ = head.len + capacity ⟨older, 0⟩ := rfl

@[simp] theorem headLength_cons (head : Node) (older : List Node) (cursor : Nat) :
    headLength ⟨head :: older, cursor⟩ = head.len := rfl

theorem headLength_le_capacity (chain : Chain) : chain.headLength ≤ chain.capacity := by
  obtain ⟨_ | ⟨head, older⟩, cursor⟩ := chain
  · exact Nat.zero_le _
  · exact Nat.le_add_right ..

theorem capacity_pos {chain : Chain} (filled : ∀ node ∈ chain.nodes, 0 < node.len) (some : chain.nodes ≠ []) :
    0 < chain.capacity := by
  obtain ⟨_ | ⟨head, older⟩, cursor⟩ := chain
  · contradiction
  · exact Nat.lt_of_lt_of_le (filled head List.mem_cons_self) (Nat.le_add_right ..)

/-- What room for a request changes: nothing, the length of the head, or there is a new head. -/
theorem MakesRoom.cases {config : Config} {layout : Layout} {chain roomy : Chain}
    (made : MakesRoom config layout chain roomy) :
    ∃ head older cursor, roomy = ⟨head :: older, cursor⟩ ∧
      (chain = roomy ∨
        (∃ shorter, chain = ⟨shorter :: older, cursor⟩ ∧ shorter.base = head.base ∧ shorter.len < head.len) ∨
        chain.nodes = older ∧ cursor = 0 ∧ 0 < head.len) := by
  cases made with
  | @fits head older cursor => exact ⟨head, older, cursor, rfl, .inl rfl⟩
  | @grown head longer older cursor full base len =>
    rw [Node.Fits] at full
    exact ⟨longer, older, cursor, rfl, .inr (.inl ⟨head, rfl, base.symm, by omega⟩)⟩
  | @linked _ fresh full len =>
    have long := Config.le_of_nodeLength? len
    have positive := layout.align.bytes_pos
    rw [Layout.footprint] at long
    exact ⟨fresh, chain.nodes, 0, rfl, .inr (.inr ⟨rfl, rfl, by omega⟩)⟩

/-- The chain serves these requests one after the other. -/
inductive Serves (config : Config) : List Layout → Chain → Chain → Prop where
  | nil {chain : Chain} : Serves config [] chain chain
  | cons {layout : Layout} {later : List Layout} {chain roomy between chain' : Chain} {block : Block}
    (made : MakesRoom config layout chain roomy) (carves : Carves layout roomy block between)
    (rest : Serves config later between chain') : Serves config (layout :: later) chain chain'

variable {config : Config} {requests : List Layout} {chain chain' : Chain}

theorem Serves.capacity_le (serves : Serves config requests chain chain') : chain.capacity ≤ chain'.capacity := by
  induction serves with
  | nil => exact Nat.le_refl _
  | cons made carves _ ih =>
    obtain ⟨head, older, cursor, rfl, made⟩ := made.cases
    cases carves
    rw [capacity_cons] at ih
    rcases made with rfl | ⟨shorter, rfl, _, shorter_lt⟩ | ⟨rfl, _, _⟩
    · exact ih
    · rw [capacity_cons]
      omega
    · exact Nat.le_trans (Nat.le_add_left ..) ih

/-- Without more capacity all blocks come from the head as it is. -/
theorem Serves.packed_le (serves : Serves config requests chain chain') (cursor_le : chain.cursor ≤ chain.headLength)
    (same : chain'.capacity = chain.capacity) : chain.packed requests ≤ chain.headLength := by
  induction serves with
  | @nil chain =>
    obtain ⟨_ | ⟨head, older⟩, cursor⟩ := chain
    · exact cursor_le
    · exact cursor_le
  | @cons layout later chain _ _ chain' _ made carves rest ih =>
    obtain ⟨head, older, cursor, rfl, made⟩ := made.cases
    cases carves with
    | head fits =>
      have more := rest.capacity_le
      rw [capacity_cons] at more
      rcases made with rfl | ⟨shorter, rfl, _, shorter_lt⟩ | ⟨rfl, _, filled⟩
      · exact ih fits same
      · rw [capacity_cons] at same
        omega
      · have total : capacity ⟨chain.nodes, 0⟩ = chain.capacity := rfl
        omega

theorem Serves.length_le (serves : Serves config requests chain chain') :
    chain.nodes.length ≤ chain'.nodes.length := by
  induction serves with
  | nil => exact Nat.le_refl _
  | cons made carves _ ih =>
    obtain ⟨head, older, cursor, rfl, made⟩ := made.cases
    cases carves
    rw [List.length_cons] at ih
    rcases made with rfl | ⟨shorter, rfl, _⟩ | ⟨rfl, _⟩
    · exact ih
    · exact ih
    · omega

theorem Serves.nodes_ne_nil {layout : Layout} (serves : Serves config (layout :: requests) chain chain') :
    chain'.nodes ≠ [] := by
  cases serves with
  | cons _ carves rest =>
    have count := rest.length_le
    cases carves
    intro none
    simp [none] at count

/-- A chain with a single node at the end has served all requests from it. -/
theorem Serves.cursor_eq (serves : Serves config requests chain chain') {node : Node}
    (single : chain'.nodes = [node]) (start : chain.nodes = [] → chain.cursor = 0) :
    (∀ head ∈ chain.nodes, head.base = node.base) ∧ chain'.cursor = node.packed chain.cursor requests := by
  induction serves with
  | nil => exact ⟨by simp [single], rfl⟩
  | @cons layout later chain _ _ chain' _ made carves rest ih =>
    obtain ⟨head, older, cursor, rfl, made⟩ := made.cases
    cases carves with
    | head fits =>
      have count := rest.length_le
      obtain ⟨bases, ended⟩ := ih single (by simp)
      have base : head.base = node.base := bases head (by simp)
      have none : older = [] := by
        rw [single, List.length_cons] at count
        exact List.length_eq_zero_iff.mp (Nat.le_zero.mp (Nat.le_of_succ_le_succ count))
      subst none
      have placed : head.start cursor layout.align = node.start cursor layout.align := by
        rw [Node.start, Node.start, base]
      rw [placed] at ended
      rcases made with rfl | ⟨shorter, rfl, base', _⟩ | ⟨empty, rfl, _⟩
      · exact ⟨by simpa using base, ended⟩
      · exact ⟨by simpa using base'.trans base, ended⟩
      · rw [start empty]
        exact ⟨by simp [empty], ended⟩

/-- The bytes of the requests are in use behind what was in use before. -/
theorem Serves.used_le (serves : Serves config requests chain chain') (cursor_le : chain.cursor ≤ chain.headLength) :
    chain.used + (requests.map (·.size)).sum ≤ chain'.used := by
  induction serves with
  | nil => exact Nat.le_refl _
  | @cons layout later chain _ _ chain' _ made carves rest ih =>
    obtain ⟨head, older, cursor, rfl, made⟩ := made.cases
    cases carves with
    | head fits =>
      have added := ih fits
      have after := head.le_start cursor layout.align
      rw [List.map_cons, List.sum_cons]
      simp only [used, capacity_cons, headLength_cons, Nat.add_sub_cancel_left] at added cursor_le ⊢
      rcases made with rfl | ⟨shorter, rfl, _⟩ | ⟨rfl, rfl, _⟩
      · simp only [capacity_cons, headLength_cons, Nat.add_sub_cancel_left]
        omega
      · simp only [capacity_cons, headLength_cons, Nat.add_sub_cancel_left]
        omega
      · have total : capacity ⟨chain.nodes, 0⟩ = chain.capacity := rfl
        have part := chain.headLength_le_capacity
        omega

theorem used_le_capacity {chain : Chain} (cursor_le : chain.cursor ≤ chain.headLength) :
    chain.used ≤ chain.capacity := by
  have part := chain.headLength_le_capacity
  rw [used]
  omega

end Chain
end BumpArena
