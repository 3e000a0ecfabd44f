import BumpArena.Proofs.Packing

/-!
How much memory an arena holds for what it has served. A head that is left for a fresh one is not longer than the
requests that it has served and the one that had no room in it, and the fresh head is not longer than that request, the
head before and some slack, scaled. So every node can be charged to requests (`Chain.Charged`), and the capacity stays
linear in their footprints.
-/
namespace BumpArena

/-- A block ends before its footprint behind the cursor does. -/
theorem Node.start_add_size_lt (node : Node) (cursor : Nat) (layout : Layout) :
    node.start cursor layout.align + layout.size < cursor + layout.footprint := by
  have := node.start_lt cursor layout.align
  rw [Layout.footprint]
  omega

theorem Config.mul_le_of_nodeLength? {config : Config} {previous footprint length : Nat}
    (sized : config.nodeLength? previous footprint = some length) :
    100 * length ≤ config.growthPercent * (previous + footprint + config.nodeSlack) := by
  obtain ⟨_, _, scaled⟩ := Config.nodeLength?_eq_some_iff.mp sized
  rw [← scaled, Nat.mul_comm config.growthPercent]
  exact Nat.mul_div_le ..

namespace Chain

/-- The head was charged to requests with footprints of `here` bytes, the older nodes to requests with footprints of
    `before` bytes and to those of the head. -/
structure Charged (config : Config) (before here : Nat) (chain : Chain) : Prop where
  cursor_le : chain.cursor ≤ here
  older_le : chain.capacity ≤ chain.headLength + (2 * before + here)
  head_le : 100 * chain.headLength ≤ config.growthPercent * (before + 2 * here + config.nodeSlack)

theorem charged_empty (config : Config) : empty.Charged config 0 0 :=
  ⟨Nat.le_refl _, Nat.le_refl _, Nat.zero_le _⟩

variable {config : Config} {before here : Nat} {layout : Layout} {chain roomy chain' : Chain} {block : Block}

/-- A head without room for a request is not longer than what it has served and that request. -/
theorem Charged.headLength_le (charged : chain.Charged config before here)
    (full : ∀ head older, chain.nodes = head :: older → ¬ head.Fits chain.cursor layout) :
    chain.headLength ≤ here + layout.footprint := by
  have cursor := charged.cursor_le
  rcases nodes : chain.nodes with _ | ⟨head, older⟩
  · rw [headLength, nodes]
    exact Nat.zero_le _
  · have tight := full head older nodes
    have ends := head.start_add_size_lt chain.cursor layout
    rw [Node.Fits] at tight
    simp only [headLength, nodes]
    omega

/-- A served request is charged to the head if it is an old one, and else becomes the first one that the fresh head is
    charged to. -/
theorem Charged.served (charged : chain.Charged config before here) (made : MakesRoom config layout chain roomy)
    (carves : Carves layout roomy block chain') :
    ∃ before' here', before' + here' = before + here + layout.footprint ∧ chain'.Charged config before' here' := by
  cases made with
  | @fits head older cursor room =>
    cases carves
    obtain ⟨cursor_le, older_le, head_le⟩ := charged
    have ends := head.start_add_size_lt cursor layout
    simp only [capacity_cons, headLength_cons] at cursor_le older_le head_le
    refine ⟨before, here + layout.footprint, by omega, ?_, ?_, ?_⟩
    · dsimp only
      omega
    · rw [capacity_cons, headLength_cons]
      omega
    · refine Nat.le_trans head_le (Nat.mul_le_mul_left _ ?_)
      omega
  | @grown head longer older cursor full base len =>
    cases carves
    obtain ⟨cursor_le, older_le, head_le⟩ := charged
    have ends := head.start_add_size_lt cursor layout
    have same : longer.start cursor layout.align = head.start cursor layout.align := by
      rw [Node.start, Node.start, base]
    simp only [capacity_cons, headLength_cons] at cursor_le older_le head_le
    refine ⟨before, here + layout.footprint, by omega, ?_, ?_, ?_⟩
    · dsimp only
      omega
    · rw [capacity_cons, headLength_cons]
      omega
    · rw [headLength_cons]
      refine Nat.mul_le_mul config.growing ?_
      omega
  | @linked _ fresh full len =>
    cases carves
    have left := charged.headLength_le full
    have sized := Config.mul_le_of_nodeLength? len
    have older_le := charged.older_le
    have ends := fresh.start_add_size_lt 0 layout
    refine ⟨before + here, layout.footprint, rfl, ?_, ?_, ?_⟩
    · dsimp only
      omega
    · rw [capacity_cons, headLength_cons]
      have total : capacity ⟨chain.nodes, 0⟩ = chain.capacity := rfl
      omega
    · rw [headLength_cons]
      refine Nat.le_trans sized (Nat.mul_le_mul_left _ ?_)
      omega

theorem Charged.capacity_le (charged : chain.Charged config before here) :
    100 * chain.capacity ≤ config.growthPercent * (4 * (before + here) + config.nodeSlack) := by
  obtain ⟨_, older_le, head_le⟩ := charged
  calc
    100 * chain.capacity ≤ 100 * (2 * before + here) + 100 * chain.headLength := by omega
    _ ≤ config.growthPercent * (2 * before + here) +
        config.growthPercent * (before + 2 * here + config.nodeSlack) :=
      Nat.add_le_add (Nat.mul_le_mul_right _ config.growing) head_le
    _ = config.growthPercent * (3 * (before + here) + config.nodeSlack) := by
      rw [← Nat.mul_add]
      congr 1
      omega
    _ ≤ config.growthPercent * (4 * (before + here) + config.nodeSlack) := by
      refine Nat.mul_le_mul_left _ ?_
      omega

end Chain

namespace Arena

variable {σ : Type} {backing : Backing σ} {Out : σ → List Grant → Prop} {arena : Arena σ}

/-- Asks for a block of each layout, whatever became of the requests before. The answer lists the requests that were
    served. -/
def tryEach (backing : Backing σ) : List Layout → Act (Arena σ) (List Layout)
  | [] => return []
  | layout :: later => do
    match ← alloc backing layout with
    | .ok _ => return layout :: (← tryEach backing later)
    | .error _ => tryEach backing later

theorem tryEach_ends (lends : backing.LendsNodes Out) (backed : arena.Backed Out) {before here : Nat}
    (charged : arena.toChain.Charged arena.config before here) (requests : List Layout) :
    (tryEach backing requests).Ends arena fun served _ arena' => ∃ before' here',
      before' + here' = before + here + (served.map Layout.footprint).sum ∧
        arena'.toChain.Charged arena.config before' here' := by
  induction requests generalizing arena before here with
  | nil => exact (Act.ends_pure ..).mpr ⟨before, here, rfl, charged⟩
  | cons layout later ih =>
    rw [tryEach, Act.ends_bind]
    refine (alloc_ends lends backed layout).mono ?_
    rintro (error | block) _ between ⟨backed', config, answered⟩
    · rw [← config, ← answered.2] at charged
      rw [← config]
      exact ih backed' charged
    · obtain ⟨roomy, made, carves⟩ := answered
      obtain ⟨before', here', sum, charged'⟩ := charged.served made carves
      rw [← config] at charged' ⊢
      simp only [Act.ends_bind, Act.ends_pure]
      refine (ih backed' charged').mono ?_
      rintro served _ arena' ⟨before'', here'', sum', charged''⟩
      refine ⟨before'', here'', ?_, charged''⟩
      rw [List.map_cons, List.sum_cons]
      omega

/-- The memory that an arena holds is linear in what it has served: whatever the backing refuses, the capacity is never
    more than four times the footprints of the served requests and the slack of one node, scaled by the growth. -/
theorem capacity_le_of_served (lends : backing.LendsNodes Out) {s : σ} (out : Out s []) (config : Config)
    (requests : List Layout) :
    (tryEach backing requests).Ends { Chain.empty with config, source := s } fun served _ arena =>
      100 * arena.toChain.capacity ≤
        config.growthPercent * (4 * (served.map Layout.footprint).sum + config.nodeSlack) := by
  have backed : ({ Chain.empty with config, source := s } : Arena σ).Backed Out := .of_empty out rfl
  refine (tryEach_ends lends backed (Chain.charged_empty config) requests).mono ?_
  rintro served _ arena ⟨before, here, sum, charged⟩
  have total : before + here = (served.map Layout.footprint).sum := by omega
  exact total ▸ charged.capacity_le

/-- Three nodes on a heap that refuses every resize, and the one for the third request as well. -/
theorem heap_capacity_le_of_served :
    Heap.backing.LendsNodes Heap.Lent ∧ (Heap.ofSize 2048).Lent [] ∧
      (tryEach Heap.backing [⟨40, .one, by decide⟩, ⟨100, .sixteen, by decide⟩, ⟨5000, .one, by decide⟩,
          ⟨200, .one, by decide⟩, ⟨200, .one, by decide⟩]).Ends
        { Chain.empty with config := .standard, source := Heap.ofSize 2048 }
        fun served _ arena => 100 * arena.toChain.capacity ≤ 150 * (4 * (served.map Layout.footprint).sum + 32) := by
  have lends := Heap.contract.lendsNodes
  have out : (Heap.ofSize 2048).Lent [] := Heap.lent_ofSize (by decide)
  exact ⟨lends, out, capacity_le_of_served lends out .standard _⟩

end Arena
end BumpArena
