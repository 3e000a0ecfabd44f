import BumpArena.Proofs.Ledger
import BumpArena.Proofs.Packing

/-!
A preheated arena. After a list of requests was served and the arena was reset with all its capacity, the
same list is served without a call to the backing exactly if it fits into the one node that is left, which
is as long as all nodes before. It fits if the arena had one node only or if no request asks for an alignment.
In general it need not, since the requests can need more padding in one node than in several.
-/
namespace BumpArena

namespace Chain

/-- After a reset that keeps the capacity, the head has all of it. -/
theorem Resets.preheated {chain heated : Chain} (resets : chain.Resets .capacity true heated) :
    heated.cursor = 0 ∧ heated.headLength = chain.capacity ∧ heated.capacity = chain.capacity := by
  cases resets with
  | cleared none => exact ⟨rfl, none.symm, none.symm⟩
  | kept _ len => exact ⟨rfl, len, len⟩
  | resized _ _ _ len => exact ⟨rfl, len, len⟩
  | replaced _ _ len => exact ⟨rfl, len, len⟩

/-- A chain of one node stays as it is in a reset that keeps the capacity. -/
theorem Resets.of_single {chain heated : Chain} (resets : chain.Resets .capacity true heated) {node : Node}
    (single : chain.nodes = [node]) (filled : 0 < node.len) : heated = ⟨[node], 0⟩ := by
  have capacity : chain.capacity = node.len := by simp [Chain.capacity, single]
  have oldest {newer : List Node} {last : Node} (nodes : chain.nodes = newer ++ [last]) : last = node := by
    have final := congrArg List.getLast? (nodes.symm.trans single)
    simpa using final
  cases resets with
  | cleared none =>
    rw [Retention.target, capacity] at none
    omega
  | kept nodes _ => rw [oldest nodes]
  | resized nodes other => exact (other (by rw [oldest nodes, Retention.target, capacity])).elim
  | replaced nodes other => exact (other (by rw [oldest nodes, Retention.target, capacity])).elim

section

variable {config : Config} {requests : List Layout} {fresh chain heated : Chain}

theorem Resets.nodes_ne_nil (resets : chain.Resets .capacity true heated) {layout : Layout}
    (serves : Serves config (layout :: requests) fresh chain) (filled : ∀ node ∈ chain.nodes, 0 < node.len) :
    heated.nodes ≠ [] := by
  have positive := capacity_pos filled serves.nodes_ne_nil
  have length := resets.preheated.2.1
  intro none
  simp only [headLength, none] at length
  omega

theorem Resets.packed_le_of_few (resets : chain.Resets .capacity true heated)
    (serves : Serves config requests fresh chain) (start : fresh.cursor = 0) (sound : chain.Sound)
    (few : chain.nodes.length ≤ 1) : heated.packed requests ≤ chain.capacity := by
  obtain ⟨cursor, length, _⟩ := resets.preheated
  rcases nodes : chain.nodes with _ | ⟨node, older⟩
  · cases requests with
    | nil =>
      rw [packed_nil, cursor]
      exact Nat.zero_le _
    | cons => exact (serves.nodes_ne_nil nodes).elim
  · have single : chain.nodes = [node] := by
      rw [nodes, List.length_cons] at few
      rw [nodes, List.length_eq_zero_iff.mp (Nat.le_zero.mp (Nat.le_of_succ_le_succ few))]
    have inNode := (serves.cursor_eq single fun _ => start).2
    have fits := sound.cursor_le
    rw [resets.of_single single (sound.filled node (by simp [single]))] at length ⊢
    rw [inNode, start] at fits
    simp only [headLength, single] at fits
    exact Nat.le_trans fits length.le

theorem Resets.packed_le_of_one (resets : chain.Resets .capacity true heated)
    (serves : Serves config requests fresh chain) (fresh_le : fresh.cursor ≤ fresh.headLength) (sound : chain.Sound)
    (ones : ∀ layout ∈ requests, layout.align = .one) : heated.packed requests ≤ chain.capacity := by
  have cursor := resets.preheated.1
  have used := serves.used_le fresh_le
  have within := used_le_capacity sound.cursor_le
  have unpadded := heated.packed_of_one ones
  omega

end

end Chain

namespace Arena

variable {σ : Type} {backing : Backing σ} {Out : σ → List Grant → Prop} {arena : Arena σ}

/-- Serves requests one after the other up to the first that is refused. The answer is whether all were
    served. -/
def allocAll (backing : Backing σ) : List Layout → Act (Arena σ) Bool
  | [] => return true
  | layout :: later => do
    match ← alloc backing layout with
    | .ok _ => allocAll backing later
    | .error _ => return false

theorem allocAll_ends (lends : backing.LendsNodes Out) (backed : arena.Backed Out) (requests : List Layout) :
    (allocAll backing requests).Ends arena fun served _ arena' => arena'.Backed Out ∧
      (served → arena.toChain.Serves arena.config requests arena'.toChain) := by
  induction requests generalizing arena with
  | nil => exact (Act.ends_pure ..).mpr ⟨backed, fun _ => .nil⟩
  | cons layout later ih =>
    rw [allocAll, Act.ends_bind]
    refine (alloc_ends lends backed layout).mono ?_
    rintro (error | block) _ between ⟨backed', config, answered⟩
    · exact (Act.ends_pure ..).mpr ⟨backed', by simp⟩
    · obtain ⟨roomy, made, carves⟩ := answered
      refine (ih backed').mono ?_
      rintro served _ arena' ⟨backed'', serves⟩
      exact ⟨backed'', fun all => .cons made carves (config ▸ serves all)⟩

/-- Requests that fit into the head are served from it, and nothing else happens. -/
theorem run_allocAll_of_packed (sound : arena.toChain.Sound) {head : Node} {older : List Node}
    (nodes : arena.nodes = head :: older) {requests : List Layout}
    (fits : head.packed arena.cursor requests ≤ head.len) :
    (allocAll backing requests).run arena =
      ⟨.ok true, [], { arena with cursor := head.packed arena.cursor requests }⟩ := by
  induction requests generalizing arena with
  | nil => rfl
  | cons layout later ih =>
    have first : head.Fits arena.cursor layout := Nat.le_trans (head.le_packed _ later) fits
    rw [allocAll, alloc, Act.run_bind_of_ok (run_allocWithin_of_fits sound nodes first 1), Outcome.after_nil]
    have length : arena.headLength = head.len := by rw [Chain.headLength, nodes]
    refine ih ⟨sound.spread, sound.below, sound.filled, ?_⟩ nodes fits
    rw [Chain.headLength, nodes]
    exact first

/-- The capacity of an arena is out, so its journal tells how much it is. -/
theorem capacity_eq_of_calls {arena arena' : Arena (Ledger σ)} (backed : arena.Backed (Ledger.Lent Out))
    (backed' : arena'.Backed (Ledger.Lent Out)) (same : arena'.source.calls = arena.source.calls) :
    arena'.toChain.capacity = arena.toChain.capacity := by
  have out := backed.out.outstanding_eq
  have out' := backed'.out.outstanding_eq
  rw [same, out] at out'
  have perm := ((Multiset.coe_eq_coe.mp out').map fun grant => grant.block.len).sum_eq
  simp only [List.map_map] at perm
  rw [Chain.capacity_eq, Chain.capacity_eq]
  exact perm.symm

variable {heated : Arena σ}

/-- Requests that fit into the arena are served from its head. -/
theorem refill_ends (sound : heated.toChain.Sound) {requests : List Layout}
    (head : requests ≠ [] → heated.nodes ≠ []) (fits : heated.toChain.packed requests ≤ heated.headLength) :
    (allocAll backing requests).Ends heated fun again _ refilled =>
      again = true ∧ refilled.source = heated.source := by
  rcases nodes : heated.nodes with _ | ⟨first, older⟩
  · have none : requests = [] := by
      by_contra some
      exact head some nodes
    rw [none]
    exact (Act.ends_pure ..).mpr ⟨rfl, rfl⟩
  · simp only [Chain.packed, Chain.headLength, nodes] at fits
    exact (Act.ends_iff_of_run (run_allocAll_of_packed sound nodes fits)).mpr ⟨rfl, rfl⟩

/-- A list of requests that was served once is served again without a call to the backing exactly if, behind
    each other, the blocks fit into the node that is left; always so if there was one node only, and always so
    without alignments. -/
theorem preheated_iff (lends : backing.LendsNodes Out) {s : σ} (out : Out s []) {settings : Settings}
    {requests : List Layout} {arena filled heated : Arena (Ledger σ)} {created first cleared : Trace}
    (ready : (prepare (Ledger.backing backing) settings).run (ofSource ⟨s, []⟩) = ⟨.ok (.ok ()), created, arena⟩)
    (served : (allocAll (Ledger.backing backing) requests).run arena = ⟨.ok true, first, filled⟩)
    (kept : (reset (Ledger.backing backing) .capacity).run filled = ⟨.ok true, cleared, heated⟩) :
    (allocAll (Ledger.backing backing) requests).Ends heated fun again _ refilled =>
      (again = true ∧ refilled.source.calls = heated.source.calls ↔
        heated.toChain.packed requests ≤ filled.toChain.capacity) ∧
      (filled.nodes.length ≤ 1 → again = true ∧ refilled.source.calls = heated.source.calls) ∧
      ((∀ layout ∈ requests, layout.align = .one) →
        again = true ∧ refilled.source.calls = heated.source.calls) := by
  have lends' := Ledger.lendsNodes lends
  obtain ⟨backed, _, start, _⟩ := (prepare_ends lends' (Ledger.lent_nil out) rfl settings).of_run ready
  obtain ⟨filledBacked, serves⟩ := (allocAll_ends lends' backed requests).of_run served
  obtain ⟨heatedBacked, _, resets⟩ := (reset_ends lends' filledBacked .capacity).of_run kept
  have serves := serves rfl
  have sound := filledBacked.sound lends'
  have length := resets.preheated.2.1
  obtain ⟨again, trace, refilled, ran, refilledBacked, serves'⟩ := allocAll_ends lends' heatedBacked requests
  have enough (fits : heated.toChain.packed requests ≤ filled.toChain.capacity) :
      again = true ∧ refilled.source.calls = heated.source.calls := by
    have head (some : requests ≠ []) : heated.nodes ≠ [] := by
      obtain ⟨layout, later, rfl⟩ := List.exists_cons_of_ne_nil some
      exact resets.nodes_ne_nil serves sound.filled
    have refill := (refill_ends (heatedBacked.sound lends') head (length.symm ▸ fits)).of_run ran
    exact ⟨refill.1, congrArg Ledger.calls refill.2⟩
  refine ⟨again, trace, refilled, ran, ⟨?_, enough⟩, ?_, ?_⟩
  · rintro ⟨all, same⟩
    have capacity := capacity_eq_of_calls heatedBacked refilledBacked same
    exact length ▸ (serves' all).packed_le heatedBacked.cursor_le capacity
  · intro few
    exact enough (resets.packed_le_of_few serves start sound few)
  · intro ones
    exact enough (resets.packed_le_of_one serves backed.cursor_le sound ones)

/-- The blocks fill a node of 51 bytes and one of 150 bytes to the last byte. In one node of 201 bytes the last
    block needs padding, which the first node had room for between the two. -/
def tight : List Layout :=
  [⟨1, .one, by decide⟩, ⟨50, .one, by decide⟩, ⟨16, .one, by decide⟩, ⟨134, .sixteen, by decide⟩]

/-- An arena without a node over the heap. -/
def cold : Arena (Ledger Heap) := ofSource ⟨Heap.ofSize 4096, []⟩

theorem preheated_short :
    ∃ first filled cleared heated again refilled,
      (prepare (Ledger.backing Heap.backing) .standard).run cold = ⟨.ok (.ok ()), [], cold⟩ ∧
      (allocAll (Ledger.backing Heap.backing) tight).run cold = ⟨.ok true, first, filled⟩ ∧
      (reset (Ledger.backing Heap.backing) .capacity).run filled = ⟨.ok true, cleared, heated⟩ ∧
      (allocAll (Ledger.backing Heap.backing) tight).run heated = ⟨.ok true, again, refilled⟩ ∧
      filled.toChain.capacity = 201 ∧ heated.toChain.packed tight = 214 ∧
      refilled.source.calls.length = heated.source.calls.length + 2 := by
  refine ⟨_, _, _, _, _, _, rfl, Act.run_of_value (by decide +kernel), Act.run_of_value (by decide +kernel),
    Act.run_of_value (by decide +kernel), ?_, ?_, ?_⟩
  · decide +kernel
  · decide +kernel
  · decide +kernel

/-- The theorem covers that run, in which the list does not fit. -/
theorem heap_preheated :
    Heap.backing.LendsNodes Heap.Lent ∧ (Heap.ofSize 4096).Lent [] ∧
      ∃ first filled cleared heated,
        (prepare (Ledger.backing Heap.backing) .standard).run cold = ⟨.ok (.ok ()), [], cold⟩ ∧
        (allocAll (Ledger.backing Heap.backing) tight).run cold = ⟨.ok true, first, filled⟩ ∧
        (reset (Ledger.backing Heap.backing) .capacity).run filled = ⟨.ok true, cleared, heated⟩ ∧
        (allocAll (Ledger.backing Heap.backing) tight).Ends heated fun again _ refilled =>
          (again = true ∧ refilled.source.calls = heated.source.calls ↔
            heated.toChain.packed tight ≤ filled.toChain.capacity) := by
  have lends := Heap.contract.lendsNodes
  have out : (Heap.ofSize 4096).Lent [] := Heap.lent_ofSize (by decide)
  have ready : (prepare (Ledger.backing Heap.backing) .standard).run cold = ⟨.ok (.ok ()), [], cold⟩ := rfl
  refine ⟨lends, out, _, _, _, _, ready, Act.run_of_value (by decide +kernel), Act.run_of_value (by decide +kernel), ?_⟩
  refine (preheated_iff lends out ready (Act.run_of_value (by decide +kernel))
    (Act.run_of_value (by decide +kernel))).mono ?_
  exact fun _ _ _ heat => heat.1

end Arena
end BumpArena
