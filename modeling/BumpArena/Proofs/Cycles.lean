import BumpArena.Proofs.Overhead
import BumpArena.Proofs.Preheating

/-!
The same requests over and over, each time followed by a reset that keeps the capacity. A cycle that needs a fresh node
leaves more than twice the capacity that it found, and a cycle that gets along with one node is the last one that needs
the backing. A node as long as the footprints of all requests serves them wherever it lies. So the cycles that call the
backing are the first ones, and they are few.
-/
namespace BumpArena

/-- A list of requests ends before its footprints do, wherever the node lies. -/
theorem Node.packed_add_length_le (node : Node) (cursor : Nat) (requests : List Layout) :
    node.packed cursor requests + requests.length ≤ cursor + (requests.map Layout.footprint).sum := by
  induction requests generalizing cursor with
  | nil => exact Nat.le_refl _
  | cons layout later ih =>
    have first := node.start_add_size_lt cursor layout
    have rest := ih (node.start cursor layout.align + layout.size)
    rw [packed, List.length_cons, List.map_cons, List.sum_cons]
    omega

namespace Chain

/-- A chain as a reset leaves it. -/
structure Rested (chain : Chain) : Prop where
  start : chain.cursor = 0
  single : chain.nodes.length ≤ 1

/-- The head is there and has room for all requests. -/
structure Suffices (chain : Chain) (requests : List Layout) : Prop where
  some : chain.nodes ≠ []
  fits : chain.packed requests ≤ chain.headLength

variable {config : Config} {requests : List Layout} {chain filled left : Chain}

theorem Rested.headLength_eq (resting : chain.Rested) : chain.headLength = chain.capacity := by
  obtain ⟨_, single⟩ := resting
  obtain ⟨_ | ⟨head, _ | ⟨_, _⟩⟩, cursor⟩ := chain
  · rfl
  · rfl
  · simp at single

theorem Resets.rested (resets : chain.Resets .capacity true left) : left.Rested := by
  cases resets with
  | cleared => exact ⟨rfl, Nat.zero_le 1⟩
  | kept => exact ⟨rfl, Nat.le_refl 1⟩
  | resized => exact ⟨rfl, Nat.le_refl 1⟩
  | replaced => exact ⟨rfl, Nat.le_refl 1⟩

/-- A chain that is longer than the footprints of the requests has room for them. -/
theorem Rested.suffices (resting : chain.Rested) (asked : requests ≠ [])
    (long : (requests.map Layout.footprint).sum ≤ chain.capacity) : chain.Suffices requests := by
  have count := List.length_pos_iff.mpr asked
  obtain ⟨_ | ⟨head, older⟩, cursor⟩ := chain
  · obtain ⟨layout, later, rfl⟩ := List.exists_cons_of_ne_nil asked
    have positive := layout.footprint_pos
    have none : capacity ⟨[], cursor⟩ = 0 := rfl
    rw [List.map_cons, List.sum_cons] at long
    omega
  · obtain rfl : cursor = 0 := resting.start
    have ends := head.packed_add_length_le 0 requests
    refine ⟨by simp, ?_⟩
    rw [resting.headLength_eq]
    simp only [packed]
    omega

/-- Requests that take no more capacity fit into the head as it was. -/
theorem Serves.suffices (serves : Serves config requests chain filled) (asked : requests ≠ [])
    (cursor_le : chain.cursor ≤ chain.headLength) (sound : filled.Sound) (same : filled.capacity = chain.capacity) :
    chain.Suffices requests where
  fits := serves.packed_le cursor_le same
  some := by
    obtain ⟨layout, later, rfl⟩ := List.exists_cons_of_ne_nil asked
    have positive := capacity_pos sound.filled serves.nodes_ne_nil
    intro none
    rw [same, capacity, none] at positive
    exact Nat.lt_irrefl _ positive

/-- A fresh head is longer than the head that it takes over from. -/
theorem Serves.capacity_add_headLength_lt (serves : Serves config requests chain filled)
    (linked : chain.nodes.length < filled.nodes.length) : chain.capacity + chain.headLength < filled.capacity := by
  induction serves with
  | nil => exact (Nat.lt_irrefl _ linked).elim
  | @cons layout later chain _ _ filled _ made carves rest ih =>
    cases made with
    | fits =>
      cases carves
      exact ih linked
    | @grown head longer older cursor full base len =>
      cases carves
      have more := ih linked
      rw [Node.Fits] at full
      simp only [capacity_cons, headLength_cons] at more ⊢
      omega
    | @linked _ fresh full len =>
      cases carves
      have more := rest.capacity_le
      have long := Config.le_of_nodeLength? len
      have positive := layout.footprint_pos
      have total : capacity ⟨chain.nodes, 0⟩ = chain.capacity := rfl
      rw [capacity_cons] at more
      omega

/-- What a cycle leaves has room for the requests, or it is more than twice as long as what the cycle found. -/
theorem Resets.suffices_or_doubled (resets : filled.Resets .capacity true left)
    (serves : Serves config requests chain filled) (asked : requests ≠ []) (resting : chain.Rested)
    (sound : filled.Sound) : left.Suffices requests ∨ 2 * chain.capacity < left.capacity := by
  obtain ⟨_, length, capacity⟩ := resets.preheated
  by_cases few : filled.nodes.length ≤ 1
  · refine .inl ?_
    obtain ⟨layout, later, rfl⟩ := List.exists_cons_of_ne_nil asked
    exact ⟨resets.nodes_ne_nil serves sound.filled, length ▸ resets.packed_le_of_few serves resting.start sound few⟩
  · refine .inr ?_
    have more := serves.capacity_add_headLength_lt (Nat.lt_of_le_of_lt resting.single (Nat.lt_of_not_le few))
    rw [resting.headLength_eq] at more
    omega

end Chain

namespace Arena

variable {σ : Type} {backing : Backing σ} {Out : σ → List Grant → Prop}

/-- Serves the requests and then takes all blocks back. The answer is whether every request was served and the capacity
    was kept. -/
def cycle (backing : Backing σ) (requests : List Layout) : Act (Arena σ) Bool := do
  if ← allocAll backing requests then
    reset backing .capacity
  else
    return false

/-- Runs so many cycles. The answer says for each of them whether it called the backing; none if one of them failed. -/
def cycles (backing : Backing σ) (requests : List Layout) : Nat → Act (Arena (Ledger σ)) (Option (List Bool))
  | 0 => return some []
  | count + 1 => do
    let before := (← get).source.calls
    if ← cycle (Ledger.backing backing) requests then
      let called := decide ((← get).source.calls ≠ before)
      return (← cycles backing requests count).map (called :: ·)
    else
      return none

section

variable {arena : Arena σ} {requests : List Layout}

/-- A single node is kept by a reset that keeps the capacity, and no call is made for it. -/
theorem run_reset_of_single (sound : arena.toChain.Sound) {node : Node} (nodes : arena.nodes = [node]) :
    (reset backing .capacity).run arena = ⟨.ok true, [.log (.nodeKept node.len)], { arena with cursor := 0 }⟩ := by
  have filled := sound.filled node (by simp [nodes])
  have total : Word.sum ([node].map (·.len)) = .ok node.len := by
    have capacity := sound.capacity_lt
    rw [Chain.capacity_eq, nodes] at capacity
    exact Word.sum_of_lt capacity
  have some : node.len ≠ 0 := by omega
  simp only [reset, releaseDownTo, Act.run_bind, Act.run_get, total, Act.run_lift_ok, Retention.target, some,
    ↓reduceIte, nodes, releaseNodes, List.length_nil, Nat.lt_one_iff, Act.run_pure, Act.run_modify, Act.run_log,
    Outcome.after_nil, Outcome.after_mk, List.append_nil]

/-- Requests that fit into the head are served from it, and after the reset nothing has changed. -/
theorem exists_run_cycle (backing : Backing σ) (sound : arena.toChain.Sound) (resting : arena.toChain.Rested)
    (room : arena.toChain.Suffices requests) :
    ∃ trace, (cycle backing requests).run arena = ⟨.ok true, trace, arena⟩ := by
  obtain ⟨⟨nodes, cursor⟩, config, source⟩ := arena
  obtain ⟨rfl, single⟩ := resting
  obtain ⟨some, fits⟩ := room
  obtain ⟨node, rfl⟩ : ∃ node, nodes = [node] := by
    obtain ⟨node, older, rfl⟩ := List.exists_cons_of_ne_nil some
    rw [List.length_cons] at single
    exact ⟨node, by rw [List.length_eq_zero_iff.mp (Nat.le_zero.mp (Nat.le_of_succ_le_succ single))]⟩
  have filled : Chain.Sound ⟨[node], node.packed 0 requests⟩ := ⟨sound.spread, sound.below, sound.filled, fits⟩
  refine ⟨[.log (.nodeKept node.len)], ?_⟩
  rw [cycle, Act.run_bind_of_ok (run_allocAll_of_packed sound rfl fits), if_pos rfl, run_reset_of_single filled rfl]
  rfl

end

/-- The first cycles call the backing, `most` of them at most, and the others do not. -/
def Settles (called : List Bool) (count most : Nat) : Prop :=
  ∃ busy quiet, called = List.replicate busy true ++ List.replicate quiet false ∧ busy + quiet = count ∧ busy ≤ most

theorem settles_quiet (count most : Nat) : Settles (List.replicate count false) count most :=
  ⟨0, count, rfl, Nat.zero_add count, Nat.zero_le most⟩

theorem Settles.cons {called : List Bool} {count most : Nat} (settles : Settles called count most) :
    Settles (true :: called) (count + 1) (most + 1) := by
  obtain ⟨busy, quiet, rfl, all, few⟩ := settles
  exact ⟨busy + 1, quiet, rfl, by omega, by omega⟩

variable {arena : Arena (Ledger σ)} {requests : List Layout}

/-- No cycle calls the backing while the head has room. -/
theorem cycles_ends_of_suffices (lends : backing.LendsNodes Out) (backed : arena.Backed (Ledger.Lent Out))
    (resting : arena.toChain.Rested) (room : arena.toChain.Suffices requests) (count : Nat) :
    (cycles backing requests count).Ends arena fun answer _ _ => answer = some (List.replicate count false) := by
  have sound := backed.sound (Ledger.lendsNodes lends)
  induction count with
  | zero => exact (Act.ends_pure ..).mpr rfl
  | succ count ih =>
    obtain ⟨trace, ran⟩ := exists_run_cycle (Ledger.backing backing) sound resting room
    simp only [cycles, Act.ends_bind, Act.ends_get]
    refine (Act.ends_iff_of_run ran).mpr ?_
    simp only [↓reduceIte, Act.ends_bind, Act.ends_get, Act.ends_pure]
    refine ih.mono ?_
    rintro _ _ _ rfl
    simp [List.replicate_succ]

/-- What one cycle comes to. -/
theorem cycle_ends (lends : backing.LendsNodes Out) (backed : arena.Backed (Ledger.Lent Out))
    (resting : arena.toChain.Rested) (asked : requests ≠ []) :
    (cycle (Ledger.backing backing) requests).Ends arena fun done _ rested =>
      done → rested.Backed (Ledger.Lent Out) ∧ rested.toChain.Rested ∧
        (rested.source.calls = arena.source.calls → arena.toChain.Suffices requests) ∧
        (rested.toChain.Suffices requests ∨ 2 * arena.toChain.capacity < rested.toChain.capacity) := by
  have lends' := Ledger.lendsNodes lends
  simp only [cycle, Act.ends_bind]
  refine (allocAll_ends lends' backed requests).mono ?_
  rintro (_ | _) _ filled ⟨filledBacked, serves⟩
  · exact (Act.ends_pure ..).mpr (by simp)
  simp only [↓reduceIte]
  refine (reset_ends lends' filledBacked .capacity).mono ?_
  rintro kept _ rested ⟨restedBacked, _, resets⟩ rfl
  have serves := serves rfl
  have sound := filledBacked.sound lends'
  refine ⟨restedBacked, resets.rested, ?_, resets.suffices_or_doubled serves asked resting sound⟩
  intro same
  have capacity := capacity_eq_of_calls backed restedBacked same
  exact serves.suffices asked backed.cursor_le sound (resets.preheated.2.2.symm.trans capacity)

/-- Every cycle after which the head has no room for the requests doubles the capacity. -/
theorem cycles_ends (lends : backing.LendsNodes Out) (asked : requests ≠ []) (count : Nat) {doublings : Nat}
    (backed : arena.Backed (Ledger.Lent Out)) (resting : arena.toChain.Rested)
    (short : (requests.map Layout.footprint).sum < (arena.toChain.capacity + 1) * 2 ^ doublings) :
    (cycles backing requests count).Ends arena fun answer _ _ =>
      ∀ called, answer = some called → Settles called count doublings := by
  induction count generalizing arena doublings with
  | zero =>
    refine (Act.ends_pure ..).mpr ?_
    rintro _ ⟨⟩
    exact settles_quiet 0 doublings
  | succ count ih =>
    by_cases room : arena.toChain.Suffices requests
    · refine (cycles_ends_of_suffices lends backed resting room (count + 1)).mono ?_
      rintro _ _ _ rfl _ ⟨⟩
      exact settles_quiet (count + 1) doublings
    cases doublings with
    | zero => exact (room (resting.suffices asked (by omega))).elim
    | succ doublings =>
      simp only [cycles, Act.ends_bind, Act.ends_get]
      refine (cycle_ends lends backed resting asked).mono ?_
      rintro (_ | _) _ rested left
      · exact (Act.ends_pure ..).mpr (by simp)
      obtain ⟨restedBacked, resting', same, left⟩ := left rfl
      have changed : decide (rested.source.calls ≠ arena.source.calls) = true := decide_eq_true (mt same room)
      simp only [↓reduceIte, Act.ends_bind, Act.ends_get, Act.ends_pure, changed]
      have later : (cycles backing requests count).Ends rested fun answer _ _ =>
          ∀ called, answer = some called → Settles called count doublings := by
        rcases left with room' | doubled
        · refine (cycles_ends_of_suffices lends restedBacked resting' room' count).mono ?_
          rintro _ _ _ rfl _ ⟨⟩
          exact settles_quiet count doublings
        · refine ih restedBacked resting' (Nat.lt_of_lt_of_le short ?_)
          rw [Nat.pow_succ', ← Nat.mul_assoc]
          refine Nat.mul_le_mul_right _ ?_
          omega
      refine later.mono ?_
      rintro (_ | called) _ _ settles _ ⟨⟩
      exact (settles called rfl).cons

/-- Cycles of the same requests on an arena that has no node at first stop calling the backing. The ones that call it
    are the first ones, and there are at most one more of them than doublings from one byte to all footprints. -/
theorem cycles_settle (lends : backing.LendsNodes Out) {s : σ} (out : Out s []) (config : Config)
    (asked : requests ≠ []) (count : Nat) :
    (cycles backing requests count).Ends { Chain.empty with config, source := ⟨s, []⟩ } fun answer _ _ =>
      ∀ called, answer = some called → ∃ busy quiet, called = List.replicate busy true ++ List.replicate quiet false ∧
        busy + quiet = count ∧ busy ≤ Nat.log2 (requests.map Layout.footprint).sum + 1 := by
  have backed : ({ Chain.empty with config, source := ⟨s, []⟩ } : Arena (Ledger σ)).Backed (Ledger.Lent Out) :=
    .of_empty (Ledger.lent_nil out) rfl
  refine cycles_ends lends asked count backed ⟨rfl, Nat.zero_le 1⟩ ?_
  have none : Chain.empty.capacity = 0 := rfl
  rw [none, Nat.zero_add, Nat.one_mul]
  exact Nat.lt_log2_self

/-- On the heap two cycles of these requests call the backing, the first for its nodes and the second since one node
    needs more padding. -/
theorem heap_cycles_settle :
    Heap.backing.LendsNodes Heap.Lent ∧ (Heap.ofSize 4096).Lent [] ∧ tight ≠ [] ∧
      ((cycles Heap.backing tight 5).run cold).value = .ok (some [true, true, false, false, false]) ∧
      (cycles Heap.backing tight 5).Ends cold fun answer _ _ =>
        ∀ called, answer = some called → ∃ busy quiet, called = List.replicate busy true ++ List.replicate quiet false ∧
          busy + quiet = 5 ∧ busy ≤ Nat.log2 (tight.map Layout.footprint).sum + 1 := by
  have lends := Heap.contract.lendsNodes
  have out : (Heap.ofSize 4096).Lent [] := Heap.lent_ofSize (by decide)
  have asked : tight ≠ [] := by decide
  exact ⟨lends, out, asked, by decide +kernel, cycles_settle lends out .standard asked 5⟩

end Arena
end BumpArena
