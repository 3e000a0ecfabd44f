import BumpArena.Proofs.Estate

/-!
No command ends with a fault, whatever blocks and sizes it names. An operation adds and subtracts numbers that it reads
off the chain and the handle that it is given. The handle may be stale or foreign, so what keeps these sums and
differences in range is the chain alone (`Chain.InRange`), and every command leaves it so.
-/
namespace BumpArena

/-- The cursor lies in the head, every node has bytes and a layout, and the sums over the chain are words. -/
structure Chain.InRange (chain : Chain) : Prop where
  cursor_le : ∀ head, chain.head? = some head → chain.cursor ≤ head.len
  cursor_eq : chain.head? = none → chain.cursor = 0
  filled : ∀ node ∈ chain.nodes, 0 < node.len
  layouts : ∀ node ∈ chain.nodes, Layout.ofSize? node.len nodeAlignment = some node.layout
  remaining : chain.remaining = .ok (chain.headLength - chain.cursor)
  capacity : Word.sum (chain.nodes.map (·.len)) = .ok chain.capacity

theorem Chain.Sound.inRange {chain : Chain} (sound : chain.Sound) : chain.InRange where
  cursor_le head first := by
    obtain ⟨older, nodes⟩ := List.head?_eq_some_iff.mp first
    exact (sound.head_room nodes).1
  cursor_eq none := by
    have below := sound.cursor_le
    rw [headLength, List.head?_eq_none_iff.mp none] at below
    exact Nat.le_zero.mp below
  filled := sound.filled
  layouts _ _ := Layout.ofSize?_eq_some_iff.mpr ⟨rfl, rfl⟩
  remaining := remaining_eq sound
  capacity := by
    rw [chain.capacity_eq]
    exact Word.sum_of_lt (chain.capacity_eq ▸ sound.capacity_lt)

namespace Estate

variable {σ : Type} {backing : Backing σ} {Out : σ → List Grant → Prop}

/-- Every run of commands over a backing that keeps its promise ends, and with a chain that is in range. A fault would
    be a sum or a difference that is no word, a node without a layout, or a request that is never settled. -/
theorem never_faults (lends : backing.LendsNodes Out) {s : σ} (out : Out s []) (commands : List Command) :
    (carryOutAll backing commands).Ends (ofSource s) fun _ _ estate =>
      estate.holding.asArena.toChain.InRange ∧
      ∀ command, (carryOut backing command).Ends estate fun _ _ estate' =>
        estate'.holding.asArena.toChain.InRange := by
  have start : (ofSource s).Sound Out := .of_ofSource out
  have inRange {estate : Estate σ} (sound : estate.Sound Out) : estate.holding.asArena.toChain.InRange :=
    (sound.sound (lendsNodes_beside lends estate.lost)).inRange
  refine (carryOutAll_ends lends start commands).mono ?_
  rintro _ _ estate ⟨sound, _⟩
  refine ⟨inRange sound, ?_⟩
  intro command
  refine (carryOut_ends lends sound command).mono ?_
  intro _ _ estate' step
  exact inRange step.sound

/-- Blocks at both ends of the address space, stale ones and foreign ones, before and after the chain moves. -/
theorem heap_never_faults :
    Heap.backing.LendsNodes Heap.Lent ∧ (Heap.ofSize 4096).Lent [] ∧
      (carryOutAll Heap.backing
          [.create (.withInitialCapacity 64), .alloc ⟨40, .one, by decide⟩,
            .free ⟨Word.limit - 1, Word.limit - 1⟩, .resize ⟨0, 0⟩ (Word.limit - 1), .alloc ⟨200, .page, by decide⟩,
            .free ⟨Heap.base, 40⟩, .remap ⟨Heap.base, 40⟩ (Word.limit - 1), .reset .capacity, .detach,
            .attach ⟨0, 100, 0⟩, .free ⟨Heap.base, 40⟩, .reset (.atMost (Word.limit - 1)), .detach, .promote,
            .alloc ⟨1, .one, by decide⟩, .detach, .abandon]).Ends (ofSource (Heap.ofSize 4096)) fun _ _ estate =>
        estate.holding.asArena.toChain.InRange := by
  have lends := Heap.contract.lendsNodes
  have out : (Heap.ofSize 4096).Lent [] := Heap.lent_ofSize (by decide)
  exact ⟨lends, out, (never_faults lends out _).mono fun _ _ _ safe => safe.1⟩

end Estate
end BumpArena
