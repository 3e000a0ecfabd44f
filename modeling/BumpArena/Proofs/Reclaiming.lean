import BumpArena.Proofs.Estate
import BumpArena.Proofs.Mirroring

/-!
What a reset leaves of an arena, and in which order the nodes go back. Every node but the oldest goes back, newest
first (`Arena.Released`), and the answers of the backing decide what becomes of the oldest one (`Arena.Remains`): it
stays, or it is resized where it is, or a fresh node takes its place. Only when the backing refuses both is the answer
`false`, and then no node is left. The arena has the capacity it should have or none, and never more than before.
-/
namespace BumpArena

theorem Retention.target_le (retention : Retention) (capacity : Nat) : retention.target capacity ≤ capacity := by
  cases retention with
  | nothing => exact Nat.zero_le _
  | capacity => exact Nat.le_refl _
  | atMost limit => exact Nat.min_le_right ..

/-- The block that a call gives back. -/
def Call.released? : Call → Option Grant
  | released grant => some grant
  | _ => none

/-- The blocks that these calls give back, in the order of the calls. -/
def Ledger.releases (calls : List Call) : List Grant := calls.filterMap Call.released?

namespace Arena

variable {σ : Type} {inner : Backing σ} {ledger later : Ledger σ} {oldest : Node} {target : Nat} {kept : Bool}
  {left : List Node} {called : Trace}

/-- The nodes went back in this order, and no other call was made meanwhile. -/
structure Released (inner : Backing σ) (nodes : List Node) (ledger later : Ledger σ) : Prop where
  gave : ∃ called, GivesBack (Ledger.backing inner) nodes ledger called later
  calls : later.calls = (nodes.map fun node => Call.released node.grant).reverse ++ ledger.calls

theorem GivesBack.released {nodes : List Node} (gives : GivesBack (Ledger.backing inner) nodes ledger called later) :
    Released inner nodes ledger later := by
  refine ⟨⟨called, gives⟩, ?_⟩
  induction gives with
  | nil => rfl
  | cons ran _ ih =>
    rw [ih, Ledger.calls_of_run_release ran, List.map_cons, List.reverse_cons, List.append_assoc]
    rfl

theorem Released.releases_eq {nodes : List Node} (released : Released inner nodes ledger later) :
    Ledger.releases later.calls = (nodes.map Node.grant).reverse ++ Ledger.releases ledger.calls := by
  have gone (grants : List Grant) : Ledger.releases (grants.map Call.released) = grants := by
    simp [Ledger.releases, List.filterMap_map, Function.comp_def, Call.released?]
  rw [released.calls, ← List.map_reverse, ← Function.comp_def, ← List.map_map, Ledger.releases, List.filterMap_append]
  exact congrArg (· ++ Ledger.releases ledger.calls) ((gone _).trans List.map_reverse)

/-- A call for another length gives nothing back. -/
theorem AsksHead.releases_eq {chain : Chain} {length : Nat} {granted : Bool}
    (asks : AsksHead (Ledger.backing inner) chain length ledger granted called later) :
    Ledger.releases later.calls = Ledger.releases ledger.calls := by
  rcases asks.calls_cases with ⟨_, rfl, _⟩ | ⟨head, older, _, _, calls⟩
  · rfl
  · rw [calls]
    rfl

theorem AsksNode.releases_eq {length? : Option Nat} {node? : Option Node}
    (asks : AsksNode (Ledger.backing inner) length? ledger node? called later) :
    Ledger.releases later.calls = Ledger.releases ledger.calls := by
  rcases asks.calls_cases with ⟨_, rfl, _⟩ | ⟨_, asked, _, _, ⟨_, calls⟩ | ⟨fresh, _, _, calls⟩⟩
  · rfl
  · rw [calls]
    rfl
  · rw [calls]
    rfl

/-- The oldest node does not get this length, and there is no fresh node of this length. A length that has no layout
    counts as refused. -/
def Denied (inner : Backing σ) (oldest : Node) (target : Nat) (ledger : Ledger σ) : Prop :=
  ∃ called asked called' denied, AsksHead (Ledger.backing inner) ⟨[oldest], 0⟩ target ledger false called asked ∧
    AsksNode (Ledger.backing inner) (some target) asked none called' denied

/-- What becomes of the oldest node, which alone is left, when `target` bytes are to be kept: the answer of the reset,
    and the nodes and the journal at its end. -/
inductive Remains (inner : Backing σ) (oldest : Node) (target : Nat) (ledger : Ledger σ) :
    Bool → List Node → Ledger σ → Prop where
  | same (len : oldest.len = target) : Remains inner oldest target ledger true [oldest] ledger
  | resized {node : Node} {called : Trace} {later : Ledger σ} (other : oldest.len ≠ target)
    (granted : AsksHead (Ledger.backing inner) ⟨[oldest], 0⟩ target ledger true called later)
    (base : node.base = oldest.base) (len : node.len = target) : Remains inner oldest target ledger true [node] later
  | replaced {fresh : Node} {called called' : Trace} {asked obtained last : Ledger σ} (other : oldest.len ≠ target)
    (refused : AsksHead (Ledger.backing inner) ⟨[oldest], 0⟩ target ledger false called asked)
    (granted : AsksNode (Ledger.backing inner) (some target) asked (some fresh) called' obtained)
    (len : fresh.len = target) (released : Released inner [oldest] obtained last) :
    Remains inner oldest target ledger true [fresh] last
  | failed {called called' : Trace} {asked denied last : Ledger σ} (other : oldest.len ≠ target)
    (refused : AsksHead (Ledger.backing inner) ⟨[oldest], 0⟩ target ledger false called asked)
    (turnedDown : AsksNode (Ledger.backing inner) (some target) asked none called' denied)
    (released : Released inner [oldest] denied last) : Remains inner oldest target ledger false [] last

theorem Retains.remains (retains : Retains (Ledger.backing inner) oldest target ledger kept left later) :
    Remains inner oldest target ledger kept left later := by
  cases retains with
  | kept len => exact .same len
  | renewed other asked renews =>
    cases renews with
    | resized base len => exact .resized other asked base len
    | replaced granted gave =>
      exact .replaced other asked granted (Option.some.inj granted.len_eq).symm gave.released
    | failed refused gave => exact .failed other asked refused gave.released

namespace Remains

/-- A reset fails exactly if the oldest node has another length, does not get this one, and no fresh node has it. -/
theorem failed_iff (remains : Remains inner oldest target ledger kept left later) :
    kept = false ↔ oldest.len ≠ target ∧ Denied inner oldest target ledger := by
  -- A call has one answer only, so what was granted on the way was not refused.
  cases remains with
  | same len => simp [len]
  | resized other granted =>
    refine ⟨by simp, ?_⟩
    rintro ⟨_, _, _, _, _, refused, _⟩
    exact absurd (granted.unique refused).1 (by decide)
  | replaced other refused granted =>
    refine ⟨by simp, ?_⟩
    rintro ⟨_, _, _, _, _, also, turnedDown⟩
    obtain ⟨_, _, rfl⟩ := refused.unique also
    exact absurd (granted.unique turnedDown).1 (by simp)
  | failed other refused turnedDown => exact ⟨fun _ => ⟨other, _, _, _, _, refused, turnedDown⟩, fun _ => rfl⟩

theorem capacity_eq (remains : Remains inner oldest target ledger kept left later) :
    (⟨left, 0⟩ : Chain).capacity = if kept then target else 0 := by
  cases remains with
  | same len | resized _ _ _ len | replaced _ _ _ len => simp [Chain.capacity, len]
  | failed => rfl

/-- The oldest node goes back once, or it stays at its address. -/
theorem releases_eq (remains : Remains inner oldest target ledger kept left later) :
    (∃ node, left = [node] ∧ node.base = oldest.base ∧ Ledger.releases later.calls = Ledger.releases ledger.calls) ∨
      Ledger.releases later.calls = oldest.grant :: Ledger.releases ledger.calls := by
  cases remains with
  | same => exact .inl ⟨oldest, rfl, rfl, rfl⟩
  | @resized node _ _ _ granted base => exact .inl ⟨node, rfl, base, granted.releases_eq⟩
  | replaced _ refused granted _ released | failed _ refused granted released =>
    right
    rw [released.releases_eq, granted.releases_eq, refused.releases_eq]
    rfl

end Remains

variable {retention : Retention} {arena arena' : Arena (Ledger σ)}

/-- What a reset promises. -/
structure Reclaims (inner : Backing σ) (retention : Retention) (arena : Arena (Ledger σ)) (kept : Bool)
    (arena' : Arena (Ledger σ)) : Prop where
  cursor_eq : arena'.cursor = 0
  config_eq : arena'.config = arena.config
  cleared : retention.target arena.toChain.capacity = 0 →
    kept = true ∧ arena'.nodes = [] ∧ Released inner arena.nodes arena.source arena'.source
  settled : retention.target arena.toChain.capacity ≠ 0 → ∃ newer oldest later, arena.nodes = newer ++ [oldest] ∧
    Released inner newer arena.source later ∧
    Remains inner oldest (retention.target arena.toChain.capacity) later kept arena'.nodes arena'.source ∧
    (kept = false ↔
      oldest.len ≠ retention.target arena.toChain.capacity ∧
        Denied inner oldest (retention.target arena.toChain.capacity) later)
  capacity_eq : arena'.toChain.capacity = if kept then retention.target arena.toChain.capacity else 0
  /-- Each node went back once, newest first. The oldest one may have stayed at its address. -/
  released : ∃ gone stayed, arena.nodes = gone ++ stayed ∧
    Ledger.releases arena'.source.calls = (gone.map Node.grant).reverse ++ Ledger.releases arena.source.calls ∧
    (stayed = [] ∨ ∃ oldest node, stayed = [oldest] ∧ arena'.nodes = [node] ∧ node.base = oldest.base)

theorem Clears.reclaims (clears : Clears (Ledger.backing inner) retention arena kept arena') :
    Reclaims inner retention arena kept arena' := by
  cases clears with
  | cleared zero gave =>
    refine ⟨rfl, rfl, fun _ => ⟨rfl, rfl, gave.released⟩, fun positive => (positive zero).elim, ?_, ?_⟩
    · rw [zero]
      rfl
    · exact ⟨arena.nodes, [], (List.append_nil _).symm, gave.released.releases_eq, .inl rfl⟩
  | @settled newer left oldest _ _ _ _ positive nodes gave retains =>
    have remains := retains.remains
    refine ⟨rfl, rfl, fun zero => (positive zero).elim, ?_, remains.capacity_eq, ?_⟩
    · exact fun _ => ⟨newer, oldest, _, nodes, gave.released, remains, remains.failed_iff⟩
    · rcases remains.releases_eq with ⟨node, single, base, same⟩ | once
      · refine ⟨newer, [oldest], nodes, ?_, .inr ⟨oldest, node, rfl, single, base⟩⟩
        exact same.trans gave.released.releases_eq
      · refine ⟨arena.nodes, [], (List.append_nil _).symm, ?_, .inl rfl⟩
        rw [once, gave.released.releases_eq, nodes, List.map_append, List.reverse_append]
        rfl

theorem Reclaims.capacity_le (reclaims : Reclaims inner retention arena kept arena') :
    arena'.toChain.capacity ≤ retention.target arena.toChain.capacity := by
  rw [reclaims.capacity_eq]
  cases kept with
  | false => exact Nat.zero_le _
  | true => exact Nat.le_refl _

end Arena

namespace Estate

variable {σ : Type} {backing : Backing σ} {Out : σ → List Grant → Prop}

/-- In every state that an arena can reach, and whatever the backing answers, a reset keeps its promise: it ends at
    the beginning of one node of the length it should have, or of none, and gives each other node back once. It fails
    exactly if the backing refuses both to resize the oldest node and to lend a fresh one. -/
theorem resets_to_target (lends : backing.LendsNodes Out) {s : σ} (out : Out s []) (commands : List Command) :
    (carryOutAll (Ledger.backing backing) commands).Ends (ofSource ⟨s, []⟩) fun _ _ estate =>
      ∀ arena, estate.holding = .running arena → ∀ retention,
        (Arena.reset (Ledger.backing backing) retention).Ends arena fun kept _ arena' =>
          Arena.Reclaims backing retention arena kept arena' ∧
          arena'.toChain.capacity ≤ arena.toChain.capacity ∧
          ∀ limit, retention = .atMost limit → arena'.toChain.capacity ≤ limit := by
  refine (reaches_backed lends out commands).mono ?_
  intro _ _ estate backed arena holding retention
  have lends' := lendsNodes_beside (Ledger.lendsNodes lends) estate.lost
  refine (Arena.reset_clears lends' (backed arena holding) retention).mono ?_
  rintro kept _ arena' ⟨_, clears⟩
  have reclaims := clears.reclaims
  refine ⟨reclaims, Nat.le_trans reclaims.capacity_le (retention.target_le _), ?_⟩
  rintro limit rfl
  exact Nat.le_trans reclaims.capacity_le (Nat.min_le_left ..)

/-- An arena of two nodes on a heap, which grants a fresh node of 100 bytes for both. -/
theorem heap_resets_to_target :
    Heap.backing.LendsNodes Heap.Lent ∧ (Heap.ofSize 4096).Lent [] ∧
      ∃ trace estate arena,
        (carryOutAll (Ledger.backing Heap.backing)
            [.create (.withInitialCapacity 64), .alloc ⟨40, .one, by decide⟩, .alloc ⟨60, .one, by decide⟩]).run
          (ofSource ⟨Heap.ofSize 4096, []⟩) = ⟨.ok (), trace, estate⟩ ∧
        estate.holding = .running arena ∧ arena.nodes.length = 2 ∧
        (Arena.reset (Ledger.backing Heap.backing) (.atMost 100)).Ends arena fun kept _ arena' =>
          Arena.Reclaims Heap.backing (.atMost 100) arena kept arena' ∧ arena'.toChain.capacity ≤ 100 := by
  have lends := Heap.contract.lendsNodes
  have out : (Heap.ofSize 4096).Lent [] := Heap.lent_ofSize (by decide)
  obtain ⟨trace, estate, arena, ran, holding, two⟩ : ∃ trace estate arena,
      (carryOutAll (Ledger.backing Heap.backing)
          [.create (.withInitialCapacity 64), .alloc ⟨40, .one, by decide⟩, .alloc ⟨60, .one, by decide⟩]).run
        (ofSource ⟨Heap.ofSize 4096, []⟩) = ⟨.ok (), trace, estate⟩ ∧
      estate.holding = .running arena ∧ arena.nodes.length = 2 := ⟨_, _, _, rfl, rfl, rfl⟩
  refine ⟨lends, out, trace, estate, arena, ran, holding, two, ?_⟩
  refine ((resets_to_target lends out _).of_run ran arena holding (.atMost 100)).mono ?_
  rintro _ _ _ ⟨reclaims, _, limited⟩
  exact ⟨reclaims, limited 100 rfl⟩

end Estate
end BumpArena
