import Mathlib.Data.List.Chain
import BumpArena.Proofs.Courses
import BumpArena.Proofs.Operations
import BumpArena.Proofs.Preheating

/-!
How the nodes of an arena grow. A fresh node has room for the whole node before it, for a byte more and for the slack,
scaled by the growth (`Node.Outgrows`). Older nodes keep their lengths, the head only gets longer, and a reset leaves
one node at most, so this is true of every two neighbours at any time. Hence the number of nodes is logarithmic in the
length of the head. If the backing refuses longer heads, a served request makes two calls for each node that it links
and none otherwise, so the number of calls is logarithmic as well.
-/
namespace BumpArena

namespace Node

/-- The node has room for all of the older one, a byte more and the slack, scaled by the growth. -/
def Outgrows (settings : Settings) (newer older : Node) : Prop :=
  (older.len + 1 + settings.nodeSlack) * settings.growthPercent / 100 ≤ newer.len

variable {newer older : Node}

theorem outgrows_of_nodeLength? {config : Config} {footprint : Nat} (filled : 0 < footprint)
    (sized : config.nodeLength? older.len footprint = some newer.len) : newer.Outgrows config.toSettings older := by
  obtain ⟨_, _, scaled⟩ := Config.nodeLength?_eq_some_iff.mp sized
  rw [Outgrows, ← scaled]
  apply Nat.div_le_div_right
  apply Nat.mul_le_mul_right
  omega

/-- Without a growth below a hundred percent lengths increase. -/
theorem Outgrows.lt {config : Config} (outgrows : newer.Outgrows config.toSettings older) : older.len < newer.len := by
  have scaled : older.len + 1 + config.nodeSlack ≤
      (older.len + 1 + config.nodeSlack) * config.growthPercent / 100 := by
    rw [Nat.le_div_iff_mul_le (by decide)]
    exact Nat.mul_le_mul_left _ config.growing
  rw [Outgrows] at outgrows
  omega

theorem Outgrows.three_le {settings : Settings} (outgrows : newer.Outgrows settings older)
    (half : settings.growthPercent = 150) : 3 * older.len ≤ 2 * newer.len := by
  rw [Outgrows, half] at outgrows
  omega

end Node

namespace Chain

/-- Every node outgrows the next older one. -/
def Grows (settings : Settings) (chain : Chain) : Prop := chain.nodes.IsChain (Node.Outgrows settings)

variable {settings : Settings} {config : Config} {chain chain' : Chain}

theorem grows_of_length_le_one (few : chain.nodes.length ≤ 1) : chain.Grows settings := by
  rw [Grows]
  rcases nodes : chain.nodes with _ | ⟨head, _ | ⟨next, older⟩⟩
  · exact .nil
  · exact .singleton head
  · simp [nodes] at few

theorem MakesRoom.grows {layout : Layout} (made : MakesRoom config layout chain chain')
    (grows : chain.Grows config.toSettings) : chain'.Grows config.toSettings := by
  cases made with
  | fits => exact grows
  | @grown head longer older cursor full base len =>
    cases older with
    | nil => exact .singleton longer
    | cons next older =>
      obtain ⟨outgrows, rest⟩ := List.isChain_cons_cons.mp grows
      rw [Node.Outgrows] at outgrows
      rw [Node.Fits] at full
      refine List.isChain_cons_cons.mpr ⟨?_, rest⟩
      rw [Node.Outgrows]
      omega
  | @linked _ fresh full len =>
    rw [Grows] at grows ⊢
    rcases nodes : chain.nodes with _ | ⟨head, older⟩
    · exact .singleton fresh
    · rw [nodes] at grows
      rw [headLength, nodes] at len
      exact List.isChain_cons_cons.mpr ⟨Node.outgrows_of_nodeLength? layout.footprint_pos len, grows⟩

theorem Carves.nodes_eq {layout : Layout} {block : Block} (carves : Carves layout chain block chain') :
    chain'.nodes = chain.nodes := by
  cases carves with
  | head => rfl

/-- A reset leaves one node at most. -/
theorem Resets.length_le_one {retention : Retention} {kept : Bool} (resets : chain.Resets retention kept chain') :
    chain'.nodes.length ≤ 1 := by
  cases resets with
  | cleared | failed => exact Nat.zero_le _
  | kept | resized | replaced => exact Nat.le_refl _

theorem Grows.pairwise (grows : chain.Grows config.toSettings) :
    chain.nodes.Pairwise fun newer older => older.len < newer.len := by
  have increasing : chain.nodes.IsChain fun newer older => older.len < newer.len :=
    grows.imp fun _ _ outgrows => outgrows.lt
  have transitive : IsTrans Node fun newer older => older.len < newer.len :=
    ⟨fun _ _ _ first second => Nat.lt_trans second first⟩
  exact increasing.pairwise

/-- With a growth by half every node is half as long again as the one before. -/
theorem Grows.pow_le (grows : chain.Grows settings) (half : settings.growthPercent = 150)
    (filled : ∀ node ∈ chain.nodes, 0 < node.len) {head : Node} {older : List Node}
    (nodes : chain.nodes = head :: older) : 3 ^ older.length ≤ 2 ^ older.length * head.len := by
  rw [Grows, nodes] at grows
  rw [nodes] at filled
  clear nodes
  induction older generalizing head with
  | nil => simpa using Nat.succ_le_of_lt (filled head List.mem_cons_self)
  | cons next older ih =>
    obtain ⟨outgrows, rest⟩ := List.isChain_cons_cons.mp grows
    have before := ih (fun node member => filled node (List.mem_cons_of_mem _ member)) rest
    have longer := outgrows.three_le half
    calc
      3 ^ (next :: older).length = 3 * 3 ^ older.length := Nat.pow_succ'
      _ ≤ 3 * (2 ^ older.length * next.len) := Nat.mul_le_mul_left 3 before
      _ = 2 ^ older.length * (3 * next.len) := Nat.mul_left_comm ..
      _ ≤ 2 ^ older.length * (2 * head.len) := Nat.mul_le_mul_left _ longer
      _ = 2 ^ (next :: older).length * head.len := by rw [List.length_cons, Nat.pow_succ, Nat.mul_assoc]

end Chain

/-- No block that is out for a node gets more bytes than it has. -/
def Backing.RefusesGrowth {σ : Type} (backing : Backing σ) (Out : σ → List Grant → Prop) : Prop :=
  ∀ {s before after layout addr} (newSize : Nat), Out s (before ++ layout.grant addr :: after) →
    layout.align = nodeAlignment → layout.size < newSize →
    (backing.resizeInPlace addr layout newSize).Ends s fun granted _ _ => granted = false

theorem Backing.RefusesGrowth.ledger {σ : Type} {backing : Backing σ} {Out : σ → List Grant → Prop}
    (refuses : backing.RefusesGrowth Out) : (Ledger.backing backing).RefusesGrowth (Ledger.Lent Out) := by
  intro ledger before after layout addr newSize lent asked longer
  obtain ⟨granted, trace, s', ran, none⟩ := refuses newSize lent.out asked longer
  exact ⟨granted, trace, _, Ledger.run_resizeInPlace ledger.calls ran, none⟩

/-- The heap moves no block and so lengthens none. -/
theorem Heap.refusesGrowth : Heap.backing.RefusesGrowth Heap.Lent := by
  intro heap before after layout addr newSize _ _ longer
  simp only [Heap.backing, Act.ends_pure, beq_eq_false_iff_ne, ne_eq]
  omega

namespace Arena

variable {σ : Type} {backing : Backing σ} {Out : σ → List Grant → Prop}

theorem keeps_grows (lends : backing.LendsNodes Out) (settings : Settings) :
    Keeps backing fun arena =>
      arena.Backed Out ∧ arena.config.toSettings = settings ∧ arena.toChain.Grows settings where
  sound kept := kept.1.sound lends
  alloc := by
    rintro arena layout ⟨backed, rfl, grows⟩
    refine (alloc_ends lends backed layout).mono ?_
    rintro (error | block) _ arena' ⟨backed', config, answered⟩
    · exact ⟨backed', by rw [config], by rw [answered.2]; exact grows⟩
    · obtain ⟨roomy, made, carves⟩ := answered
      refine ⟨backed', by rw [config], ?_⟩
      rw [Chain.Grows, carves.nodes_eq]
      exact made.grows grows
  reset := by
    rintro arena retention ⟨backed, rfl, _⟩
    refine (reset_ends lends backed retention).mono ?_
    rintro kept _ arena' ⟨backed', config, resets⟩
    exact ⟨backed', by rw [config], Chain.grows_of_length_le_one resets.length_le_one⟩
  moved := by
    rintro arena chain ⟨backed, rfl, grows⟩ sound nodes
    refine ⟨⟨nodes ▸ backed.out, sound.filled, sound.cursor_le⟩, rfl, ?_⟩
    rw [Chain.Grows, nodes]
    exact grows

section

variable {arena arena' : Arena (Ledger σ)} {layout : Layout} {block : Block} {trace : Trace}

/-- A served request makes no call, or two at most and links a node. -/
theorem Course.calls_le (refuses : backing.RefusesGrowth Out) (backed : arena.Backed (Ledger.Lent Out))
    (course : Course (Ledger.backing backing) layout arena (.ok block) trace arena') :
    arena'.source.calls.length + 2 * arena.nodes.length ≤ arena.source.calls.length + 2 * arena'.nodes.length := by
  obtain ⟨resizes, allocations, calls, few, few'⟩ := course.calls_eq
  have resizes_le : resizes.length ≤ 1 := by
    rcases few with rfl | ⟨_, _, _, rfl⟩
    · exact Nat.zero_le _
    · exact Nat.le_refl _
  have allocations_le : allocations.length ≤ 1 := by
    rcases few' with rfl | ⟨_, _, rfl⟩
    · exact Nat.zero_le _
    · exact Nat.le_refl _
  cases course with
  | fits => exact Nat.le_refl _
  | @grown head _ older called source nodes full asked =>
    have out := backed.out
    rw [Node.Fits] at full
    cases asked with
    | asked nodes' _ ran =>
      obtain ⟨rfl, rfl⟩ := List.cons.inj (nodes.symm.trans nodes')
      rw [nodes] at out
      have first : Ledger.Lent Out arena.source ([] ++ head.layout.grant head.base :: older.map Node.grant) := out
      have longer : head.layout.size < arena.toChain.reach layout := by
        simp only [Chain.reach, nodes, Node.layout]
        omega
      exact absurd ((refuses.ledger _ first rfl longer).of_run ran) (by decide)
  | linked =>
    rw [calls]
    simp only [List.length_append, List.length_cons]
    omega

end

/-- Over a backing that refuses longer heads, requests that are all served make two calls for each node at most. -/
theorem allocAll_calls_le (lends : backing.LendsNodes Out) (refuses : backing.RefusesGrowth Out)
    {arena : Arena (Ledger σ)} (backed : arena.Backed (Ledger.Lent Out)) (requests : List Layout) :
    (allocAll (Ledger.backing backing) requests).Ends arena fun served _ filled => served →
      filled.source.calls.length + 2 * arena.nodes.length ≤ arena.source.calls.length + 2 * filled.nodes.length := by
  have lends' := Ledger.lendsNodes lends
  induction requests generalizing arena with
  | nil => exact (Act.ends_pure ..).mpr fun _ => Nat.le_refl _
  | cons layout later ih =>
    rw [allocAll, Act.ends_bind]
    refine (alloc_course lends'.lendsBelow_limit (by decide) backed layout).mono ?_
    rintro (error | block) _ between ⟨backed', course⟩
    · exact (Act.ends_pure ..).mpr (by simp)
    · have first := course.calls_le refuses backed
      refine (ih backed').mono ?_
      intro served _ filled rest all
      have := rest all
      omega

end Arena

namespace Workspace

variable {σ : Type} {backing : Backing σ} {Out : σ → List Grant → Prop}

/-- The lengths of the nodes grow geometrically, whatever a client does and the backing refuses. Every node outgrows the
    next older one, so lengths strictly increase up to the head, and with a growth by half the head is at least as long
    as the power of three halves for the number of the nodes behind it. Over a backing that refuses longer heads it
    takes two calls for each node at most to serve requests one after the other. -/
theorem lengths_grow (lends : backing.LendsNodes Out) {s : σ} (out : Out s []) {settings : Settings}
    {created : Trace} {arena : Arena σ}
    (ready : (Arena.prepare backing settings).run (Arena.ofSource s) = ⟨.ok (.ok ()), created, arena⟩)
    (memory : Memory) (operations : List Operation) :
    ((operateAll backing operations).Ends ⟨arena, memory⟩ fun _ _ workspace =>
      workspace.arena.nodes.IsChain (Node.Outgrows settings) ∧
      workspace.arena.nodes.Pairwise (fun newer older => older.len < newer.len) ∧
      (settings.growthPercent = 150 → ∀ head older, workspace.arena.nodes = head :: older →
        3 ^ older.length ≤ 2 ^ older.length * head.len)) ∧
    (backing.RefusesGrowth Out → ∀ (config : Config) (requests : List Layout),
      (Arena.allocAll (Ledger.backing backing) requests).Ends { Chain.empty with config, source := ⟨s, []⟩ }
        fun served _ filled => served → filled.source.calls.length ≤ 2 * filled.nodes.length) := by
  constructor
  · obtain ⟨backed, valid, _, lengths⟩ := (Arena.prepare_ends lends out rfl settings).of_run ready
    have few : arena.nodes.length ≤ 1 := by
      rw [← List.length_map, lengths]
      split
      · exact Nat.zero_le _
      · exact Nat.le_refl _
    have start : arena.Backed Out ∧ arena.config.toSettings = settings ∧ arena.toChain.Grows settings :=
      ⟨backed, Settings.toSettings_of_validate valid, Chain.grows_of_length_le_one few⟩
    refine (operateAll_ends (Arena.keeps_grows lends settings) start operations).mono ?_
    rintro _ _ workspace ⟨backed', rfl, grows⟩
    exact ⟨grows, grows.pairwise, fun half head older nodes => grows.pow_le half backed'.filled nodes⟩
  · intro refuses config requests
    have start : ({ Chain.empty with config, source := ⟨s, []⟩ } : Arena (Ledger σ)).Backed (Ledger.Lent Out) :=
      .of_empty (Ledger.lent_nil out) rfl
    refine (Arena.allocAll_calls_le lends refuses start requests).mono ?_
    intro served _ filled bounded all
    simpa [Chain.empty] using bounded all

/-- Four nodes on the heap. One more request is refused, a reset collapses the chain, and it grows again. -/
theorem heap_lengths_grow :
    Heap.backing.LendsNodes Heap.Lent ∧ Heap.backing.RefusesGrowth Heap.Lent ∧ (Heap.ofSize 8192).Lent [] ∧
      ∃ created arena,
        (Arena.prepare Heap.backing (.withInitialCapacity 64)).run (Arena.ofSource (Heap.ofSize 8192)) =
          ⟨.ok (.ok ()), created, arena⟩ ∧
        ((operateAll Heap.backing
            [.alloc ⟨60, .one, by decide⟩, .allocCopy [1, 2, 3, 4, 5], .alloc ⟨300, .sixteen, by decide⟩,
              .alloc ⟨900, .one, by decide⟩, .alloc ⟨9000, .one, by decide⟩, .free ⟨Heap.base, 60⟩, .reset .capacity,
              .alloc ⟨1700, .one, by decide⟩]).Ends ⟨arena, .zero⟩ fun _ _ workspace =>
          workspace.arena.nodes.IsChain (Node.Outgrows (.withInitialCapacity 64)) ∧
          ∀ head older, workspace.arena.nodes = head :: older → 3 ^ older.length ≤ 2 ^ older.length * head.len) ∧
        (Arena.allocAll (Ledger.backing Heap.backing)
            [⟨60, .one, by decide⟩, ⟨70, .one, by decide⟩, ⟨5, .one, by decide⟩, ⟨900, .page, by decide⟩]).Ends
          { Chain.empty with config := .standard, source := ⟨Heap.ofSize 8192, []⟩ }
          fun served _ filled => served → filled.source.calls.length ≤ 2 * filled.nodes.length := by
  have lends := Heap.contract.lendsNodes
  have out : (Heap.ofSize 8192).Lent [] := Heap.lent_ofSize (by decide)
  obtain ⟨created, arena, ready⟩ : ∃ created arena,
      (Arena.prepare Heap.backing (.withInitialCapacity 64)).run (Arena.ofSource (Heap.ofSize 8192)) =
        ⟨.ok (.ok ()), created, arena⟩ := ⟨_, _, rfl⟩
  refine ⟨lends, Heap.refusesGrowth, out, created, arena, ready, ?_, ?_⟩
  · exact (lengths_grow lends out ready .zero _).1.mono fun _ _ _ grows => ⟨grows.1, grows.2.2 rfl⟩
  · exact (lengths_grow lends out ready .zero []).2 Heap.refusesGrowth .standard _

end Workspace
end BumpArena
