import BumpArena.Proofs.Tenancy

/-!
Which blocks an arena takes for its topmost one. It knows only addresses, so the test is compared with the
seat of the lease: the block was carved from the head and ends at the cursor (`Lease.OnTop`). The test
accepts these blocks, and besides them a block without bytes at the border between an older node and the
head (`Lease.Strays`), which has the address of the cursor although it belongs to the older node. Such a
block grows into the head; for every other lease the test is exact. The bytes of a block that has grown in
this way are bytes of the head, so from then on its seat is there.
-/
namespace BumpArena

/-- The address of the head, and zero without one. -/
def Chain.headBase (chain : Chain) : Nat :=
  match chain.nodes with
  | [] => 0
  | head :: _ => head.base

namespace Lease

/-- The lease was carved from the head and ends at the cursor. -/
def OnTop (lease : Lease) (chain : Chain) : Prop :=
  lease.seat.home + 1 = chain.nodes.length ∧ lease.seat.offset + lease.block.len = chain.cursor

/-- The lease was carved from an older node. -/
def Older (lease : Lease) (chain : Chain) : Prop := lease.seat.home + 1 < chain.nodes.length

/-- The lease has no bytes and was carved from an older node, but its address is the one of the cursor. -/
def Strays (lease : Lease) (chain : Chain) : Prop :=
  lease.Older chain ∧ lease.block.len = 0 ∧ lease.block.addr = chain.headBase + chain.cursor

instance (lease : Lease) (chain : Chain) : Decidable (lease.OnTop chain) := inferInstanceAs (Decidable (_ ∧ _))

instance (lease : Lease) (chain : Chain) : Decidable (lease.Older chain) := inferInstanceAs (Decidable (_ < _))

instance (lease : Lease) (chain : Chain) : Decidable (lease.Strays chain) :=
  inferInstanceAs (Decidable (_ ∧ _ ∧ _))

variable {lease : Lease} {chain : Chain}

theorem OnTop.head (onTop : lease.OnTop chain) (seats : chain.Seats lease.seat lease.block) :
    ∃ head older, chain.nodes = head :: older ∧ older.length = lease.seat.home ∧
      lease.block.addr = head.base + lease.seat.offset := by
  obtain ⟨newer, node, older, nodes, home, addr, _⟩ := seats
  have count := onTop.1
  have first : newer = [] := by
    rw [nodes] at count
    simp only [List.length_append, List.length_cons] at count
    exact List.length_eq_zero_iff.mp (by omega)
  subst first
  exact ⟨node, older, nodes, home, addr⟩

/-- The test by addresses accepts the lease on top and a lease that strays. -/
theorem tops_iff (sound : chain.Sound) (seats : chain.Seats lease.seat lease.block) :
    chain.Tops lease.block ↔ lease.OnTop chain ∨ lease.Strays chain := by
  constructor
  · intro tops
    have inHead := tops.seat_eq sound seats
    obtain ⟨head, behind, nodes, starts, ends⟩ := tops
    obtain ⟨newer, node, older, nodes', home, addr, fits⟩ := seats
    rw [Block.finish] at ends
    simp only [Chain.seat, nodes] at inHead
    rcases newer with _ | ⟨first, newer⟩
    · left
      obtain ⟨rfl, rfl⟩ := List.cons.inj (nodes.symm.trans nodes')
      refine ⟨by simp [nodes, home], by omega⟩
    · right
      obtain ⟨rfl, rfl⟩ := List.cons.inj (nodes.symm.trans nodes')
      have behind : lease.seat.home + 1 < chain.nodes.length := by
        rw [nodes', ← home]
        simp only [List.length_append, List.length_cons]
        omega
      have none : lease.block.len = 0 := by
        by_contra bytes
        rw [inHead (Nat.pos_of_ne_zero bytes), nodes] at behind
        simp at behind
      exact ⟨behind, none, by simp only [Chain.headBase, nodes]; omega⟩
  · rintro (onTop | ⟨behind, none, addr⟩)
    · obtain ⟨head, older, nodes, _, addr⟩ := onTop.head seats
      have ends := onTop.2
      refine ⟨head, older, nodes, by omega, ?_⟩
      rw [Block.finish]
      omega
    · rcases nodes : chain.nodes with _ | ⟨head, older⟩
      · rw [Older, nodes] at behind
        contradiction
      · simp only [Chain.headBase, nodes] at addr
        refine ⟨head, older, nodes, by omega, ?_⟩
        rw [Block.finish]
        omega

/-- A lease moves to another seat only by growing while it strays. -/
theorem reseat_eq_of_not_strays (sound : chain.Sound) (seats : chain.Seats lease.seat lease.block)
    (tops : chain.Tops lease.block) (steady : ¬ lease.Strays chain) (newSize : Nat) :
    chain.reseat lease.seat lease.block newSize = lease.seat := by
  rw [Chain.reseat]
  split
  · have onTop := ((tops_iff sound seats).mp tops).resolve_right steady
    obtain ⟨head, older, nodes, home, addr⟩ := onTop.head seats
    simp only [Chain.seat, nodes, home, addr, Nat.add_sub_cancel_left]
  · rfl

/-- The lease lies at the end of a node that the head follows and nothing of the head is in use, or at the
    beginning of a node that follows the head and the head is full. -/
def Touches (lease : Lease) (chain : Chain) : Prop :=
  ∃ node ∈ chain.nodes,
    (chain.cursor = 0 ∧ lease.seat.offset = node.len ∧ node.block.finish = chain.headBase) ∨
    (chain.cursor = chain.headLength ∧ lease.seat.offset = 0 ∧ chain.headBase + chain.headLength = node.base)

/-- A lease strays only between two nodes that touch. -/
theorem Strays.touches (sound : chain.Sound) (seats : chain.Seats lease.seat lease.block)
    (strays : lease.Strays chain) : lease.Touches chain := by
  obtain ⟨behind, none, place⟩ := strays
  obtain ⟨newer, node, older, nodes, home, addr, fits⟩ := seats
  rcases newer with _ | ⟨head, newer⟩
  · rw [Older, nodes, List.nil_append, List.length_cons, home] at behind
    omega
  have listed : node ∈ chain.nodes := by simp [nodes]
  obtain ⟨cursor, _⟩ := sound.head_room nodes
  have filled := sound.filled node listed
  have spread := sound.spread
  rw [nodes] at spread
  have apart := Block.apart_iff.mp ((List.pairwise_cons.mp spread).1 node (by simp))
  have filledHead := sound.filled head (by simp [nodes])
  simp only [Touches, Chain.headBase, Chain.headLength, nodes, List.cons_append] at place ⊢
  simp only [Node.block, Block.finish] at apart ⊢
  refine ⟨node, by simp, ?_⟩
  omega

end Lease

namespace Arena

variable {σ : Type} {arena : Arena σ}

theorem run_onChain {α : Type} {act : Act Chain α} {answer : Except Fault α} {trace : Trace} {chain : Chain}
    (ran : act.run arena.toChain = ⟨answer, trace, chain⟩) :
    (onChain act).run arena = ⟨answer, trace, { arena with toChain := chain }⟩ := by
  rw [onChain, Act.run_zoom, ran]

theorem run_remap (arena : Arena σ) (block : Block) (newSize : Nat) :
    (Arena.remap block newSize).run arena =
      ((fun granted => if granted then some { block with len := newSize } else none) <$>
        Arena.resize block newSize).run arena := by
  rw [Arena.remap, Chain.remap_eq, Act.run_map, Arena.resize, onChain, onChain, Act.run_zoom, Act.run_map, Act.run_zoom]

/-- How an arena treats a lease: as its topmost block exactly if it is on top or strays. -/
structure Judges (arena : Arena σ) (lease : Lease) : Prop where
  test : arena.toChain.isTopmost lease.block = .ok (decide (lease.OnTop arena.toChain ∨ lease.Strays arena.toChain))
  resize : ∀ newSize, (Arena.resize lease.block newSize).run arena =
    if lease.OnTop arena.toChain ∨ lease.Strays arena.toChain then
      if arena.cursor - lease.block.len + newSize ≤ arena.headLength then
        ⟨.ok true, [], { arena with cursor := arena.cursor - lease.block.len + newSize }⟩
      else ⟨.ok false, [], arena⟩
    else ⟨.ok (decide (newSize ≤ lease.block.len)), [], arena⟩
  remap : ∀ newSize, (Arena.remap lease.block newSize).run arena =
    ((fun granted => if granted then some { lease.block with len := newSize } else none) <$>
      Arena.resize lease.block newSize).run arena
  free : (Arena.free lease.block).run arena =
    ⟨.ok (), [], if lease.OnTop arena.toChain ∨ lease.Strays arena.toChain then
      { arena with cursor := arena.cursor - lease.block.len } else arena⟩

theorem judges_of_seats {lease : Lease} (sound : arena.toChain.Sound)
    (seats : arena.toChain.Seats lease.seat lease.block) : arena.Judges lease := by
  by_cases tops : arena.toChain.Tops lease.block
  · have judged := (Lease.tops_iff sound seats).mp tops
    refine ⟨?_, fun newSize => ?_, run_remap arena lease.block, ?_⟩
    · rw [Chain.isTopmost_of_tops sound tops, decide_eq_true judged]
    · have ran := Chain.run_resize_of_tops sound tops newSize
      rw [if_pos judged]
      by_cases fits : arena.cursor - lease.block.len + newSize ≤ arena.headLength
      · rw [if_pos fits] at ran ⊢
        exact run_onChain ran
      · rw [if_neg fits] at ran ⊢
        exact run_onChain ran
    · rw [if_pos judged]
      exact run_onChain (Chain.run_free_of_tops sound tops)
  · have judged := fun either => tops ((Lease.tops_iff sound seats).mpr either)
    refine ⟨?_, fun newSize => ?_, run_remap arena lease.block, ?_⟩
    · rw [Chain.isTopmost_of_not_tops sound tops, decide_eq_false judged]
    · rw [if_neg judged]
      exact run_onChain (Chain.run_resize_of_not_tops sound tops newSize)
    · rw [if_neg judged]
      exact run_onChain (Chain.run_free_of_not_tops sound tops)

/-- Without the leases that stray the test would be exact. -/
theorem Judges.exact_iff {lease : Lease} (judges : arena.Judges lease) :
    arena.toChain.isTopmost lease.block = .ok (decide (lease.OnTop arena.toChain)) ↔
      ¬ lease.Strays arena.toChain := by
  have other : lease.Strays arena.toChain → ¬ lease.OnTop arena.toChain := by
    rintro ⟨behind, _⟩ ⟨home, _⟩
    rw [Lease.Older] at behind
    omega
  rw [judges.test]
  by_cases strays : lease.Strays arena.toChain
  · simp [strays, other strays]
  · simp [strays]

/-- A lease from an older node keeps the arena as it is, unless it strays and grows. -/
theorem Judges.of_older {lease : Lease} (sound : arena.toChain.Sound) (judges : arena.Judges lease)
    (older : lease.Older arena.toChain) :
    (Arena.free lease.block).run arena = ⟨.ok (), [], arena⟩ ∧
      ∀ newSize, (Arena.resize lease.block newSize).run arena =
        if newSize ≤ lease.block.len then ⟨.ok true, [], arena⟩
        else if lease.Strays arena.toChain ∧ arena.cursor + newSize ≤ arena.headLength then
          ⟨.ok true, [], { arena with cursor := arena.cursor + newSize }⟩
        else ⟨.ok false, [], arena⟩ := by
  have below : ¬ lease.OnTop arena.toChain := by
    rintro ⟨home, _⟩
    rw [Lease.Older] at older
    omega
  have free := judges.free
  by_cases strays : lease.Strays arena.toChain
  · have none : lease.block.len = 0 := strays.2.1
    simp only [strays, or_true, ↓reduceIte, none, Nat.sub_zero] at free
    refine ⟨free, fun newSize => ?_⟩
    rw [judges.resize]
    simp only [strays, or_true, ↓reduceIte, none, Nat.sub_zero, Nat.le_zero, true_and]
    by_cases nothing : newSize = 0
    · simp [nothing, sound.cursor_le]
    · simp [nothing]
  · simp only [strays, below, or_false, ↓reduceIte] at free
    refine ⟨free, fun newSize => ?_⟩
    rw [judges.resize]
    simp only [strays, below, or_false, ↓reduceIte, false_and]
    by_cases shrinks : newSize ≤ lease.block.len
    · simp [shrinks]
    · simp [shrinks]

end Arena

namespace Tenancy

variable {σ : Type} {backing : Backing σ} {Out : σ → List Grant → Prop}

/-- Every lease lies at its seat, in every state that an arena over a backing can reach, and is treated as the
    topmost block exactly if it is on top or strays. So the test is exact for each lease that does not stray;
    one that does has no bytes and lies where an older node touches the head; and a lease from an older node
    never changes the arena but by growing while it strays. Once it has grown, its seat is in the head, where its
    bytes are, and it is judged as a lease of the head. -/
theorem judges_leases (contract : backing.Contract Out) {s : σ} (out : Out s []) {settings : Settings}
    {trace : Trace} {arena : Arena σ}
    (ready : (Arena.prepare backing settings).run (Arena.ofSource s) = ⟨.ok (.ok ()), trace, arena⟩)
    (memory : Memory) (requests : List Request) :
    (performAll backing requests).Ends (ofArena arena memory) fun _ _ tenancy =>
      ∀ lease ∈ tenancy.leases,
        tenancy.arena.toChain.Seats lease.seat lease.block ∧
        tenancy.arena.Judges lease ∧
        (tenancy.arena.toChain.isTopmost lease.block = .ok (decide (lease.OnTop tenancy.arena.toChain)) ↔
          ¬ lease.Strays tenancy.arena.toChain) ∧
        (lease.Strays tenancy.arena.toChain → lease.Touches tenancy.arena.toChain) ∧
        (lease.Older tenancy.arena.toChain →
          (Arena.free lease.block).run tenancy.arena = ⟨.ok (), [], tenancy.arena⟩ ∧
          ∀ newSize, (Arena.resize lease.block newSize).run tenancy.arena =
            if newSize ≤ lease.block.len then ⟨.ok true, [], tenancy.arena⟩
            else if lease.Strays tenancy.arena.toChain ∧ tenancy.arena.cursor + newSize ≤ tenancy.arena.headLength then
              ⟨.ok true, [], { tenancy.arena with cursor := tenancy.arena.cursor + newSize }⟩
            else ⟨.ok false, [], tenancy.arena⟩) := by
  have lends := contract.lendsNodes
  obtain ⟨backed, _⟩ := (Arena.prepare_ends lends out rfl settings).of_run ready
  refine (performAll_ends lends (.of_arena backed memory) requests).mono ?_
  rintro _ _ tenancy ⟨sound, _⟩ lease listed
  have chain := sound.lent.backed.sound lends
  have seats := sound.seated lease listed
  have judges := Arena.judges_of_seats chain seats
  exact ⟨seats, judges, judges.exact_iff, Lease.Strays.touches chain seats, judges.of_older chain⟩

/-- A head of 64 bytes is filled, a block without bytes is carved at its end, and the next request links a head
    behind it. When the block there is taken back, the lease of the older head strays and grows. -/
def strayed : List Request :=
  [.alloc ⟨64, .one, by decide⟩, .alloc ⟨0, .one, by decide⟩, .alloc ⟨8, .one, by decide⟩, .free 2]

theorem stray_grows :
    ∃ created arena trace tenancy lease resized,
      (Arena.prepare Heap.backing (.withInitialCapacity 64)).run (Arena.ofSource (Heap.ofSize 4096)) =
        ⟨.ok (.ok ()), created, arena⟩ ∧
      (performAll Heap.backing strayed).run (ofArena arena .zero) = ⟨.ok (), trace, tenancy⟩ ∧
      lease ∈ tenancy.leases ∧ lease.Older tenancy.arena.toChain ∧ ¬ lease.OnTop tenancy.arena.toChain ∧
      (Arena.resize lease.block 4).run tenancy.arena = ⟨.ok true, [], resized⟩ ∧
      tenancy.arena.cursor = 0 ∧ resized.cursor = 4 := by
  refine ⟨_, _, _, _, _, _, rfl, rfl, List.mem_cons_self, ?_, ?_, rfl, rfl, rfl⟩
  · decide
  · decide

/-- The same run, in which every lease is judged as the theorem says. -/
theorem heap_judges_leases :
    Heap.backing.Contract Heap.Lent ∧ (Heap.ofSize 4096).Lent [] ∧
      ∃ trace arena,
        (Arena.prepare Heap.backing (.withInitialCapacity 64)).run (Arena.ofSource (Heap.ofSize 4096)) =
          ⟨.ok (.ok ()), trace, arena⟩ ∧
        (performAll Heap.backing strayed).Ends (ofArena arena .zero) fun _ _ tenancy =>
          ∀ lease ∈ tenancy.leases, tenancy.arena.Judges lease := by
  have out : (Heap.ofSize 4096).Lent [] := Heap.lent_ofSize (by decide)
  obtain ⟨trace, arena, ready⟩ : ∃ trace arena,
      (Arena.prepare Heap.backing (.withInitialCapacity 64)).run (Arena.ofSource (Heap.ofSize 4096)) =
        ⟨.ok (.ok ()), trace, arena⟩ := ⟨_, _, rfl⟩
  refine ⟨Heap.contract, out, trace, arena, ready, ?_⟩
  refine (judges_leases Heap.contract out ready .zero strayed).mono ?_
  intro _ _ _ judged lease listed
  exact (judged lease listed).2.1

end Tenancy
end BumpArena
