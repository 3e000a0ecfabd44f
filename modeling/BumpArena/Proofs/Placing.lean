import BumpArena.Proofs.Clearing
import BumpArena.Proofs.Courses

/-!
Where an arena puts a block. Over a backing whose nodes lie far enough below `Word.limit`, every block has a place
behind the cursor, inside the head or not. So what a request comes to depends on three questions only: whether this
place lies in the head, whether the head gets just long enough for it, and whether there is a fresh node
(`Arena.Places`).
-/
namespace BumpArena

/-- Twice the address at which the heap begins. -/
def Heap.ceiling : Nat := 0x200000000000

/-- A node below the ceiling has words for every place in it and behind it. -/
theorem Node.places_of_le_ceiling {node : Node} {cursor : Nat} (layout : Layout) (cursor_le : cursor ≤ node.len)
    (low : node.base + node.len ≤ Heap.ceiling) : node.Places cursor layout := by
  have before := node.start_lt cursor layout.align
  have fits := layout.fits
  have room : Heap.ceiling + Word.half < Word.limit := by decide
  constructor
  · omega
  · omega

/-- The start of a block is the only least one. -/
theorem Node.start_eq {node : Node} {cursor start : Nat} {align : Alignment}
    (least : IsLeast {offset | cursor ≤ offset ∧ align.bytes ∣ node.base + offset} start) :
    node.start cursor align = start :=
  (align.isLeast_offset node.base cursor).unique least

namespace Arena

variable {σ : Type} {backing : Backing σ} {Out : σ → List Grant → Prop} {layout : Layout} {arena arena' : Arena σ}
  {answer : Except ArenaError Block} {trace : Trace}

/-- What a request comes to if the head has room for it, or else gets it, or else there is a fresh node. -/
structure Places (backing : Backing σ) (layout : Layout) (arena : Arena σ) (answer : Except ArenaError Block)
    (trace : Trace) (arena' : Arena σ) : Prop where
  fits : ∀ {head older start}, arena.nodes = head :: older →
    IsLeast {offset | arena.cursor ≤ offset ∧ layout.align.bytes ∣ head.base + offset} start →
    start + layout.size ≤ head.len →
    answer = .ok ⟨head.base + start, layout.size⟩ ∧ trace = [] ∧ arena' = { arena with cursor := start + layout.size }
  grows : ∀ {head older start called source}, arena.nodes = head :: older →
    IsLeast {offset | arena.cursor ≤ offset ∧ layout.align.bytes ∣ head.base + offset} start →
    head.len < start + layout.size →
    AsksHead backing arena.toChain (start + layout.size) arena.source true called source →
    answer = .ok ⟨head.base + start, layout.size⟩ ∧
      trace = called ++ [.log (.headResized head.len (start + layout.size))] ∧
      ∃ longer : Node, longer.base = head.base ∧ longer.len = start + layout.size ∧
        arena' = { arena with nodes := longer :: older, cursor := start + layout.size, source }
  links : ∀ {fresh called called' source source'}, arena.toChain.Full layout →
    AsksHead backing arena.toChain (arena.toChain.reach layout) arena.source false called source →
    AsksNode backing (arena.config.nodeLength? arena.headLength (layout.size + layout.align.bytes)) source (some fresh)
      called' source' →
    ∃ addr, layout.align.alignUp? fresh.base = some addr ∧ answer = .ok ⟨addr, layout.size⟩ ∧
      trace = called ++ (called' ++ [.log (.nodeLinked fresh.len (arena.nodes.length + 1))]) ∧
      arena' = { arena with
        nodes := fresh :: arena.nodes
        cursor := addr - fresh.base + layout.size
        source := source' }

/-- Below the ceiling no request is turned down for want of a place. -/
theorem not_unplaced (low : ∀ node ∈ arena.nodes, node.base + node.len ≤ Heap.ceiling)
    (cursor_le : arena.cursor ≤ arena.headLength) {head : Node} {older : List Node}
    (nodes : arena.nodes = head :: older) :
    head.Places arena.cursor layout := by
  rw [Chain.headLength, nodes] at cursor_le
  exact Node.places_of_le_ceiling layout cursor_le (low head (by simp [nodes]))

theorem Course.places (course : Course backing layout arena answer trace arena')
    (low : ∀ node ∈ arena.nodes, node.base + node.len ≤ Heap.ceiling)
    (low' : ∀ node ∈ arena'.nodes, node.base + node.len ≤ Heap.ceiling) (cursor_le : arena.cursor ≤ arena.headLength) :
    Places backing layout arena answer trace arena' where
  fits {head older start} nodes least room := by
    obtain rfl := Node.start_eq least
    have full : ¬ arena.toChain.Full layout := fun full => full head older nodes room
    cases course with
    | fits nodes' =>
      obtain ⟨rfl, rfl⟩ := List.cons.inj (nodes.symm.trans nodes')
      exact ⟨rfl, rfl, rfl⟩
    | unplaced nodes' outside => exact (outside (not_unplaced low cursor_le nodes')).elim
    | grown nodes' full' =>
      obtain ⟨rfl, rfl⟩ := List.cons.inj (nodes.symm.trans nodes')
      exact (full' room).elim
    | linked stuck | refused stuck => exact (full stuck.full).elim
  grows {head older start called source} nodes least short asked := by
    obtain rfl := Node.start_eq least
    have reach := Chain.reach_eq nodes layout
    cases course with
    | fits nodes' room =>
      obtain ⟨rfl, rfl⟩ := List.cons.inj (nodes.symm.trans nodes')
      rw [Node.Fits] at room
      omega
    | unplaced nodes' outside => exact (outside (not_unplaced low cursor_le nodes')).elim
    | @grown _ longer _ _ _ nodes' _ asked' base len =>
      obtain ⟨rfl, rfl⟩ := List.cons.inj (nodes.symm.trans nodes')
      rw [reach] at asked' len
      obtain ⟨_, rfl, rfl⟩ := asked.unique asked'
      exact ⟨rfl, by rw [len], longer, base, len, by rw [len]⟩
    | linked stuck | refused stuck =>
      rw [← reach] at asked
      exact absurd (asked.unique stuck.asked).1 (by decide)
  links {fresh called called' source source'} full asked asked' := by
    cases course with
    | fits nodes room => exact (full _ _ nodes room).elim
    | unplaced nodes outside => exact (outside (not_unplaced low cursor_le nodes)).elim
    | grown _ _ granted => exact absurd (asked.unique granted).1 (by decide)
    | @linked made _ _ _ _ stuck granted =>
      obtain ⟨_, rfl, rfl⟩ := asked.unique stuck.asked
      obtain ⟨same, rfl, rfl⟩ := asked'.unique granted
      obtain rfl := Option.some.inj same
      have below := low' made List.mem_cons_self
      have long := Config.le_of_nodeLength? granted.len_eq
      have room : made.Fits 0 layout := Node.fits_of_footprint_le (by omega)
      have isWord : Heap.ceiling < Word.limit := by decide
      have start := made.base_add_start 0 layout.align
      rw [Node.Fits] at room
      rw [Nat.add_zero] at start
      refine ⟨made.base + made.start 0 layout.align, ?_, rfl, rfl, ?_⟩
      · rw [Alignment.alignUp?_eq_some_iff]
        exact ⟨start, by omega⟩
      · rw [Nat.add_sub_cancel_left]
    | refused stuck refused =>
      obtain ⟨_, rfl, rfl⟩ := asked.unique stuck.asked
      exact absurd (asked'.unique refused).1 (by simp)

/-- A request is settled in two rounds, and more rounds would make no difference. It asks at most once for a longer head
    and then at most once for a node. If the head has room at the least aligned offset behind the cursor, the block lies
    there, and nothing else happens; if not, and the head gets just long enough, the block lies there too; and if not,
    and a node is granted that was sized for the request, the block lies at its first aligned address. -/
theorem alloc_places {inner : Backing σ} (lends : inner.LendsBelow Heap.ceiling Out) {arena : Arena (Ledger σ)}
    (backed : arena.Backed fun ledger => Out ledger.inner) (layout : Layout) :
    ∃ answer trace arena',
      (∀ rounds, (allocWithin (Ledger.backing inner) layout (rounds + 2)).run arena = ⟨.ok answer, trace, arena'⟩) ∧
      Places (Ledger.backing inner) layout arena answer trace arena' ∧
      ∃ resizes allocations, arena'.source.calls = allocations ++ (resizes ++ arena.source.calls) ∧
        (resizes = [] ∨ ∃ grant newSize granted, resizes = [.resized grant newSize granted]) ∧
        (allocations = [] ∨ ∃ asked answered, allocations = [.ofAnswer asked answered]) := by
  have lends' := Ledger.lendsBelow lends
  obtain ⟨answer, trace, arena', backed', course, ran⟩ := exists_course lends' (by decide) backed layout
  have places := course.places (backed.nodes_le lends') (backed'.nodes_le lends') backed.cursor_le
  exact ⟨answer, trace, arena', ran, places, course.calls_eq⟩

end Arena

namespace Heap

/-- The grants lie in a window that ends below the ceiling. -/
structure Low (heap : Heap) (grants : List Grant) : Prop extends heap.Lent grants where
  limit_le : heap.limit ≤ ceiling
  finish_le : ∀ grant ∈ grants, grant.block.finish ≤ ceiling

theorem low_ofSize {size : Nat} (fits : base + size ≤ ceiling) : (ofSize size).Low [] where
  toLent := lent_ofSize (Nat.lt_of_le_of_lt fits (by decide))
  limit_le := fits
  finish_le := by simp

/-- A heap below the ceiling lends nodes below the ceiling. -/
theorem lendsNodes_low : backing.LendsNodes Low where
  spread low := low.spread
  below low := low.below
  allocate {heap grants layout} low align := by
    have limits : (backing.allocate layout).Ends heap fun answer _ heap' =>
        heap'.limit = heap.limit ∧ ∀ block, answer = .ok block → block.addr + layout.size ≤ ceiling := by
      by_cases empty : layout.size = 0
      · have small : nodeAlignment.bytes ≤ ceiling := by decide
        simpa [backing, empty, align, Block.empty] using small
      · simp only [backing, empty, ↓reduceIte, Act.ends_bind, Act.ends_get]
        rcases placed : heap.place? layout with _ | start
        · simp
        · have fits : start + layout.size ≤ heap.limit := by
            simpa using (Option.filter_eq_some_iff.mp placed).2
          simpa using Nat.le_trans fits low.limit_le
    refine ((contract.allocate low.toLent trivial).and limits).mono ?_
    rintro (refusal | block) _ heap' ⟨lent, limit, within⟩
    · exact ⟨lent, limit ▸ low.limit_le, low.finish_le⟩
    · exact ⟨lent, limit ▸ low.limit_le, List.forall_mem_cons.mpr ⟨within block rfl, low.finish_le⟩⟩
  resizeInPlace {heap before after layout addr} newSize low _ := by
    simp only [backing, Act.ends_pure, beq_iff_eq]
    split
    · next same => simpa [Grant.resized, Layout.grant, same] using low
    · exact low
  release {heap before after layout addr} low asked := by
    have stays : (backing.release addr layout).Ends heap fun _ _ heap' => heap' = heap := (Act.ends_pure ..).mpr rfl
    refine ((contract.release low.toLent trivial).and stays).mono ?_
    rintro _ _ _ ⟨lent, rfl⟩
    obtain ⟨front, behind⟩ := List.forall_mem_append.mp low.finish_le
    exact ⟨lent, low.limit_le, List.forall_mem_append.mpr ⟨front, (List.forall_mem_cons.mp behind).2⟩⟩

end Heap

/-- A request on the heap that is settled by a second node. -/
theorem Arena.heap_alloc_places :
    Heap.backing.LendsBelow Heap.ceiling Heap.Low ∧ (Heap.ofSize 4096).Low [] ∧
      ∃ first block arena,
        (Arena.alloc (Ledger.backing Heap.backing) ⟨40, .one, by decide⟩).run
            { Chain.empty with config := .standard, source := ⟨Heap.ofSize 4096, []⟩ } =
          ⟨.ok (.ok block), first, arena⟩ ∧
        ∃ answer trace arena',
          (Arena.alloc (Ledger.backing Heap.backing) ⟨200, .page, by decide⟩).run arena = ⟨.ok answer, trace, arena'⟩ ∧
          Arena.Places (Ledger.backing Heap.backing) ⟨200, .page, by decide⟩ arena answer trace arena' := by
  have lends : Heap.backing.LendsBelow Heap.ceiling Heap.Low :=
    Heap.lendsNodes_low.lendsBelow fun low => low.finish_le
  have out : (Heap.ofSize 4096).Low [] := Heap.low_ofSize (by decide)
  have start : ({ Chain.empty with config := .standard, source := ⟨Heap.ofSize 4096, []⟩ } : Arena (Ledger Heap)).Backed
      fun ledger => Heap.Low ledger.inner := .of_empty out rfl
  obtain ⟨first, block, arena, ran⟩ : ∃ first block arena,
      (Arena.alloc (Ledger.backing Heap.backing) ⟨40, .one, by decide⟩).run
        { Chain.empty with config := .standard, source := ⟨Heap.ofSize 4096, []⟩ } = ⟨.ok (.ok block), first, arena⟩ :=
    ⟨_, _, _, rfl⟩
  have backed := ((Arena.alloc_course (Ledger.lendsBelow lends) (by decide) start _).of_run ran).1
  obtain ⟨answer, trace, arena', rounds, places, _⟩ := Arena.alloc_places lends backed ⟨200, .page, by decide⟩
  exact ⟨lends, out, first, block, arena, ran, answer, trace, arena', rounds 0, places⟩

end BumpArena
