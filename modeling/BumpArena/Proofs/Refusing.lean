import BumpArena.Proofs.Estate
import BumpArena.Proofs.Placing

/-!
When an arena turns a request down, and what is left then. It does so exactly if it can do nothing for the request
(`Arena.Helpless`): the head has no room, it gets no longer, and there is no fresh node. The arena is then as it was,
but for the calls that were made in vain (`Arena.Spares`), so it serves what it could serve before. All three ways to
ask for a block agree on this.
-/
namespace BumpArena

namespace Arena

variable {σ : Type} {backing : Backing σ} {layout : Layout}

/-- The head has no room for the request and gets no longer, and there is no fresh node. -/
def Helpless (backing : Backing σ) (layout : Layout) (arena : Arena σ) : Prop :=
  arena.toChain.Full layout ∧ ∃ called source called' source',
    AsksHead backing arena.toChain (arena.toChain.reach layout) arena.source false called source ∧
    AsksNode backing (arena.config.nodeLength? arena.headLength (layout.size + layout.align.bytes)) source none called'
      source'

/-- Below the ceiling a request is turned down exactly if the arena can do nothing for it. -/
theorem Course.error_iff {arena arena' : Arena σ} {answer : Except ArenaError Block} {trace : Trace}
    (course : Course backing layout arena answer trace arena')
    (low : ∀ node ∈ arena.nodes, node.base + node.len ≤ Heap.ceiling) (cursor_le : arena.cursor ≤ arena.headLength) :
    (∃ error, answer = .error error) ↔ Helpless backing layout arena := by
  cases course with
  | fits nodes room =>
    refine ⟨by simp, ?_⟩
    rintro ⟨full, _⟩
    exact (full _ _ nodes room).elim
  | unplaced nodes outside => exact (outside (not_unplaced low cursor_le nodes)).elim
  | grown _ _ granted =>
    refine ⟨by simp, ?_⟩
    rintro ⟨_, _, _, _, _, refused, _⟩
    exact absurd (granted.unique refused).1 (by decide)
  | linked stuck granted =>
    refine ⟨by simp, ?_⟩
    rintro ⟨_, _, _, _, _, asked, refused⟩
    obtain ⟨_, _, rfl⟩ := stuck.asked.unique asked
    exact absurd (granted.unique refused).1 (by simp)
  | refused stuck refused => exact ⟨fun _ => ⟨stuck.full, _, _, _, _, stuck.asked, refused⟩, fun _ => ⟨_, rfl⟩⟩

variable {inner : Backing σ} {arena arena' : Arena (Ledger σ)}

/-- Nothing has changed but the journal and the state of the backing. The same blocks are out, and every request for
    which the head had room is served as it would have been. -/
structure Spares (inner : Backing σ) (arena arena' : Arena (Ledger σ)) : Prop where
  chain : arena'.toChain = arena.toChain
  config : arena'.config = arena.config
  outstanding : Ledger.outstanding arena'.source.calls = Ledger.outstanding arena.source.calls
  serves : ∀ request head older, arena.nodes = head :: older → head.Fits arena.cursor request →
    ∀ later, later = arena ∨ later = arena' →
      (alloc (Ledger.backing inner) request).run later = ⟨.ok (.ok (head.carving arena.cursor request)), [],
        { later with cursor := head.start arena.cursor request.align + request.size }⟩

/-- A request that is turned down gets this error, and exactly if the arena can do nothing for it. -/
def Declines {ε α : Type} (inner : Backing σ) (layout : Layout) (refusal : ε) (arena : Arena (Ledger σ))
    (answer : Except ε α) (arena' : Arena (Ledger σ)) : Prop :=
  ((∃ error, answer = .error error) ↔ Helpless (Ledger.backing inner) layout arena) ∧
    ∀ error, answer = .error error → error = refusal ∧ Spares inner arena arena'

theorem Declines.map {ε α β : Type} {refusal : ε} {answer : Except ε α}
    (declines : Declines inner layout refusal arena answer arena')
    (f : α → β) : Declines inner layout refusal arena (answer.map f) arena' := by
  cases answer with
  | ok => simpa [Declines, Except.map] using declines
  | error => simpa [Declines, Except.map] using declines

/-- A call in vain leaves out what was out. -/
theorem AsksHead.outstanding_eq {chain : Chain} {length : Nat} {called : Trace} {ledger ledger' : Ledger σ}
    (asks : AsksHead (Ledger.backing inner) chain length ledger false called ledger') :
    Ledger.outstanding ledger'.calls = Ledger.outstanding ledger.calls := by
  rcases asks.calls_cases with ⟨_, rfl, _⟩ | ⟨head, older, _, _, calls⟩
  · rfl
  · rw [calls]
    rfl

theorem AsksNode.outstanding_eq {length? : Option Nat} {called : Trace} {ledger ledger' : Ledger σ}
    (asks : AsksNode (Ledger.backing inner) length? ledger none called ledger') :
    Ledger.outstanding ledger'.calls = Ledger.outstanding ledger.calls := by
  rcases asks.calls_cases with ⟨_, rfl, _⟩ | ⟨_, asked, _, _, ⟨_, calls⟩ | ⟨fresh, some, _⟩⟩
  · rfl
  · rw [calls]
    rfl
  · contradiction

variable {Out : Ledger σ → List Grant → Prop}

theorem Course.spares (lends : (Ledger.backing inner).LendsBelow Heap.ceiling Out) (backed : arena.Backed Out)
    {error : ArenaError} {trace : Trace}
    (course : Course (Ledger.backing inner) layout arena (.error error) trace arena') :
    error = .outOfMemory layout.size layout.align.bytes ∧ Spares inner arena arena' := by
  have isWord : Heap.ceiling < Word.limit := by decide
  cases course with
  | unplaced nodes outside => exact (outside (not_unplaced (backed.nodes_le lends) backed.cursor_le nodes)).elim
  | refused stuck asked =>
    refine ⟨rfl, rfl, rfl, asked.outstanding_eq.trans stuck.asked.outstanding_eq, ?_⟩
    intro request head older nodes fits later either
    obtain ⟨cursor_le, below⟩ := backed.room lends nodes
    have chain : later.toChain = arena.toChain := by
      rcases either with rfl | rfl
      · rfl
      · rfl
    rw [← chain] at nodes cursor_le fits ⊢
    exact run_allocWithin_of_room nodes cursor_le (by omega) fits 1

theorem alloc_declines (lends : (Ledger.backing inner).LendsBelow Heap.ceiling Out) (backed : arena.Backed Out)
    (layout : Layout) :
    (alloc (Ledger.backing inner) layout).Ends arena fun answer _ arena' =>
      Declines inner layout (.outOfMemory layout.size layout.align.bytes) arena answer arena' := by
  refine (alloc_course lends (by decide) backed layout).mono ?_
  rintro answer trace arena' ⟨_, course⟩
  refine ⟨course.error_iff (backed.nodes_le lends) backed.cursor_le, ?_⟩
  rintro error rfl
  exact course.spares lends backed

/-- A copy is declined as the request for its block is. -/
theorem allocCopy_declines (lends : (Ledger.backing inner).LendsBelow Heap.ceiling Out) (backed : arena.Backed Out)
    {bytes : List UInt8} (sized : Layout.ofSize? bytes.length .one = some layout) (memory : Memory) :
    (allocCopy (Ledger.backing inner) bytes memory).Ends arena fun answer _ arena' =>
      Declines inner layout (.outOfMemory layout.size layout.align.bytes) arena answer arena' := by
  simp only [allocCopy, sized, Act.ends_bind, Act.ends_pure]
  exact (alloc_declines lends backed layout).mono fun _ _ _ declines => declines.map _

theorem allocate_declines (lends : (Ledger.backing inner).LendsBelow Heap.ceiling Out) (backed : arena.Backed Out)
    (layout : Layout) :
    ((asBacking (Ledger.backing inner)).allocate layout).Ends arena fun answer _ arena' =>
      Declines inner layout (.ofLayout layout) arena answer arena' := by
  simp only [asBacking, Act.ends_bind]
  refine (alloc_declines lends backed layout).mono ?_
  rintro (error | block) _ arena' ⟨helpless, spares⟩
  · refine (Act.ends_pure ..).mpr ⟨⟨fun _ => helpless.mp ⟨error, rfl⟩, fun _ => ⟨_, rfl⟩⟩, ?_⟩
    rintro refusal declined
    exact ⟨(Except.error.inj declined).symm, (spares error rfl).2⟩
  · refine (Act.ends_pure ..).mpr ?_
    simpa [Declines] using helpless

end Arena

namespace Estate

variable {σ : Type} {backing : Backing σ} {Out : σ → List Grant → Prop}

/-- In every state that an arena can reach over a backing below the ceiling, a request is turned down exactly if the
    head has no room for it, the head gets no longer and there is no fresh node. The error repeats the request, and
    but for calls in vain everything is as before: the chain, the blocks that are out, and what becomes of any request
    for which the head had room. A copy and a request to the arena as a backing go the same way. -/
theorem declines_helpless (lends : backing.LendsNodes Out)
    (low : ∀ {s grants}, Out s grants → ∀ grant ∈ grants, grant.block.finish ≤ Heap.ceiling) {s : σ} (out : Out s [])
    (commands : List Command) :
    (carryOutAll (Ledger.backing backing) commands).Ends (ofSource ⟨s, []⟩) fun _ _ estate =>
      ∀ arena, estate.holding = .running arena → ∀ layout : Layout,
        ((Arena.alloc (Ledger.backing backing) layout).Ends arena fun answer _ arena' =>
          Arena.Declines backing layout (.outOfMemory layout.size layout.align.bytes) arena answer arena') ∧
        (∀ bytes memory, Layout.ofSize? bytes.length .one = some layout →
          (Arena.allocCopy (Ledger.backing backing) bytes memory).Ends arena fun answer _ arena' =>
            Arena.Declines backing layout (.outOfMemory layout.size layout.align.bytes) arena answer arena') ∧
        (((Arena.asBacking (Ledger.backing backing)).allocate layout).Ends arena fun answer _ arena' =>
          Arena.Declines backing layout (.ofLayout layout) arena answer arena') := by
  have lends' := Ledger.lendsNodes lends
  have start : (ofSource ⟨s, []⟩ : Estate (Ledger σ)).Sound (Ledger.Lent Out) := .of_ofSource (Ledger.lent_nil out)
  refine (carryOutAll_ends lends' start commands).mono ?_
  rintro _ _ estate ⟨sound, _⟩ arena holding layout
  have backed : arena.Backed (Beside (Ledger.Lent Out) estate.lost) := by
    rw [Sound, holding] at sound
    exact sound
  have below : (Ledger.backing backing).LendsBelow Heap.ceiling (Beside (Ledger.Lent Out) estate.lost) :=
    (lendsNodes_beside lends' estate.lost).lendsBelow fun lent grant member =>
      low lent.out grant (List.mem_append_left _ member)
  exact ⟨Arena.alloc_declines below backed layout,
    fun _ memory sized => Arena.allocCopy_declines below backed sized memory,
    Arena.allocate_declines below backed layout⟩

/-- On the heap, after a run in which a chain was abandoned: a page-aligned request is declined. -/
theorem heap_declines_helpless :
    Heap.backing.LendsNodes Heap.Low ∧ (Heap.ofSize 4096).Low [] ∧
      ∃ trace estate arena trace' arena',
        (carryOutAll (Ledger.backing Heap.backing)
            [.create .standard, .alloc ⟨40, .one, by decide⟩, .detach, .abandon, .create (.withInitialCapacity 64),
              .alloc ⟨40, .one, by decide⟩, .alloc ⟨5000, .page, by decide⟩]).run (ofSource ⟨Heap.ofSize 4096, []⟩) =
          ⟨.ok (), trace, estate⟩ ∧
        estate.holding = .running arena ∧ arena.nodes.length = 1 ∧
        (Arena.alloc (Ledger.backing Heap.backing) ⟨5000, .page, by decide⟩).run arena =
          ⟨.ok (.error (.outOfMemory 5000 4096)), trace', arena'⟩ ∧
        Arena.Helpless (Ledger.backing Heap.backing) ⟨5000, .page, by decide⟩ arena ∧
        Arena.Spares Heap.backing arena arena' := by
  have out : (Heap.ofSize 4096).Low [] := Heap.low_ofSize (by decide)
  obtain ⟨trace, estate, arena, trace', arena', ran, holding, one, allocated⟩ : ∃ trace estate arena trace' arena',
      (carryOutAll (Ledger.backing Heap.backing)
          [.create .standard, .alloc ⟨40, .one, by decide⟩, .detach, .abandon, .create (.withInitialCapacity 64),
            .alloc ⟨40, .one, by decide⟩, .alloc ⟨5000, .page, by decide⟩]).run (ofSource ⟨Heap.ofSize 4096, []⟩) =
        ⟨.ok (), trace, estate⟩ ∧
      estate.holding = .running arena ∧ arena.nodes.length = 1 ∧
      (Arena.alloc (Ledger.backing Heap.backing) ⟨5000, .page, by decide⟩).run arena =
        ⟨.ok (.error (.outOfMemory 5000 4096)), trace', arena'⟩ := ⟨_, _, _, _, _, rfl, rfl, rfl, rfl⟩
  have declines := (declines_helpless Heap.lendsNodes_low (fun low => low.finish_le) out _).of_run ran
  obtain ⟨helpless, spares⟩ := (declines arena holding ⟨5000, .page, by decide⟩).1.of_run allocated
  exact ⟨Heap.lendsNodes_low, out, trace, estate, arena, trace', arena', ran, holding, one, allocated,
    helpless.mp ⟨_, rfl⟩, (spares _ rfl).2⟩

end Estate
end BumpArena
