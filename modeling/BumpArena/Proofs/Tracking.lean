import BumpArena.Backing.Counted
import BumpArena.Proofs.Lending

/-!
What a counter knows of its client. The counter lists the blocks that are out by their addresses, so it can list all of
them (`SpanMap.Lists`) only while no two of them start at the same address. Blocks with bytes never do, but a backing
may give any two blocks without bytes one address. The first block that shares its address with another one is where
the counter loses track (`Client.exact_iff_distinct`).
-/
namespace BumpArena

/-- The span of a grant. -/
def Grant.span (grant : Grant) : Span := ⟨grant.block.addr, grant.block.len⟩

@[simp] theorem Grant.span_start (grant : Grant) : grant.span.start = grant.block.addr := rfl

namespace SpanMap

/-- The spans of the map are those of the grants, each of them once. -/
def Lists (map : SpanMap) (grants : List Grant) : Prop := map.spans.Perm (grants.map Grant.span)

theorem lists_nil : empty.Lists [] := .nil

variable {map : SpanMap} {grants before after : List Grant} {grant : Grant}

theorem Lists.size_eq (lists : map.Lists grants) : map.size = grants.length := by
  rw [size, List.Perm.length_eq lists, List.length_map]

theorem Lists.total_eq (lists : map.Lists grants) : map.total = (grants.map (·.block.len)).sum := by
  rw [SpanMap.total_eq, (List.Perm.map _ lists).sum_eq, List.map_map]
  rfl

theorem Lists.distinct (lists : map.Lists grants) : (grants.map (·.block.addr)).Nodup := by
  have starts : (map.spans.map (·.start)).Nodup := List.pairwise_map.mpr (map.sorted.imp Nat.ne_of_lt)
  have same := (List.Perm.map (·.start) lists).nodup_iff.mp starts
  rwa [List.map_map] at same

theorem Lists.find?_middle (lists : map.Lists (before ++ grant :: after)) :
    map.find? grant.block.addr = some grant.block.len := by
  have listed : grant ∈ before ++ grant :: after := List.mem_append_right before List.mem_cons_self
  exact find?_eq_some_iff.mpr ((List.Perm.mem_iff lists).mpr (List.mem_map_of_mem listed))

theorem Lists.perm {grants' : List Grant} (lists : map.Lists grants) (same : grants.Perm grants') : map.Lists grants' :=
  List.Perm.trans lists (same.map _)

theorem Lists.erase (lists : map.Lists (before ++ grant :: after)) :
    (map.erase grant.block.addr).Lists (before ++ after) :=
  erase_perm (lists.perm List.perm_middle)

/-- The span of a grant takes the place of the one at the same address. -/
theorem Lists.insert_of_erase (lists : (map.erase grant.block.addr).Lists grants) :
    (map.insert grant.span).Lists (grant :: grants) :=
  (map.insert_perm grant.span).trans (List.Perm.cons _ lists)

theorem Lists.insert (lists : map.Lists grants) (fresh : grant.block.addr ∉ grants.map (·.block.addr)) :
    (map.insert grant.span).Lists (grant :: grants) := by
  refine insert_of_erase ?_
  have none : map.erase grant.block.addr = map := by
    refine erase_eq_self_iff.mpr (Option.eq_none_iff_forall_ne_some.mpr ?_)
    intro len found
    obtain ⟨other, member, span⟩ := List.mem_map.mp (List.Perm.mem_iff lists |>.mp (find?_eq_some_iff.mp found))
    exact fresh (List.mem_map.mpr ⟨other, member, congrArg Span.start span⟩)
  rwa [none]

theorem Lists.resized (lists : map.Lists (before ++ grant :: after)) (newSize : Nat) :
    (map.insert (grant.resized newSize).span).Lists (before ++ grant.resized newSize :: after) := by
  have kept : (map.erase (grant.resized newSize).block.addr).Lists (before ++ after) := lists.erase
  exact kept.insert_of_erase.perm List.perm_middle.symm

/-- A grant at the address of another one drives that one out. -/
theorem Lists.size_insert (lists : map.Lists grants) (shared : grant.block.addr ∈ grants.map (·.block.addr)) :
    (map.insert grant.span).size = grants.length := by
  obtain ⟨other, member, same⟩ := List.mem_map.mp shared
  obtain ⟨before, after, rfl⟩ := List.append_of_mem member
  have kept : (map.erase grant.block.addr).Lists (before ++ after) := same ▸ lists.erase
  rw [kept.insert_of_erase.size_eq]
  simp [Nat.add_assoc]

end SpanMap

namespace Tally

/-- After a request for so many bytes was answered. -/
def allocated (tally : Tally) (size : Nat) : Except Refusal Block → Tally
  | .ok block =>
    ⟨{ tally.counts with allocations := tally.counts.allocations + 1 }, tally.live.insert ⟨block.addr, size⟩⟩
  | .error _ =>
    ⟨{ tally.counts with
        allocations := tally.counts.allocations + 1
        failedAllocations := tally.counts.failedAllocations + 1 }, tally.live⟩

/-- After a resize was granted or refused. -/
def resized (tally : Tally) (addr newSize : Nat) : Bool → Tally
  | true => ⟨{ tally.counts with resizes := tally.counts.resizes + 1 }, tally.live.insert ⟨addr, newSize⟩⟩
  | false =>
    ⟨{ tally.counts with
        resizes := tally.counts.resizes + 1
        refusedResizes := tally.counts.refusedResizes + 1 }, tally.live⟩

/-- After a block went back. -/
def released (tally : Tally) (addr : Nat) : Tally :=
  ⟨{ tally.counts with releases := tally.counts.releases + 1 }, tally.live.erase addr⟩

end Tally

namespace Counted

variable {σ : Type} {inner : Backing σ} {counted : Counted σ} {layout : Layout} {addr : Nat} {trace : Trace} {s' : σ}

theorem run_allocate {answer : Except Refusal Block}
    (ran : (inner.allocate layout).run counted.inner = ⟨.ok answer, trace, s'⟩) :
    ((backing inner).allocate layout).run counted =
      ⟨.ok answer, trace, ⟨counted.toTally.allocated layout.size answer, s'⟩⟩ := by
  simp only [backing, count, onTally, onInner, track, Act.run_bind, Act.run_modify, Act.run_zoom, ran]
  cases answer with
  | ok block =>
    simp only [Act.run_bind, Act.run_modify, Act.run_pure, Outcome.after_mk, List.append_nil]
    rfl
  | error refusal =>
    simp only [Act.run_bind, Act.run_modify, Act.run_pure, Outcome.after_mk, List.append_nil]
    rfl

theorem run_resizeInPlace {newSize : Nat} {granted : Bool} {size : Nat} (tracked : counted.live.find? addr = some size)
    (ran : (inner.resizeInPlace addr layout newSize).run counted.inner = ⟨.ok granted, trace, s'⟩) :
    ((backing inner).resizeInPlace addr layout newSize).run counted =
      ⟨.ok granted, trace, ⟨counted.toTally.resized addr newSize granted, s'⟩⟩ := by
  simp only [backing, count, onTally, onInner, track, Act.run_bind, Act.run_modify, Act.run_get, Act.run_zoom,
    Tally.count, tracked, Option.isNone_some, Bool.false_eq_true, ↓reduceIte, ran]
  cases granted with
  | true =>
    simp only [↓reduceIte, Act.run_bind, Act.run_modify, Act.run_pure, Outcome.after_mk, List.append_nil]
    rfl
  | false =>
    simp only [Bool.false_eq_true, ↓reduceIte, Act.run_bind, Act.run_modify, Act.run_pure, Outcome.after_mk,
      List.append_nil]
    rfl

theorem run_release (tracked : counted.live.find? addr = some layout.size)
    (ran : (inner.release addr layout).run counted.inner = ⟨.ok (), trace, s'⟩) :
    ((backing inner).release addr layout).run counted = ⟨.ok (), trace, ⟨counted.toTally.released addr, s'⟩⟩ := by
  simp [backing, count, onTally, onInner, untrack, Act.run_bind, Tally.count, tracked, ran, Tally.released]

end Counted

/-! ### A client that describes its blocks as they are -/

/-- A backing and the blocks that its client holds. -/
structure Client (σ : Type) where
  source : σ
  held : List Grant

/-- What a client asks of its backing. It names the blocks that it holds by their place in the list. -/
inductive Order where
  | allocate (layout : Layout)
  | resizeInPlace (index newSize : Nat)
  | release (index : Nat)
  deriving DecidableEq

/-- The order makes no block without bytes. -/
def Order.Filled : Order → Prop
  | allocate layout => 0 < layout.size
  | resizeInPlace _ newSize => 0 < newSize
  | release _ => True

namespace Client

variable {σ α : Type}

def onSource (act : Act σ α) : Act (Client σ) α :=
  act.zoom Client.source fun client source => { client with source }

/-- The address and the present layout of a block that the client holds. -/
def named? (client : Client σ) (index : Nat) : Option (Nat × Layout) := do
  let grant ← client.held[index]?
  let layout ← Layout.ofSize? grant.block.len grant.align
  return (grant.block.addr, layout)

/-- Carries an order out. One that names no block is skipped. -/
def order (backing : Backing σ) : Order → Act (Client σ) Unit
  | .allocate layout => do
    match ← onSource (backing.allocate layout) with
    | .ok block => modify fun client => { client with held := layout.grant block.addr :: client.held }
    | .error _ => return ()
  | .resizeInPlace index newSize => do
    match (← get).named? index with
    | none => return ()
    | some (addr, layout) =>
      if ← onSource (backing.resizeInPlace addr layout newSize) then
        modify fun client => { client with held := client.held.set index ((layout.grant addr).resized newSize) }
      else
        return ()
  | .release index => do
    match (← get).named? index with
    | none => return ()
    | some (addr, layout) =>
      onSource (backing.release addr layout)
      modify fun client => { client with held := client.held.eraseIdx index }

def orderAll (backing : Backing σ) : List Order → Act (Client σ) Unit
  | [] => pure ()
  | first :: later => do
    order backing first
    orderAll backing later

/-- The blocks that are held after a request was answered. -/
def heldAfter (client : Client σ) (layout : Layout) : Except Refusal Block → List Grant
  | .ok block => layout.grant block.addr :: client.held
  | .error _ => client.held

/-- No two blocks start at the same address. -/
def Distinct (client : Client σ) : Prop := (client.held.map (·.block.addr)).Nodup

/-- Every block has bytes. -/
def Filled (client : Client σ) : Prop := ∀ grant ∈ client.held, 0 < grant.block.len

/-- The counter has the number of the blocks and the sum of their sizes. -/
def Exact (client : Client (Counted σ)) : Prop :=
  client.source.live.size = client.held.length ∧
    client.source.live.total = (client.held.map (·.block.len)).sum

/-- The client of the backing behind the counter. -/
def uncounted (client : Client (Counted σ)) : Client σ := ⟨client.source.inner, client.held⟩

theorem named?_eq_some {client : Client σ} {index addr : Nat} {layout : Layout}
    (named : client.named? index = some (addr, layout)) :
    ∃ before after, client.held = before ++ layout.grant addr :: after ∧
      (∀ grant, client.held.set index grant = before ++ grant :: after) ∧
      client.held.eraseIdx index = before ++ after := by
  simp only [named?, Option.bind_eq_bind, Option.bind_eq_some_iff, Option.pure_def, Option.some.injEq,
    Prod.mk.injEq] at named
  obtain ⟨grant, found, layout, sized, rfl, rfl⟩ := named
  obtain ⟨size, align⟩ := Layout.ofSize?_eq_some_iff.mp sized
  obtain ⟨inside, rfl⟩ := List.getElem?_eq_some_iff.mp found
  have same : layout.grant client.held[index].block.addr = client.held[index] := by
    rw [Layout.grant, size, align]
  refine ⟨client.held.take index, client.held.drop (index + 1), ?_, ?_, List.eraseIdx_eq_take_drop_succ ..⟩
  · rw [same, List.getElem_cons_drop, List.take_append_drop]
  · intro grant
    rw [List.set_eq_take_append_cons_drop, if_pos inside]

theorem Filled.distinct {client : Client σ} (filled : client.Filled) (spread : Spread client.held) :
    client.Distinct := by
  refine List.pairwise_map.mpr (spread.imp_of_mem ?_)
  intro a b listed listed' apart
  exact apart.addr_ne (filled a listed) (filled b listed')

theorem exact_of_lists {client : Client (Counted σ)} (lists : client.source.live.Lists client.held) : client.Exact :=
  ⟨lists.size_eq, lists.total_eq⟩

section

variable {backing : Backing σ} {client : Client σ} {layout : Layout} {index addr : Nat} {trace : Trace} {s' : σ}

theorem run_allocate {answer : Except Refusal Block}
    (ran : (backing.allocate layout).run client.source = ⟨.ok answer, trace, s'⟩) :
    (order backing (.allocate layout)).run client = ⟨.ok (), trace, ⟨s', client.heldAfter layout answer⟩⟩ := by
  cases answer with
  | ok block => simp [order, onSource, Act.run_bind, ran, heldAfter]
  | error refusal => simp [order, onSource, Act.run_bind, ran, heldAfter]

theorem run_resizeInPlace (named : client.named? index = some (addr, layout)) {newSize : Nat} {granted : Bool}
    (ran : (backing.resizeInPlace addr layout newSize).run client.source = ⟨.ok granted, trace, s'⟩) :
    (order backing (.resizeInPlace index newSize)).run client = ⟨.ok (), trace,
      ⟨s', if granted then client.held.set index ((layout.grant addr).resized newSize) else client.held⟩⟩ := by
  cases granted with
  | true => simp [order, onSource, Act.run_bind, named, ran]
  | false => simp [order, onSource, Act.run_bind, named, ran]

theorem run_release (named : client.named? index = some (addr, layout))
    (ran : (backing.release addr layout).run client.source = ⟨.ok (), trace, s'⟩) :
    (order backing (.release index)).run client = ⟨.ok (), trace, ⟨s', client.held.eraseIdx index⟩⟩ := by
  simp [order, onSource, Act.run_bind, named, ran]

theorem run_resizeInPlace_of_unnamed (unnamed : client.named? index = none) (newSize : Nat) :
    (order backing (.resizeInPlace index newSize)).run client = ⟨.ok (), [], client⟩ := by
  simp [order, Act.run_bind, unnamed]

theorem run_release_of_unnamed (unnamed : client.named? index = none) :
    (order backing (.release index)).run client = ⟨.ok (), [], client⟩ := by
  simp [order, Act.run_bind, unnamed]

end

variable {inner : Backing σ} {Out : σ → List Grant → Prop} {client : Client (Counted σ)}

/-- What an order comes to: the counter lists all blocks, or two of them share an address. -/
structure Step (Out : σ → List Grant → Prop) (first : Order) (client client' : Client (Counted σ)) : Prop where
  out : Out client'.source.inner client'.held
  filled : first.Filled → client.Filled → client'.Filled
  tracked : client'.source.live.Lists client'.held ∨ ¬ client'.Exact ∧ ¬ client'.Distinct

/-- The order ends with the counter, and without it in the same way. -/
def Carried (inner : Backing σ) (Out : σ → List Grant → Prop) (first : Order) (client : Client (Counted σ)) : Prop :=
  ∃ trace client', (order (Counted.backing inner) first).run client = ⟨.ok (), trace, client'⟩ ∧
    (order inner first).run client.uncounted = ⟨.ok (), trace, client'.uncounted⟩ ∧ Step Out first client client'

theorem Step.unchanged (out : Out client.source.inner client.held) (lists : client.source.live.Lists client.held)
    (first : Order) : Step Out first client client :=
  ⟨out, fun _ filled => filled, .inl lists⟩

private theorem carried_allocate (contract : inner.Contract Out) (out : Out client.source.inner client.held)
    (lists : client.source.live.Lists client.held) (layout : Layout) : Carried inner Out (.allocate layout) client := by
  obtain ⟨answer, trace, s', ran, kept⟩ := contract.allocate out trivial
  have plain : (inner.allocate layout).run client.uncounted.source = ⟨.ok answer, trace, s'⟩ := ran
  refine ⟨trace, _, run_allocate (Counted.run_allocate ran), run_allocate plain, ?_⟩
  cases answer with
  | error refusal => exact ⟨kept, fun _ filled => filled, .inl lists⟩
  | ok block =>
    refine ⟨kept, fun positive filled => List.forall_mem_cons.mpr ⟨positive, filled⟩, ?_⟩
    let grant := layout.grant block.addr
    by_cases shared : grant.block.addr ∈ client.held.map (·.block.addr)
    · refine .inr ⟨?_, fun distinct => (List.nodup_cons.mp distinct).1 shared⟩
      rintro ⟨size, _⟩
      have same : (client.source.live.insert grant.span).size = client.held.length := lists.size_insert shared
      exact Nat.succ_ne_self client.held.length (size.symm.trans same)
    · have listed : (client.source.live.insert grant.span).Lists (grant :: client.held) := lists.insert shared
      exact .inl listed

private theorem carried_resizeInPlace (contract : inner.Contract Out) (out : Out client.source.inner client.held)
    (lists : client.source.live.Lists client.held) (index newSize : Nat) :
    Carried inner Out (.resizeInPlace index newSize) client := by
  rcases named : client.named? index with _ | ⟨addr, layout⟩
  · have named' : client.uncounted.named? index = none := named
    exact ⟨[], client, run_resizeInPlace_of_unnamed named newSize, run_resizeInPlace_of_unnamed named' newSize,
      .unchanged out lists _⟩
  obtain ⟨before, after, held, set, _⟩ := named?_eq_some named
  have parts : client.source.live.Lists (before ++ layout.grant addr :: after) := held ▸ lists
  have tracked : client.source.live.find? addr = some layout.size := parts.find?_middle
  rw [held] at out
  obtain ⟨granted, trace, s', ran, kept⟩ := contract.resizeInPlace newSize out trivial
  have named' : client.uncounted.named? index = some (addr, layout) := named
  have plain : (inner.resizeInPlace addr layout newSize).run client.uncounted.source = ⟨.ok granted, trace, s'⟩ := ran
  refine ⟨trace, _, run_resizeInPlace named (Counted.run_resizeInPlace tracked ran), run_resizeInPlace named' plain, ?_⟩
  cases granted with
  | false => exact ⟨held ▸ kept, fun _ filled => filled, .inl lists⟩
  | true =>
    simp only [↓reduceIte, set]
    refine ⟨kept, ?_, .inl (parts.resized newSize)⟩
    intro positive filled
    rw [Filled, held] at filled
    obtain ⟨front, others⟩ := List.forall_mem_append.mp filled
    exact List.forall_mem_append.mpr ⟨front, List.forall_mem_cons.mpr ⟨positive, (List.forall_mem_cons.mp others).2⟩⟩

private theorem carried_release (contract : inner.Contract Out) (out : Out client.source.inner client.held)
    (lists : client.source.live.Lists client.held) (index : Nat) : Carried inner Out (.release index) client := by
  rcases named : client.named? index with _ | ⟨addr, layout⟩
  · have named' : client.uncounted.named? index = none := named
    exact ⟨[], client, run_release_of_unnamed named, run_release_of_unnamed named', .unchanged out lists _⟩
  obtain ⟨before, after, held, _, erase⟩ := named?_eq_some named
  have parts : client.source.live.Lists (before ++ layout.grant addr :: after) := held ▸ lists
  have tracked : client.source.live.find? addr = some layout.size := parts.find?_middle
  rw [held] at out
  obtain ⟨_, trace, s', ran, kept⟩ := contract.release out trivial
  have named' : client.uncounted.named? index = some (addr, layout) := named
  have plain : (inner.release addr layout).run client.uncounted.source = ⟨.ok (), trace, s'⟩ := ran
  refine ⟨trace, _, run_release named (Counted.run_release tracked ran), run_release named' plain, ?_⟩
  rw [erase]
  refine ⟨kept, ?_, .inl parts.erase⟩
  intro _ filled
  rw [Filled, held] at filled
  obtain ⟨front, others⟩ := List.forall_mem_append.mp filled
  exact List.forall_mem_append.mpr ⟨front, (List.forall_mem_cons.mp others).2⟩

theorem carried (contract : inner.Contract Out) (out : Out client.source.inner client.held)
    (lists : client.source.live.Lists client.held) (first : Order) : Carried inner Out first client := by
  cases first with
  | allocate layout => exact carried_allocate contract out lists layout
  | resizeInPlace index newSize => exact carried_resizeInPlace contract out lists index newSize
  | release index => exact carried_release contract out lists index

/-- What holds at every point of a run holds now and at every point after its first order. -/
theorem forall_prefix_iff {backing : Backing σ} {start next : Client σ} {post : Client σ → Prop} {first : Order}
    {trace : Trace} (ran : (order backing first).run start = ⟨.ok (), trace, next⟩) (now : post start)
    (later : List Order) :
    (∀ early, early <+: first :: later → (orderAll backing early).Ends start fun _ _ last => post last) ↔
      ∀ early, early <+: later → (orderAll backing early).Ends next fun _ _ last => post last := by
  constructor
  · intro all early part
    have whole := all (first :: early) ((List.prefix_cons_inj first).mpr part)
    rw [orderAll, Act.ends_bind] at whole
    exact whole.of_run ran
  · intro all early part
    rcases List.prefix_cons_iff.mp part with rfl | ⟨rest, rfl, within⟩
    · exact (Act.ends_pure ..).mpr now
    · rw [orderAll, Act.ends_bind]
      exact (Act.ends_iff_of_run ran).mpr (all rest within)

theorem orderAll_iff (contract : inner.Contract Out) (out : Out client.source.inner client.held)
    (lists : client.source.live.Lists client.held) (orders : List Order) :
    (∀ early, early <+: orders →
        (orderAll (Counted.backing inner) early).Ends client fun _ _ client' => client'.Exact) ↔
      ∀ early, early <+: orders → (orderAll inner early).Ends client.uncounted fun _ _ client' => client'.Distinct := by
  induction orders generalizing client with
  | nil =>
    simp only [List.prefix_nil, forall_eq, orderAll, Act.ends_pure]
    exact iff_of_true (exact_of_lists lists) lists.distinct
  | cons first later ih =>
    obtain ⟨trace, client', counted, plain, step⟩ := carried contract out lists first
    rw [forall_prefix_iff counted (exact_of_lists lists), forall_prefix_iff plain lists.distinct]
    rcases step.tracked with lists' | ⟨wrong, shared⟩
    · exact ih step.out lists'
    · refine iff_of_false ?_ ?_
      · intro all
        exact wrong ((Act.ends_pure ..).mp (all [] List.nil_prefix))
      · intro all
        exact shared ((Act.ends_pure ..).mp (all [] List.nil_prefix))

/-- Orders that make no block without bytes keep the addresses distinct. -/
theorem orderAll_ends (contract : inner.Contract Out) (out : Out client.source.inner client.held)
    (lists : client.source.live.Lists client.held) (filled : client.Filled) {orders : List Order}
    (asked : ∀ order ∈ orders, order.Filled) :
    (orderAll (Counted.backing inner) orders).Ends client fun _ _ client' => client'.Exact := by
  induction orders generalizing client with
  | nil => exact (Act.ends_pure ..).mpr (exact_of_lists lists)
  | cons first later ih =>
    obtain ⟨now, rest⟩ := List.forall_mem_cons.mp asked
    obtain ⟨trace, client', counted, _, step⟩ := carried contract out lists first
    have filled' := step.filled now filled
    have lists' := step.tracked.resolve_right fun lost => lost.2 (filled'.distinct (contract.spread step.out))
    rw [orderAll, Act.ends_bind]
    exact (Act.ends_iff_of_run counted).mpr (ih step.out lists' filled' rest)

/-- The counter stays without a fault and has the right numbers at every point of a run exactly if at every point no two
    blocks of the client share an address. That is so in every run in which all blocks have bytes. -/
theorem exact_iff_distinct (contract : inner.Contract Out) {s : σ} (out : Out s []) (orders : List Order) :
    ((∀ early, early <+: orders →
        (orderAll (Counted.backing inner) early).Ends ⟨⟨.empty, s⟩, []⟩ fun _ _ client => client.Exact) ↔
      ∀ early, early <+: orders → (orderAll inner early).Ends ⟨s, []⟩ fun _ _ client => client.Distinct) ∧
    ((∀ order ∈ orders, order.Filled) →
      (orderAll (Counted.backing inner) orders).Ends ⟨⟨.empty, s⟩, []⟩ fun _ _ client => client.Exact) := by
  have start : (⟨⟨.empty, s⟩, []⟩ : Client (Counted σ)).source.live.Lists [] := SpanMap.lists_nil
  refine ⟨orderAll_iff contract out start orders, ?_⟩
  exact orderAll_ends contract out start fun _ member => (List.not_mem_nil member).elim

/-- The order for a block without bytes. The heap gives all blocks of one alignment the same address then. -/
def void (align : Alignment) : Order := .allocate ⟨0, align, (Nat.zero_add _).trans_le align.bytes_le_half⟩

/-- The counter takes two blocks without bytes for one. The first one that is released is forgotten for both, and the
    release of the other one is a fault. -/
theorem void_untracked :
    Heap.backing.Contract Heap.Lent ∧ (Heap.ofSize 4096).Lent [] ∧
      ((orderAll (Counted.backing Heap.backing) [void .one, void .one]).Ends ⟨⟨.empty, Heap.ofSize 4096⟩, []⟩
        fun _ _ client => client.held.length = 2 ∧ client.source.live.size = 1) ∧
      ((orderAll (Counted.backing Heap.backing) [void .one, void .one, .release 0, .release 0]).run
        ⟨⟨.empty, Heap.ofSize 4096⟩, []⟩).value = .error (.releaseUntracked 1) := by
  refine ⟨Heap.contract, Heap.lent_ofSize (by decide), ⟨(), [], _, rfl, ?_⟩, rfl⟩
  exact ⟨rfl, rfl⟩

/-- Orders for a block that grows, and for another one right behind it. -/
def stretched : List Order :=
  [.allocate ⟨26, .sixteen, by decide⟩, .resizeInPlace 0 600, .allocate ⟨57, .one, by decide⟩, .resizeInPlace 1 601]

/-- The theorem covers runs on the heap with one block without bytes, with two of them and with none, and a run in a
    region in which a block grows. -/
theorem heap_exact_iff_distinct :
    Heap.backing.Contract Heap.Lent ∧ (Heap.ofSize 4096).Lent [] ∧
      ((orderAll (Counted.backing Heap.backing) [.allocate ⟨24, .sixteen, by decide⟩, .allocate ⟨40, .one, by decide⟩,
          .resizeInPlace 0 40, .resizeInPlace 1 30, .release 1]).Ends ⟨⟨.empty, Heap.ofSize 4096⟩, []⟩
        fun _ _ client => client.Exact) ∧
      ((∀ early, early <+: [void .one, void .one] →
          (orderAll (Counted.backing Heap.backing) early).Ends ⟨⟨.empty, Heap.ofSize 4096⟩, []⟩
            fun _ _ client => client.Exact) ↔
        ∀ early, early <+: [void .one, void .one] →
          (orderAll Heap.backing early).Ends ⟨Heap.ofSize 4096, []⟩ fun _ _ client => client.Distinct) ∧
      Region.backing.Contract Region.Lent ∧ (Region.ofRange 4096 1024).Lent [] ∧
      ∃ trace client,
        (orderAll (Counted.backing Region.backing) stretched).run ⟨⟨.empty, Region.ofRange 4096 1024⟩, []⟩ =
          ⟨.ok (), trace, client⟩ ∧
        client.held = [⟨⟨4696, 57⟩, .one⟩, ⟨⟨4096, 600⟩, .sixteen⟩] ∧ client.Exact := by
  have contract := Heap.contract
  have out : (Heap.ofSize 4096).Lent [] := Heap.lent_ofSize (by decide)
  have out' : (Region.ofRange 4096 1024).Lent [] := Region.lent_ofRange (by decide)
  have ended : ((orderAll (Counted.backing Region.backing) stretched).run
      ⟨⟨.empty, Region.ofRange 4096 1024⟩, []⟩).value = .ok () := by decide +kernel
  have held : ((orderAll (Counted.backing Region.backing) stretched).run
      ⟨⟨.empty, Region.ofRange 4096 1024⟩, []⟩).state.held = [⟨⟨4696, 57⟩, .one⟩, ⟨⟨4096, 600⟩, .sixteen⟩] := by
    decide +kernel
  have ran := Act.run_of_value ended
  refine ⟨contract, out, (exact_iff_distinct contract out _).2 ?_, (exact_iff_distinct contract out _).1,
    Region.contract, out', _, _, ran, held, ((exact_iff_distinct Region.contract out' _).2 ?_).of_run ran⟩
  · simp [Order.Filled]
  · simp [Order.Filled, stretched]

end Client
end BumpArena
