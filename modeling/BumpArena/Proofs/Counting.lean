import BumpArena.Proofs.Clearing
import BumpArena.Proofs.Ledger
import BumpArena.Proofs.Projecting
import BumpArena.Proofs.Wary

/-!
A counter under an arena. The nodes of an arena have bytes, so no two of them share an address, and the counter knows
them all (`Counted.Lent`). Hence it never meets an unknown block, and arenas with it and without it go through the same
states with the same answers and the same calls (`Workspace.counter_unseen`). What it counts is what a journal of the
calls lists.
-/
namespace BumpArena

/-! ### The counts of a journal -/

namespace Call

def isAllocation : Call → Bool
  | granted _ | refused _ => true
  | resized .. | released _ => false

def isFailedAllocation : Call → Bool
  | refused _ => true
  | granted _ | resized .. | released _ => false

def isResize : Call → Bool
  | resized .. => true
  | granted _ | refused _ | released _ => false

def isRefusedResize : Call → Bool
  | resized _ _ answer => !answer
  | granted _ | refused _ | released _ => false

def isRelease : Call → Bool
  | released _ => true
  | granted _ | refused _ | resized .. => false

end Call

/-- How many calls of each kind the journal lists. -/
def CallCounts.ofCalls (calls : List Call) : CallCounts where
  allocations := calls.countP Call.isAllocation
  failedAllocations := calls.countP Call.isFailedAllocation
  resizes := calls.countP Call.isResize
  refusedResizes := calls.countP Call.isRefusedResize
  releases := calls.countP Call.isRelease

/-- The counts after one more call. -/
def CallCounts.add (counts : CallCounts) : Call → CallCounts
  | .granted _ => { counts with allocations := counts.allocations + 1 }
  | .refused _ =>
    { counts with allocations := counts.allocations + 1, failedAllocations := counts.failedAllocations + 1 }
  | .resized _ _ true => { counts with resizes := counts.resizes + 1 }
  | .resized _ _ false => { counts with resizes := counts.resizes + 1, refusedResizes := counts.refusedResizes + 1 }
  | .released _ => { counts with releases := counts.releases + 1 }

theorem CallCounts.ofCalls_cons (call : Call) (calls : List Call) :
    ofCalls (call :: calls) = (ofCalls calls).add call := by
  rcases call with _ | _ | ⟨_, _, _ | _⟩ | _ <;>
    simp [ofCalls, add, List.countP_cons, Call.isAllocation, Call.isFailedAllocation, Call.isResize,
      Call.isRefusedResize, Call.isRelease]

namespace Tally

variable {tally : Tally} {calls : List Call}

/-- The counter counts a call as the journal lists it. -/
theorem counts_allocated (metered : tally.counts = .ofCalls calls) (layout : Layout) (answer : Except Refusal Block) :
    (tally.allocated layout.size answer).counts = .ofCalls (.ofAnswer layout answer :: calls) := by
  rw [CallCounts.ofCalls_cons, ← metered]
  cases answer with
  | ok block => rfl
  | error refusal => rfl

theorem counts_resized (metered : tally.counts = .ofCalls calls) (addr : Nat) (grant : Grant) (newSize : Nat)
    (granted : Bool) :
    (tally.resized addr newSize granted).counts = .ofCalls (.resized grant newSize granted :: calls) := by
  rw [CallCounts.ofCalls_cons, ← metered]
  cases granted with
  | true => rfl
  | false => rfl

theorem counts_released (metered : tally.counts = .ofCalls calls) (addr : Nat) (grant : Grant) :
    (tally.released addr).counts = .ofCalls (.released grant :: calls) := by
  rw [CallCounts.ofCalls_cons, ← metered]
  rfl

end Tally

/-- Forgets the calls so far. -/
def Ledger.turnPage {σ : Type} (ledger : Ledger σ) : Ledger σ := { ledger with calls := [] }

/-! ### A counter that knows all nodes -/

namespace Counted

variable {σ : Type} {inner : Backing σ} {Out : σ → List Grant → Prop}

/-- Counts from zero again, while the journal starts again. -/
def turnPage (counted : Counted (Ledger σ)) : Counted (Ledger σ) :=
  ⟨counted.toTally.resetCounts, counted.inner.turnPage⟩

/-- The grants are out, and the counter knows them and has counted the calls in the journal. -/
structure Lent (Out : σ → List Grant → Prop) (counted : Counted (Ledger σ)) (grants : List Grant) : Prop where
  out : Out counted.inner.inner grants
  filled : ∀ grant ∈ grants, 0 < grant.block.len
  lists : counted.live.Lists grants
  metered : counted.counts = .ofCalls counted.inner.calls

theorem lent_nil {s : σ} (out : Out s []) : Lent Out ⟨.empty, ⟨s, []⟩⟩ [] where
  out := out
  filled _ member := (List.not_mem_nil member).elim
  lists := SpanMap.lists_nil
  metered := rfl

theorem Lent.turnPage {counted : Counted (Ledger σ)} {grants : List Grant} (lent : counted.Lent Out grants) :
    counted.turnPage.Lent Out grants :=
  ⟨lent.out, lent.filled, lent.lists, rfl⟩

/-- A new grant with bytes has an address of its own. -/
theorem Lent.fresh {counted : Counted (Ledger σ)} {grants : List Grant} (lent : counted.Lent Out grants) {grant : Grant}
    (filled : 0 < grant.block.len) (spread : Spread (grant :: grants)) :
    grant.block.addr ∉ grants.map (·.block.addr) := by
  intro shared
  obtain ⟨other, member, same⟩ := List.mem_map.mp shared
  have apart := (List.pairwise_cons.mp spread).1 other member
  exact apart.addr_ne filled (lent.filled other member) same.symm

/-- What a backing promises to an arena, it promises with a counter to one that asks for no empty nodes. -/
theorem lendsNodes (lends : inner.LendsNodes Out) : (backing (Ledger.backing inner)).wary.LendsNodes (Lent Out) where
  spread lent := lends.spread lent.out
  below lent := lends.below lent.out
  allocate {counted grants layout} lent asked := by
    by_cases empty : layout.size = 0
    · simpa only [Backing.wary, empty, ↓reduceIte, Act.ends_pure] using lent
    rw [Backing.allocate_wary empty]
    obtain ⟨answer, trace, s', ran, kept⟩ := lends.allocate lent.out asked
    have metered := Tally.counts_allocated lent.metered layout answer
    refine ⟨answer, trace, _, run_allocate (Ledger.run_allocate counted.inner.calls ran), ?_⟩
    cases answer with
    | error refusal => exact ⟨kept, lent.filled, lent.lists, metered⟩
    | ok block =>
      have filled : 0 < (layout.grant block.addr).block.len := Nat.pos_of_ne_zero empty
      have fresh := lent.fresh filled (lends.spread kept)
      exact ⟨kept, List.forall_mem_cons.mpr ⟨filled, lent.filled⟩, lent.lists.insert fresh, metered⟩
  resizeInPlace {counted before after layout addr} newSize lent asked := by
    obtain ⟨front, others⟩ := List.forall_mem_append.mp lent.filled
    by_cases empty : newSize = 0
    · simpa only [Backing.wary, empty, ↓reduceIte, Act.ends_pure, Bool.false_eq_true] using lent
    rw [Backing.resizeInPlace_wary _ _ empty]
    obtain ⟨granted, trace, s', ran, kept⟩ := lends.resizeInPlace newSize lent.out asked
    have tracked : counted.live.find? addr = some layout.size := lent.lists.find?_middle
    have metered := Tally.counts_resized lent.metered addr (layout.grant addr) newSize granted
    refine ⟨granted, trace, _, run_resizeInPlace tracked (Ledger.run_resizeInPlace counted.inner.calls ran), ?_⟩
    cases granted with
    | false => exact ⟨kept, lent.filled, lent.lists, metered⟩
    | true =>
      refine ⟨kept, List.forall_mem_append.mpr ⟨front, ?_⟩, lent.lists.resized newSize, metered⟩
      exact List.forall_mem_cons.mpr ⟨Nat.pos_of_ne_zero empty, (List.forall_mem_cons.mp others).2⟩
  release {counted before after layout addr} lent asked := by
    obtain ⟨front, others⟩ := List.forall_mem_append.mp lent.filled
    obtain ⟨_, trace, s', ran, kept⟩ := lends.release lent.out asked
    have tracked : counted.live.find? addr = some layout.size := lent.lists.find?_middle
    have metered := Tally.counts_released lent.metered addr (layout.grant addr)
    refine ⟨(), trace, _, run_release tracked (Ledger.run_release counted.inner.calls ran), ?_⟩
    exact ⟨kept, List.forall_mem_append.mpr ⟨front, (List.forall_mem_cons.mp others).2⟩, lent.lists.erase, metered⟩

end Counted

/-! ### What befalls an arena -/

/-- An operation, the end of the arena, a new one in its place, a move of its chain to a new one, or new counts. -/
inductive Chore where
  | operation (operation : Operation)
  | create (settings : Settings)
  | deinit
  | drop
  | reattach (settings : Settings)
  | repromote
  | resetCounts
  deriving DecidableEq

namespace Workspace

variable {σ τ : Type}

/-- Drops the arena. An empty one with the standard settings takes its place. -/
def renew (backing : Backing σ) : Act (Workspace σ) Unit := do
  onArena (Arena.releaseAll backing)
  modify fun workspace => { workspace with arena := .ofSource workspace.arena.source }

/-- Makes an arena ready; one that could not be made is dropped. -/
def found (backing : Backing σ) (act : Act (Arena σ) (Except ArenaError Unit)) :
    Act (Workspace σ) (Except ArenaError Answer) := do
  match ← onArena act with
  | .ok () => return .ok .done
  | .error error =>
    renew backing
    return .error error

/-- Does a chore. New counts are what `clear` makes of the backing. -/
def attend (backing : Backing σ) (clear : σ → σ) : Chore → Act (Workspace σ) (Except ArenaError Answer)
  | .operation operation => return .ok (← operate backing operation)
  | .create settings => do
    renew backing
    found backing (Arena.prepare backing settings)
  | .deinit => do
    onArena (Arena.releaseAll backing)
    renew backing
    return .ok .done
  | .drop => do
    renew backing
    return .ok .done
  | .reattach settings => found backing (Arena.reattach backing settings)
  | .repromote => do
    onArena (Arena.repromote backing)
    return .ok .done
  | .resetCounts => do
    modify fun workspace => { workspace with arena := workspace.arena.mapSource clear }
    return .ok .done

def attendAll (backing : Backing σ) (clear : σ → σ) : List Chore → Act (Workspace σ) (List (Except ArenaError Answer))
  | [] => return []
  | chore :: later => do
    let answer ← attend backing clear chore
    return answer :: (← attendAll backing clear later)

section

variable {view : τ → σ} {backing : Backing τ} {other : Backing σ}

theorem renew_projects (projects : backing.Projects view other) :
    (renew backing).Projects (mapSource view) (renew other) :=
  .bind (onArena_projects (Arena.releaseDownTo_projects projects 0)) fun _ => Act.projects_modify fun _ => rfl

theorem found_projects (projects : backing.Projects view other) {act : Act (Arena τ) (Except ArenaError Unit)}
    {act' : Act (Arena σ) (Except ArenaError Unit)} (acts : act.Projects (Arena.mapSource view) act') :
    (found backing act).Projects (mapSource view) (found other act') := by
  refine .bind (onArena_projects acts) fun answer => ?_
  cases answer with
  | ok => exact Act.projects_pure _
  | error error => exact .bind (renew_projects projects) fun _ => Act.projects_pure _

theorem attend_projects (projects : backing.Projects view other) {clear : τ → τ} {clear' : σ → σ}
    (clears : ∀ t, view (clear t) = clear' (view t)) (chore : Chore) :
    (attend backing clear chore).Projects (mapSource view) (attend other clear' chore) := by
  cases chore with
  | operation operation => exact .bind (operate_projects projects operation) fun _ => Act.projects_pure _
  | create settings =>
    exact .bind (renew_projects projects) fun _ => found_projects projects (Arena.prepare_projects projects settings)
  | deinit =>
    refine .bind (onArena_projects (Arena.releaseDownTo_projects projects 0)) fun _ => ?_
    exact .bind (renew_projects projects) fun _ => Act.projects_pure _
  | drop => exact .bind (renew_projects projects) fun _ => Act.projects_pure _
  | reattach settings => exact found_projects projects (Arena.reattach_projects projects settings)
  | repromote => exact .bind (onArena_projects Arena.repromote_projects) fun _ => Act.projects_pure _
  | resetCounts =>
    refine .bind (Act.projects_modify fun workspace => ?_) fun _ => Act.projects_pure _
    simp only [mapSource, Arena.mapSource, clears]

theorem attendAll_projects (projects : backing.Projects view other) {clear : τ → τ} {clear' : σ → σ}
    (clears : ∀ t, view (clear t) = clear' (view t)) (chores : List Chore) :
    (attendAll backing clear chores).Projects (mapSource view) (attendAll other clear' chores) := by
  induction chores with
  | nil => exact Act.projects_pure _
  | cons chore later ih =>
    exact .bind (attend_projects projects clears chore) fun _ => .bind ih fun _ => Act.projects_pure _

end

variable {inner : Backing σ} {Out : σ → List Grant → Prop} {workspace : Workspace (Counted (Ledger σ))}

/-- The counter of the arena knows its nodes. -/
def Metered (Out : σ → List Grant → Prop) (workspace : Workspace (Counted (Ledger σ))) : Prop :=
  workspace.arena.Backed (Counted.Lent Out)

theorem keeps_metered (lends : inner.LendsNodes Out) :
    Arena.Keeps (Counted.backing (Ledger.backing inner)) (Arena.Backed (Counted.Lent Out)) where
  sound metered := metered.sound (Counted.lendsNodes lends)
  alloc layout metered := by
    rw [← Arena.alloc_wary]
    exact (Arena.alloc_ends (Counted.lendsNodes lends) metered layout).mono fun _ _ _ served => served.1
  reset retention metered := by
    rw [← Arena.reset_wary]
    exact (Arena.reset_ends (Counted.lendsNodes lends) metered retention).mono fun _ _ _ kept => kept.1
  moved metered sound nodes := ⟨nodes ▸ metered.out, sound.filled, sound.cursor_le⟩

theorem releaseAll_ends (lends : inner.LendsNodes Out) (metered : workspace.Metered Out) :
    (onArena (Arena.releaseAll (Counted.backing (Ledger.backing inner)))).Ends workspace fun _ _ workspace' =>
      workspace'.arena.toChain = .empty ∧ Counted.Lent Out workspace'.arena.source [] := by
  rw [Arena.releaseAll, ← Arena.releaseDownTo_wary, onArena, Act.ends_zoom]
  refine (Arena.releaseAll_ends (Counted.lendsNodes lends) metered.out).mono ?_
  rintro _ _ _ ⟨empty, _, out⟩
  exact ⟨empty, out⟩

theorem renew_ends (lends : inner.LendsNodes Out) (metered : workspace.Metered Out) :
    (renew (Counted.backing (Ledger.backing inner))).Ends workspace fun _ _ workspace' =>
      workspace'.arena.toChain = .empty ∧ Counted.Lent Out workspace'.arena.source [] := by
  rw [renew, Act.ends_bind]
  refine (releaseAll_ends lends metered).mono ?_
  rintro _ _ released ⟨_, out⟩
  exact (Act.ends_modify ..).mpr ⟨rfl, out⟩

theorem found_ends (lends : inner.LendsNodes Out) {act : Act (Arena (Counted (Ledger σ))) (Except ArenaError Unit)}
    (acts : act.Ends workspace.arena fun _ _ arena => arena.Backed (Counted.Lent Out)) :
    (found (Counted.backing (Ledger.backing inner)) act).Ends workspace fun _ _ workspace' =>
      workspace'.Metered Out := by
  simp only [found, Act.ends_bind, onArena, Act.ends_zoom]
  refine acts.mono ?_
  rintro (error | _) _ arena backed
  · simp only [Act.ends_bind]
    have metered : Metered Out { workspace with arena } := backed
    refine (renew_ends lends metered).mono ?_
    rintro _ _ workspace' ⟨empty, out⟩
    exact (Act.ends_pure ..).mpr (Arena.Backed.of_empty out empty)
  · exact (Act.ends_pure ..).mpr backed

/-- After every chore the counter knows the nodes. -/
theorem attend_ends (lends : inner.LendsNodes Out) (metered : workspace.Metered Out) (chore : Chore) :
    (attend (Counted.backing (Ledger.backing inner)) Counted.turnPage chore).Ends workspace
      fun _ _ workspace' => workspace'.Metered Out := by
  have lends' := Counted.lendsNodes lends
  cases chore with
  | operation operation =>
    simp only [attend, Act.ends_bind, Act.ends_pure]
    exact operate_ends (keeps_metered lends) metered operation
  | create settings =>
    simp only [attend, Act.ends_bind]
    refine (renew_ends lends metered).mono ?_
    rintro _ _ fresh ⟨empty, out⟩
    refine found_ends lends ?_
    rw [← Arena.prepare_wary]
    exact (Arena.prepare_ends lends' out empty settings).mono fun _ _ _ prepared => prepared.1
  | deinit =>
    simp only [attend, Act.ends_bind]
    refine (releaseAll_ends lends metered).mono ?_
    rintro _ _ released ⟨empty, out⟩
    refine (renew_ends lends (Arena.Backed.of_empty out empty)).mono ?_
    rintro _ _ fresh ⟨empty', out'⟩
    exact (Act.ends_pure ..).mpr (Arena.Backed.of_empty out' empty')
  | drop =>
    simp only [attend, Act.ends_bind]
    refine (renew_ends lends metered).mono ?_
    rintro _ _ fresh ⟨empty, out⟩
    exact (Act.ends_pure ..).mpr (Arena.Backed.of_empty out empty)
  | reattach settings =>
    refine found_ends lends ?_
    rw [Arena.reattach, Act.ends_bind]
    refine (Act.ends_iff_of_run (Arena.run_intoChain _)).mpr ?_
    have moved : (workspace.arena.toChain.promote workspace.arena.source).Backed (Counted.Lent Out) :=
      ⟨metered.out, metered.filled, metered.cursor_le⟩
    rw [Act.ends_bind, Act.ends_modify, ← Arena.adopt_wary]
    exact (Arena.adopt_ends lends' moved settings).mono fun _ _ _ adopted => adopted.1
  | repromote =>
    simp only [attend, onArena, Act.ends_bind, Act.ends_zoom, Act.ends_pure, Arena.repromote]
    refine (Act.ends_iff_of_run (Arena.run_intoChain _)).mpr ?_
    rw [Act.ends_modify]
    exact ⟨metered.out, metered.filled, metered.cursor_le⟩
  | resetCounts =>
    simp only [attend, Act.ends_bind, Act.ends_modify, Act.ends_pure]
    exact ⟨metered.out.turnPage, metered.filled, metered.cursor_le⟩

theorem attendAll_ends (lends : inner.LendsNodes Out) (metered : workspace.Metered Out) (chores : List Chore) :
    (attendAll (Counted.backing (Ledger.backing inner)) Counted.turnPage chores).Ends workspace
      fun _ _ workspace' => workspace'.Metered Out := by
  induction chores generalizing workspace with
  | nil => exact (Act.ends_pure ..).mpr metered
  | cons chore later ih =>
    simp only [attendAll, Act.ends_bind, Act.ends_pure]
    refine (attend_ends lends metered chore).mono ?_
    intro _ _ between metered'
    exact ih metered'

/-- The arena cannot tell whether a counter stands between it and its backing. Without the counter there are the same
    answers, the same trace, the same arena and memory, and the same journal and state of the backing. The counter
    never faults. Its blocks are as many as the nodes of the arena and have the bytes of its capacity, and its counts
    are those of the calls since they were reset, when the journal starts a new page. -/
theorem counter_unseen (lends : inner.LendsNodes Out) {s : σ} (out : Out s []) (memory : Memory) (chores : List Chore) :
    (attendAll (Counted.backing (Ledger.backing inner)) Counted.turnPage chores).Ends
      ⟨.ofSource ⟨.empty, ⟨s, []⟩⟩, memory⟩ fun answers trace workspace =>
        (attendAll (Ledger.backing inner) Ledger.turnPage chores).run ⟨.ofSource ⟨s, []⟩, memory⟩ =
          ⟨.ok answers, trace, workspace.mapSource Counted.inner⟩ ∧
        workspace.arena.source.live.size = workspace.arena.nodes.length ∧
        workspace.arena.source.live.total = workspace.arena.toChain.capacity ∧
        workspace.arena.source.counts = .ofCalls workspace.arena.source.inner.calls := by
  have start : Metered Out ⟨.ofSource ⟨.empty, ⟨s, []⟩⟩, memory⟩ := .of_ofSource (Counted.lent_nil out)
  obtain ⟨answers, trace, workspace, ran, metered⟩ := attendAll_ends lends start chores
  have pages (counted : Counted (Ledger σ)) : counted.turnPage.inner = counted.inner.turnPage := rfl
  have unseen := attendAll_projects (Counted.projects (Ledger.backing inner)) pages chores ran
  have known := metered.out
  refine ⟨answers, trace, workspace, ran, unseen, ?_, ?_, known.metered⟩
  · rw [known.lists.size_eq, List.length_map]
  · rw [known.lists.total_eq, List.map_map, Chain.capacity_eq]
    rfl

/-- A run over the heap with stale and foreign blocks, every way to reset and every way to end an arena. -/
theorem heap_counter_unseen :
    Heap.backing.LendsNodes Heap.Lent ∧ (Heap.ofSize 4096).Lent [] ∧
      (attendAll (Counted.backing (Ledger.backing Heap.backing)) Counted.turnPage
          [.operation (.alloc ⟨40, .one, by decide⟩), .operation (.alloc ⟨200, .sixteen, by decide⟩),
            .operation (.resize ⟨Heap.base, 40⟩ 10), .operation (.free ⟨7, 7⟩), .resetCounts,
            .operation (.reset .capacity), .operation (.remap ⟨Heap.base, 40⟩ 50),
            .operation (.alloc ⟨9000, .one, by decide⟩), .reattach .standard, .operation (.reset (.atMost 100)),
            .repromote, .deinit, .create (.withInitialCapacity 64),
            .operation (.allocCopy [1, 2, 3]), .operation (.reset .nothing), .drop]).Ends
        ⟨.ofSource ⟨.empty, ⟨Heap.ofSize 4096, []⟩⟩, .zero⟩ fun _ _ workspace =>
          workspace.arena.source.live.size = workspace.arena.nodes.length ∧
          workspace.arena.source.live.total = workspace.arena.toChain.capacity ∧
          workspace.arena.source.counts = .ofCalls workspace.arena.source.inner.calls := by
  have lends := Heap.contract.lendsNodes
  have out : (Heap.ofSize 4096).Lent [] := Heap.lent_ofSize (by decide)
  exact ⟨lends, out, (counter_unseen lends out .zero _).mono fun _ _ _ unseen => unseen.2⟩

end Workspace
end BumpArena
