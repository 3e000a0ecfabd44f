import BumpArena.Arena.Lifecycle
import BumpArena.Proofs.Steady

/-!
A chain that leaves its arena and comes back. The arena that it was taken out of still ends in the usual way, and so
does the empty chain that was put in its place; neither has a node to release or to lose. The new arena gets the config
that the old one had, so nobody can tell that there was another one in between, whatever the backing does.
-/
namespace BumpArena

theorem Config.validate_toSettings (config : Config) : config.toSettings.validate = .ok config := by
  rw [Settings.validate, dif_pos config.growing]

namespace Arena

variable {σ : Type} {backing : Backing σ}

/-- Takes the chain out of the arena. What is left of the arena is dropped, and then the chain that is left in it. -/
def intoChain (backing : Backing σ) : Act (Arena σ) Chain := do
  let chain := (← get).toChain
  modify fun arena => { arena with toChain := .empty }
  releaseAll backing
  (← get).toChain.abandon
  return chain

/-- Moves the chain to a new arena with these settings over the same backing. -/
def reattach (backing : Backing σ) (settings : Settings) : Act (Arena σ) (Except ArenaError Unit) := do
  let chain ← intoChain backing
  modify fun arena => chain.promote arena.source
  adopt backing settings

/-- Moves the chain to a new arena with the standard settings over the same backing. -/
def repromote (backing : Backing σ) : Act (Arena σ) Unit := do
  let chain ← intoChain backing
  modify fun arena => chain.promote arena.source

/-- An arena that ends without its chain does nothing. -/
theorem run_intoChain (arena : Arena σ) :
    (intoChain backing).run arena = ⟨.ok arena.detach.1, [], { arena with toChain := .empty }⟩ := rfl

/-- So the new arena gets the chain and the backing as the old one had them. -/
theorem run_reattach_eq_attach (arena : Arena σ) (settings : Settings) :
    (reattach backing settings).run arena = arena.detach.1.attach backing arena.detach.2 settings := by
  rw [reattach, Act.run_bind_of_ok (run_intoChain arena)]
  rfl

theorem run_reattach {arena : Arena σ} {config : Config} (under : arena.Under config) :
    (reattach backing config.toSettings).run arena = ⟨.ok (.ok ()), [], arena⟩ := by
  subst under
  rw [run_reattach_eq_attach, Chain.attach, adopt, Config.validate_toSettings]
  rfl

theorem run_repromote {arena : Arena σ} (under : arena.Under .standard) :
    (repromote backing).run arena = ⟨.ok (), [], arena⟩ := by
  rw [repromote, Act.run_bind_of_ok (run_intoChain arena), Act.run_modify, Outcome.after_mk, Chain.promote, ← under]
  rfl

end Arena

/-- An operation, or a move of the whole chain to a new arena. -/
inductive Errand where
  | operation (operation : Operation)
  | reattach
  | repromote
  deriving DecidableEq

/-- The operation, if it is one. -/
def Errand.operation? : Errand → Option Operation
  | .operation asked => some asked
  | .reattach | .repromote => none

namespace Workspace

variable {σ : Type} {backing : Backing σ}

/-- Runs errands one after the other and lists the answers to the operations among them. If the chain does not get its
    new arena, the run is over. -/
def runAll (backing : Backing σ) (config : Config) : List Errand → Act (Workspace σ) (List Answer)
  | [] => return []
  | .operation operation :: later => do
    let answer ← operate backing operation
    return answer :: (← runAll backing config later)
  | .reattach :: later => do
    match ← onArena (Arena.reattach backing config.toSettings) with
    | .ok () => runAll backing config later
    | .error _ => return []
  | .repromote :: later => do
    onArena (Arena.repromote backing)
    runAll backing config later

theorem run_onArena_of_unseen {α : Type} {workspace : Workspace σ} {act : Act (Arena σ) α} {a : α}
    (unseen : act.run workspace.arena = ⟨.ok a, [], workspace.arena⟩) :
    (onArena act).run workspace = ⟨.ok a, [], workspace⟩ := by
  rw [onArena, Act.run_zoom, unseen]

theorem run_runAll {config : Config} {errands : List Errand} (standard : .repromote ∈ errands → config = .standard)
    {workspace : Workspace σ} (under : workspace.Under config) :
    (runAll backing config errands).run workspace =
      (operateAll backing (errands.filterMap Errand.operation?)).run workspace := by
  induction errands generalizing workspace with
  | nil => rfl
  | cons errand later ih =>
    have rest {workspace' : Workspace σ} (under' : workspace'.Under config) :=
      ih (fun member => standard (List.mem_cons_of_mem _ member)) under'
    cases errand with
    | operation operation =>
      have steady : (operate backing operation).Leaves (Under config) workspace := operate_leaves operation under
      show _ = (operateAll backing (operation :: later.filterMap Errand.operation?)).run workspace
      rw [runAll, operateAll]
      refine Act.run_bind_congr steady ?_
      intro answer between under'
      rw [Act.run_bind, Act.run_bind, rest under']
    | reattach =>
      rw [List.filterMap_cons_none rfl, runAll,
        Act.run_bind_of_ok (run_onArena_of_unseen (Arena.run_reattach under)), Outcome.after_nil]
      exact rest under
    | repromote =>
      have under' : workspace.arena.Under .standard := standard List.mem_cons_self ▸ under
      rw [List.filterMap_cons_none rfl, runAll,
        Act.run_bind_of_ok (run_onArena_of_unseen (Arena.run_repromote under')), Outcome.after_nil]
      exact rest under

/-- Taking the chain out of the arena and making a new arena of it, at any points between the operations of a run, shows
    in no answer, in no entry of the trace, be it a call or a record, and not in the arena or the backing at the end.
    The move itself leaves no entry and changes nothing. -/
theorem moves_unseen (backing : Backing σ) (workspace : Workspace σ) (errands : List Errand)
    (standard : .repromote ∈ errands → workspace.arena.config = .standard) :
    (runAll backing workspace.arena.config errands).run workspace =
        (operateAll backing (errands.filterMap Errand.operation?)).run workspace ∧
      (∀ arena : Arena σ, (Arena.reattach backing arena.config.toSettings).run arena = ⟨.ok (.ok ()), [], arena⟩) ∧
      ∀ arena : Arena σ, arena.config = .standard → (Arena.repromote backing).run arena = ⟨.ok (), [], arena⟩ :=
  ⟨run_runAll standard rfl, fun _ => Arena.run_reattach rfl, fun _ => Arena.run_repromote⟩

/-- A run with moves before the first node is there, between two nodes and after a reset. -/
theorem heap_moves_unseen :
    (Arena.ofSource (Heap.ofSize 4096)).config = .standard ∧
      (runAll (Heap.backing.recorded "heap") .standard
          [.reattach, .operation (.alloc ⟨40, .one, by decide⟩), .repromote,
            .operation (.alloc ⟨200, .sixteen, by decide⟩), .reattach, .operation (.reset .capacity), .repromote,
            .operation (.resize ⟨Heap.base, 40⟩ 50)]).run
          ⟨.ofSource (Heap.ofSize 4096), .zero⟩ =
        (operateAll (Heap.backing.recorded "heap")
          [.alloc ⟨40, .one, by decide⟩, .alloc ⟨200, .sixteen, by decide⟩, .reset .capacity,
            .resize ⟨Heap.base, 40⟩ 50]).run ⟨.ofSource (Heap.ofSize 4096), .zero⟩ :=
  ⟨rfl, (moves_unseen (Heap.backing.recorded "heap") ⟨.ofSource (Heap.ofSize 4096), .zero⟩ _ fun _ => rfl).1⟩

end Workspace
end BumpArena
