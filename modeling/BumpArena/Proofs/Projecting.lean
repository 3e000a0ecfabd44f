import BumpArena.Proofs.Detaching
import BumpArena.Proofs.Tracking

/-!
Actions on a state that says more than another one. `Act.Projects` says that whatever an action ends with, another
action ends with from the state with less in it: with the same value and trace, and in the state with less in it. There
is one rule for each way in which actions are made. What a backing answers is all that an arena knows of it, so an arena
over a counter projects to one over the backing behind the counter (`Workspace.operate_projects`). A counter that meets
a block it does not know ends with a fault, and nothing is said of that.
-/
namespace BumpArena

namespace Act

variable {σ τ σ' τ' α β : Type} {view : τ → σ}

/-- Where this action ends with a value, the other one ends with it as well. -/
def Projects (view : τ → σ) (act : Act τ α) (other : Act σ α) : Prop :=
  ∀ ⦃t a trace t'⦄, act.run t = ⟨.ok a, trace, t'⟩ → other.run (view t) = ⟨.ok a, trace, view t'⟩

theorem projects_pure (a : α) : (pure a : Act τ α).Projects view (pure a) := by
  rintro t _ _ _ ⟨⟩
  rfl

theorem projects_fail (fault : Fault) (other : Act σ α) : (Act.fail fault : Act τ α).Projects view other := by
  rintro t a trace t' ⟨⟩

theorem projects_log (record : Record) : (log record : Act τ Unit).Projects view (log record) := by
  rintro t _ _ _ ⟨⟩
  rfl

theorem projects_set (t : τ) : (set t : Act τ Unit).Projects view (set (view t)) := by
  rintro _ _ _ _ ⟨⟩
  rfl

theorem projects_modify {step : τ → τ} {step' : σ → σ} (same : ∀ t, view (step t) = step' (view t)) :
    (modify step : Act τ Unit).Projects view (modify step') := by
  rintro t _ _ _ ⟨⟩
  exact congrArg (Outcome.mk (.ok ()) []) (same t).symm

theorem projects_lift (value : Except Fault α) : (liftM value : Act τ α).Projects view (liftM value) := by
  cases value with
  | ok a => exact projects_pure a
  | error fault => exact projects_fail fault _

theorem Projects.bind {act : Act τ α} {other : Act σ α} {next : α → Act τ β} {next' : α → Act σ β}
    (first : act.Projects view other) (rest : ∀ a, (next a).Projects view (next' a)) :
    (act >>= next).Projects view (other >>= next') := by
  intro t b trace t' ran
  rw [run_bind] at ran
  rcases ran' : act.run t with ⟨fault | a, earlier, between⟩
  · simp [ran'] at ran
  · rcases ran'' : (next a).run between with ⟨value, later, last⟩
    simp only [ran', ran'', Outcome.after_mk] at ran
    injection ran with value' traces states
    subst value' traces states
    rw [run_bind_of_ok (first ran'), rest a ran'', Outcome.after_mk]

/-- What follows may read the state, as long as it does the same with the part that the other one has. -/
theorem projects_get_bind {next : τ → Act τ α} {next' : σ → Act σ α}
    (rest : ∀ t, (next t).Projects view (next' (view t))) : (get >>= next).Projects view (get >>= next') :=
  fun t _ _ _ ran => rest t ran

theorem Projects.ite {p : Prop} [Decidable p] {act act' : Act τ α} {other other' : Act σ α}
    (yes : p → act.Projects view other) (no : ¬ p → act'.Projects view other') :
    (if p then act else act').Projects view (if p then other else other') := by
  by_cases holds : p
  · simpa only [holds, ↓reduceIte] using yes holds
  · simpa only [holds, ↓reduceIte] using no holds

theorem Projects.zoom {view' : τ' → σ'} {part : τ → τ'} {replace : τ → τ' → τ} {part' : σ → σ'}
    {replace' : σ → σ' → σ} {act : Act τ' α} {other : Act σ' α} (projects : act.Projects view' other)
    (parts : ∀ t, part' (view t) = view' (part t))
    (replaces : ∀ t s, view (replace t s) = replace' (view t) (view' s)) :
    (act.zoom part replace).Projects view (other.zoom part' replace') := by
  intro t a trace t' ran
  rcases ran' : act.run (part t) with ⟨value, trace', s⟩
  simp only [run_zoom, ran'] at ran
  injection ran with value' traces states
  subst value' traces states
  rw [run_zoom, parts, projects ran', replaces]

theorem projects_id (act : Act σ α) : act.Projects id act := fun _ _ _ _ ran => ran

end Act

/-- Every call that is answered is answered in the same way by the other backing. -/
structure Backing.Projects {σ τ : Type} (view : τ → σ) (backing : Backing τ) (other : Backing σ) : Prop where
  allocate : ∀ layout, (backing.allocate layout).Projects view (other.allocate layout)
  resizeInPlace : ∀ addr layout newSize,
    (backing.resizeInPlace addr layout newSize).Projects view (other.resizeInPlace addr layout newSize)
  release : ∀ addr layout, (backing.release addr layout).Projects view (other.release addr layout)

namespace Counted

variable {σ : Type} {inner : Backing σ} {counted : Counted σ}

theorem projects (inner : Backing σ) : (backing inner).Projects Counted.inner inner where
  allocate layout := by
    intro counted answer trace counted' ran
    rcases ran' : (inner.allocate layout).run counted.inner with ⟨fault | answer', trace', s'⟩
    · simp [backing, count, onTally, onInner, Act.run_bind, ran'] at ran
    · rw [run_allocate ran'] at ran
      injection ran with value traces states
      injection value with value
      subst value traces states
      rfl
  resizeInPlace addr layout newSize := by
    intro counted granted trace counted' ran
    rcases tracked : counted.live.find? addr with _ | size
    · simp [backing, count, onTally, Act.run_bind, Tally.count, tracked] at ran
    rcases ran' : (inner.resizeInPlace addr layout newSize).run counted.inner with ⟨fault | granted', trace', s'⟩
    · simp [backing, count, onTally, onInner, Act.run_bind, Tally.count, tracked, ran'] at ran
    · rw [run_resizeInPlace tracked ran'] at ran
      injection ran with value traces states
      injection value with value
      subst value traces states
      rfl
  release addr layout := by
    intro counted _ trace counted' ran
    rcases tracked : counted.live.find? addr with _ | size
    · simp [backing, count, onTally, Act.run_bind, Tally.count, tracked] at ran
    by_cases same : size = layout.size
    · subst same
      rcases ran' : (inner.release addr layout).run counted.inner with ⟨fault | _, trace', s'⟩
      · simp [backing, count, onTally, onInner, untrack, Act.run_bind, Tally.count, tracked, ran'] at ran
      · rw [run_release tracked ran'] at ran
        injection ran with value traces states
        subst traces states
        rfl
    · simp [backing, count, onTally, untrack, Act.run_bind, Tally.count, tracked, same] at ran

end Counted

/-! ### An arena over two backings -/

namespace Arena

variable {σ τ α : Type} {view : τ → σ} {backing : Backing τ} {other : Backing σ}

/-- The same arena with less in the state of its backing. -/
def mapSource (view : τ → σ) (arena : Arena τ) : Arena σ :=
  { arena.toChain with config := arena.config, source := view arena.source }

@[simp] theorem mapSource_toChain (arena : Arena τ) : (arena.mapSource view).toChain = arena.toChain := rfl

@[simp] theorem mapSource_config (arena : Arena τ) : (arena.mapSource view).config = arena.config := rfl

theorem onSource_projects {act : Act τ α} {other : Act σ α} (projects : act.Projects view other) :
    (onSource act).Projects (mapSource view) (onSource other) :=
  projects.zoom (fun _ => rfl) fun _ _ => rfl

/-- What an arena does without its backing. -/
theorem onChain_projects (act : Act Chain α) : (onChain act).Projects (mapSource view) (onChain act) :=
  (Act.projects_id act).zoom (fun _ => rfl) fun _ _ => rfl

variable (projects : backing.Projects view other)
include projects

theorem resizeHead_projects (newLength : Nat) :
    (resizeHead backing newLength).Projects (mapSource view) (resizeHead other newLength) := by
  refine Act.projects_get_bind fun arena => ?_
  rw [mapSource_toChain]
  rcases arena.nodes with _ | ⟨head, older⟩
  · exact Act.projects_pure _
  refine .ite (fun _ => Act.projects_pure _) fun _ => ?_
  refine .bind (onSource_projects (projects.resizeInPlace ..)) fun granted => ?_
  refine .ite (fun _ => ?_) fun _ => Act.projects_pure _
  refine .bind (Act.projects_log _) fun _ => ?_
  refine .bind (Act.projects_lift _) fun resized => ?_
  exact .bind (Act.projects_modify fun _ => rfl) fun _ => Act.projects_pure _

theorem allocateNode_projects (length : Nat) :
    (allocateNode backing length).Projects (mapSource view) (allocateNode other length) := by
  unfold allocateNode
  rcases Layout.ofSize? length nodeAlignment with _ | layout
  · exact Act.projects_pure _
  refine .bind (onSource_projects (projects.allocate layout)) fun answer => ?_
  cases answer with
  | ok block => exact .bind (Act.projects_lift _) fun node => Act.projects_pure _
  | error refusal => exact .bind (Act.projects_log _) fun _ => Act.projects_pure _

theorem linkNode_projects (previous footprint : Nat) :
    (linkNode backing previous footprint).Projects (mapSource view) (linkNode other previous footprint) := by
  refine Act.projects_get_bind fun arena => ?_
  rw [mapSource_config]
  rcases arena.config.nodeLength? previous footprint with _ | length
  · exact Act.projects_pure _
  refine .bind (allocateNode_projects projects length) fun node? => ?_
  cases node? with
  | none => exact Act.projects_pure _
  | some node =>
    refine .bind (Act.projects_modify fun _ => rfl) fun _ => ?_
    refine Act.projects_get_bind fun arena => ?_
    exact .bind (Act.projects_log _) fun _ => Act.projects_pure _

theorem round_projects (layout : Layout) :
    (round backing layout).Projects (mapSource view) (round other layout) := by
  refine Act.projects_get_bind fun arena => ?_
  have linked (previous : Nat) :
      (do if ← linkNode backing previous layout.footprint then return Round.again else return .refused).Projects
        (mapSource view)
        (do if ← linkNode other previous layout.footprint then return Round.again else return .refused) :=
    .bind (linkNode_projects projects previous _) fun linked =>
      .ite (fun _ => Act.projects_pure _) fun _ => Act.projects_pure _
  rw [mapSource_toChain]
  rcases arena.nodes with _ | ⟨head, older⟩
  · exact linked 0
  refine .bind (Act.projects_lift _) fun place? => ?_
  cases place? with
  | none => exact Act.projects_pure _
  | some place =>
    refine .ite (fun _ => ?_) fun _ => ?_
    · exact .bind (Act.projects_set _) fun _ => Act.projects_pure _
    · refine .bind (resizeHead_projects projects _) fun granted => ?_
      exact .ite (fun _ => Act.projects_pure _) fun _ => linked head.len

theorem allocWithin_projects (layout : Layout) (rounds : Nat) :
    (allocWithin backing layout rounds).Projects (mapSource view) (allocWithin other layout rounds) := by
  induction rounds with
  | zero => exact Act.projects_fail _ _
  | succ rounds ih =>
    refine .bind (round_projects projects layout) fun round => ?_
    cases round with
    | served block => exact Act.projects_pure _
    | refused => exact Act.projects_pure _
    | again => exact ih

theorem allocCopy_projects (bytes : List UInt8) (memory : Memory) :
    (allocCopy backing bytes memory).Projects (mapSource view) (allocCopy other bytes memory) := by
  unfold allocCopy
  rcases Layout.ofSize? bytes.length .one with _ | layout
  · exact Act.projects_pure _
  · exact .bind (allocWithin_projects projects layout 2) fun _ => Act.projects_pure _

theorem releaseNode_projects (node : Node) :
    (releaseNode backing node).Projects (mapSource view) (releaseNode other node) :=
  onSource_projects (projects.release ..)

theorem releaseNodes_projects (keep : Nat) (nodes : List Node) :
    (releaseNodes backing keep nodes).Projects (mapSource view) (releaseNodes other keep nodes) := by
  induction nodes with
  | nil => exact Act.projects_pure _
  | cons node older ih =>
    refine .ite (fun _ => Act.projects_pure _) fun _ => ?_
    refine .bind (Act.projects_modify fun _ => rfl) fun _ => ?_
    exact .bind (releaseNode_projects projects node) fun _ => ih

theorem releaseDownTo_projects (keep : Nat) :
    (releaseDownTo backing keep).Projects (mapSource view) (releaseDownTo other keep) := by
  refine Act.projects_get_bind fun arena => ?_
  exact .bind (releaseNodes_projects projects keep _) fun _ => Act.projects_modify fun _ => rfl

theorem replaceNode_projects (retained : Node) (target : Nat) :
    (replaceNode backing retained target).Projects (mapSource view) (replaceNode other retained target) := by
  refine .bind (allocateNode_projects projects target) fun fresh => ?_
  refine .bind (Act.projects_modify fun _ => rfl) fun _ => ?_
  refine .bind (releaseNode_projects projects retained) fun _ => ?_
  cases fresh with
  | none => exact .bind (Act.projects_log _) fun _ => Act.projects_pure _
  | some node =>
    refine .bind (Act.projects_modify fun _ => rfl) fun _ => ?_
    exact .bind (Act.projects_log _) fun _ => Act.projects_pure _

theorem reset_projects (retention : Retention) :
    (reset backing retention).Projects (mapSource view) (reset other retention) := by
  refine Act.projects_get_bind fun arena => ?_
  refine .bind (Act.projects_lift _) fun capacity => ?_
  refine .ite (fun _ => ?_) fun _ => ?_
  · refine .bind (releaseDownTo_projects projects 0) fun _ => ?_
    exact .bind (Act.projects_log _) fun _ => Act.projects_pure _
  refine .bind (releaseDownTo_projects projects 1) fun _ => ?_
  refine Act.projects_get_bind fun released => ?_
  rw [mapSource_toChain]
  rcases released.nodes with _ | ⟨retained, _⟩
  · exact Act.projects_pure _
  refine .ite (fun _ => .bind (Act.projects_log _) fun _ => Act.projects_pure _) fun _ => ?_
  refine .bind (resizeHead_projects projects _) fun granted => ?_
  refine .ite (fun _ => ?_) fun _ => replaceNode_projects projects retained _
  exact .bind (Act.projects_log _) fun _ => Act.projects_pure _

theorem prepare_projects (settings : Settings) :
    (prepare backing settings).Projects (mapSource view) (prepare other settings) := by
  unfold prepare
  rcases settings.validate with error | config
  · exact Act.projects_pure _
  refine .bind (Act.projects_modify fun _ => rfl) fun _ => ?_
  refine .ite (fun _ => Act.projects_pure _) fun _ => ?_
  refine .bind (allocateNode_projects projects _) fun node? => ?_
  cases node? with
  | none => exact Act.projects_pure _
  | some node => exact .bind (Act.projects_modify fun _ => rfl) fun _ => Act.projects_pure _

theorem adopt_projects (settings : Settings) :
    (adopt backing settings).Projects (mapSource view) (adopt other settings) := by
  unfold adopt
  rcases settings.validate with error | config
  · exact .bind (releaseDownTo_projects projects 0) fun _ => Act.projects_pure _
  · exact .bind (Act.projects_modify fun _ => rfl) fun _ => Act.projects_pure _

theorem reattach_projects (settings : Settings) :
    (reattach backing settings).Projects (mapSource view) (reattach other settings) := by
  intro arena answer trace arena' ran
  rw [run_reattach_eq_attach] at ran ⊢
  exact adopt_projects projects settings ran

omit projects in
theorem repromote_projects : (repromote backing).Projects (mapSource view) (repromote other) := by
  rintro arena _ _ _ ⟨⟩
  rfl

end Arena

namespace Workspace

variable {σ τ α : Type} {view : τ → σ} {backing : Backing τ} {other : Backing σ}

def mapSource (view : τ → σ) (workspace : Workspace τ) : Workspace σ :=
  ⟨workspace.arena.mapSource view, workspace.memory⟩

theorem onArena_projects {act : Act (Arena τ) α} {other : Act (Arena σ) α}
    (projects : act.Projects (Arena.mapSource view) other) : (onArena act).Projects (mapSource view) (onArena other) :=
  projects.zoom (fun _ => rfl) fun _ _ => rfl

/-- Every operation ends in the same way over the other backing. -/
theorem operate_projects (projects : backing.Projects view other) (operation : Operation) :
    (operate backing operation).Projects (mapSource view) (operate other operation) := by
  cases operation with
  | alloc layout =>
    exact .bind (onArena_projects (Arena.allocWithin_projects projects layout 2)) fun _ => Act.projects_pure _
  | allocCopy bytes =>
    refine Act.projects_get_bind fun workspace => ?_
    refine .bind (onArena_projects (Arena.allocCopy_projects projects bytes workspace.memory)) fun answer => ?_
    cases answer with
    | ok copied => exact .bind (Act.projects_modify fun _ => rfl) fun _ => Act.projects_pure _
    | error error => exact Act.projects_pure _
  | resize block newSize => exact .bind (onArena_projects (Arena.onChain_projects _)) fun _ => Act.projects_pure _
  | remap block newSize => exact .bind (onArena_projects (Arena.onChain_projects _)) fun _ => Act.projects_pure _
  | free block => exact .bind (onArena_projects (Arena.onChain_projects _)) fun _ => Act.projects_pure _
  | reset retention =>
    exact .bind (onArena_projects (Arena.reset_projects projects retention)) fun _ => Act.projects_pure _

end Workspace
end BumpArena
