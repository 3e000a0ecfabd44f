import BumpArena.Proofs.Operations

/-!
What actions leave alone. `Act.Leaves` says that a property holds of the state in which an action ends, by a value or by
a fault. So it can speak about an arena over a backing that promises nothing: whatever that backing does, no operation
changes the config of the arena (`Workspace.operate_leaves`).
-/
namespace BumpArena

namespace Act

variable {σ τ α β : Type} {kept : σ → Prop}

/-- The property holds of the state in which the action ends. -/
def Leaves (kept : σ → Prop) (act : Act σ α) (s : σ) : Prop := kept (act.run s).state

@[simp] theorem leaves_pure (a : α) (s : σ) : (pure a : Act σ α).Leaves kept s ↔ kept s := Iff.rfl

@[simp] theorem leaves_get_bind (next : σ → Act σ α) (s : σ) :
    (get >>= next).Leaves kept s ↔ (next s).Leaves kept s := Iff.rfl

@[simp] theorem leaves_set_bind (next : Unit → Act σ α) (s s' : σ) :
    (set s' >>= next).Leaves kept s ↔ (next ()).Leaves kept s' := Iff.rfl

@[simp] theorem leaves_modify_bind (step : σ → σ) (next : Unit → Act σ α) (s : σ) :
    (modify step >>= next).Leaves kept s ↔ (next ()).Leaves kept (step s) := Iff.rfl

@[simp] theorem leaves_log_bind (record : Record) (next : Unit → Act σ α) (s : σ) :
    (log record >>= next).Leaves kept s ↔ (next ()).Leaves kept s := Iff.rfl

theorem leaves_lift (value : Except Fault α) (s : σ) :
    (liftM value : Act σ α).Leaves kept s ↔ kept s := by
  cases value with
  | ok => exact Iff.rfl
  | error => exact Iff.rfl

/-- A part of the state that the action has no access to. -/
theorem leaves_zoom {kept : τ → Prop} (part : τ → σ) (replace : τ → σ → τ) (act : Act σ α) (t : τ)
    (apart : ∀ s, kept (replace t s)) : (act.zoom part replace).Leaves kept t := apart _

/-- A fault of the first action ends both. -/
theorem leaves_bind {act : Act σ α} {next : α → Act σ β} {s : σ} (first : act.Leaves kept s)
    (rest : ∀ a s', kept s' → (next a).Leaves kept s') : (act >>= next).Leaves kept s := by
  unfold Leaves at *
  rw [run_bind]
  rcases ran : act.run s with ⟨fault | a, trace, s'⟩
  · rwa [ran] at first
  · rw [ran] at first
    exact rest a s' first

/-- What follows an action matters only in the states that it leaves. -/
theorem run_bind_congr {act : Act σ α} {next other : α → Act σ β} {s : σ} (first : act.Leaves kept s)
    (same : ∀ a s', kept s' → (next a).run s' = (other a).run s') : (act >>= next).run s = (act >>= other).run s := by
  unfold Leaves at first
  rw [run_bind, run_bind]
  rcases ran : act.run s with ⟨fault | a, trace, s'⟩
  · rfl
  · rw [ran] at first
    simp only [same a s' first]

end Act

namespace Arena

variable {σ α : Type} {backing : Backing σ} {config : Config} {arena : Arena σ}

/-- The arena has this config. -/
def Under (config : Config) (arena : Arena σ) : Prop := arena.config = config

theorem onSource_leaves (act : Act σ α) (under : arena.Under config) : (onSource act).Leaves (Under config) arena :=
  Act.leaves_zoom _ _ _ _ fun _ => under

theorem onChain_leaves (act : Act Chain α) (under : arena.Under config) : (onChain act).Leaves (Under config) arena :=
  Act.leaves_zoom _ _ _ _ fun _ => under

theorem resizeHead_leaves (newLength : Nat) (under : arena.Under config) :
    (resizeHead backing newLength).Leaves (Under config) arena := by
  rw [resizeHead, Act.leaves_get_bind]
  rcases arena.nodes with _ | ⟨head, older⟩
  · exact under
  · by_cases none : (Layout.ofSize? newLength nodeAlignment).isNone
    · simp only [none, ↓reduceIte, Act.leaves_pure]
      exact under
    · simp only [none, Bool.false_eq_true, ↓reduceIte]
      refine Act.leaves_bind (onSource_leaves _ under) ?_
      intro granted asked under'
      cases granted with
      | false => exact under'
      | true =>
        simp only [↓reduceIte, Act.leaves_log_bind]
        refine Act.leaves_bind ((Act.leaves_lift ..).mpr under') ?_
        intro resized asked' under''
        exact under''

theorem allocateNode_leaves (length : Nat) (under : arena.Under config) :
    (allocateNode backing length).Leaves (Under config) arena := by
  unfold allocateNode
  rcases Layout.ofSize? length nodeAlignment with _ | layout
  · exact under
  · refine Act.leaves_bind (onSource_leaves _ under) ?_
    intro answer asked under'
    cases answer with
    | error refusal => exact under'
    | ok block =>
      refine Act.leaves_bind ((Act.leaves_lift ..).mpr under') ?_
      intro node asked' under''
      exact under''

theorem linkNode_leaves (previous footprint : Nat) (under : arena.Under config) :
    (linkNode backing previous footprint).Leaves (Under config) arena := by
  rw [linkNode, Act.leaves_get_bind]
  rcases arena.config.nodeLength? previous footprint with _ | length
  · exact under
  · refine Act.leaves_bind (allocateNode_leaves length under) ?_
    intro node? asked under'
    cases node? with
    | none => exact under'
    | some node => exact under'

theorem round_leaves (layout : Layout) (under : arena.Under config) :
    (round backing layout).Leaves (Under config) arena := by
  have linked {asked : Arena σ} (previous : Nat) (under' : asked.Under config) :
      (do if ← linkNode backing previous layout.footprint then return Round.again else return .refused).Leaves
        (Under config) asked := by
    refine Act.leaves_bind (linkNode_leaves previous _ under') ?_
    intro linked asked' under''
    cases linked with
    | false => exact under''
    | true => exact under''
  rw [round, Act.leaves_get_bind]
  rcases nodes : arena.nodes with _ | ⟨head, older⟩
  · exact linked 0 under
  · refine Act.leaves_bind ((Act.leaves_lift ..).mpr under) ?_
    intro place? asked under'
    cases place? with
    | none => exact under'
    | some place =>
      by_cases fits : place.finish ≤ head.len
      · simp only [fits, ↓reduceIte, Act.leaves_set_bind, Act.leaves_pure]
        exact under
      · simp only [fits, ↓reduceIte]
        refine Act.leaves_bind (resizeHead_leaves _ under') ?_
        intro granted asked' under''
        cases granted with
        | false => exact linked head.len under''
        | true => exact under''

theorem allocWithin_leaves (layout : Layout) (rounds : Nat) (under : arena.Under config) :
    (allocWithin backing layout rounds).Leaves (Under config) arena := by
  induction rounds generalizing arena with
  | zero => exact under
  | succ rounds ih =>
    rw [allocWithin]
    refine Act.leaves_bind (round_leaves layout under) ?_
    intro round asked under'
    cases round with
    | served block => exact under'
    | refused => exact under'
    | again => exact ih under'

theorem allocCopy_leaves (bytes : List UInt8) (memory : Memory) (under : arena.Under config) :
    (allocCopy backing bytes memory).Leaves (Under config) arena := by
  rw [allocCopy]
  rcases Layout.ofSize? bytes.length .one with _ | layout
  · exact under
  · refine Act.leaves_bind (allocWithin_leaves layout 2 under) ?_
    intro answer asked under'
    exact under'

theorem releaseNodes_leaves (keep : Nat) (nodes : List Node) (under : arena.Under config) :
    (releaseNodes backing keep nodes).Leaves (Under config) arena := by
  induction nodes generalizing arena with
  | nil => exact under
  | cons node older ih =>
    rw [releaseNodes]
    by_cases few : older.length < keep
    · simp only [few, ↓reduceIte]
      exact under
    · simp only [few, ↓reduceIte, Act.leaves_modify_bind]
      refine Act.leaves_bind (onSource_leaves _ under) ?_
      intro _ released under'
      exact ih under'

theorem releaseDownTo_leaves (keep : Nat) (under : arena.Under config) :
    (releaseDownTo backing keep).Leaves (Under config) arena := by
  rw [releaseDownTo, Act.leaves_get_bind]
  refine Act.leaves_bind (releaseNodes_leaves keep _ under) ?_
  intro _ released under'
  exact under'

theorem replaceNode_leaves (retained : Node) (target : Nat) (under : arena.Under config) :
    (replaceNode backing retained target).Leaves (Under config) arena := by
  rw [replaceNode]
  refine Act.leaves_bind (allocateNode_leaves target under) ?_
  intro fresh? asked under'
  rw [Act.leaves_modify_bind]
  refine Act.leaves_bind (onSource_leaves _ under') ?_
  intro _ released under''
  cases fresh? with
  | none => exact under''
  | some fresh => exact under''

theorem reset_leaves (retention : Retention) (under : arena.Under config) :
    (reset backing retention).Leaves (Under config) arena := by
  rw [reset, Act.leaves_get_bind]
  refine Act.leaves_bind ((Act.leaves_lift ..).mpr under) ?_
  intro capacity counted under'
  by_cases none : retention.target capacity = 0
  · simp only [none, ↓reduceIte]
    refine Act.leaves_bind (releaseDownTo_leaves 0 under') ?_
    intro _ released under''
    exact under''
  simp only [none, ↓reduceIte]
  refine Act.leaves_bind (releaseDownTo_leaves 1 under') ?_
  intro _ released under''
  rw [Act.leaves_get_bind]
  rcases released.nodes with _ | ⟨retained, _⟩
  · exact under''
  by_cases same : retained.len = retention.target capacity
  · simp only [same, ↓reduceIte, Act.leaves_log_bind, Act.leaves_pure]
    exact under''
  simp only [same, ↓reduceIte]
  refine Act.leaves_bind (resizeHead_leaves _ under'') ?_
  intro granted asked still
  cases granted with
  | false => exact replaceNode_leaves retained _ still
  | true => exact still

end Arena

namespace Workspace

variable {σ α : Type} {backing : Backing σ} {config : Config} {workspace : Workspace σ}

/-- The arena of the workspace has this config. -/
def Under (config : Config) (workspace : Workspace σ) : Prop := workspace.arena.Under config

theorem onArena_leaves {act : Act (Arena σ) α} (acts : act.Leaves (Arena.Under config) workspace.arena) :
    (onArena act).Leaves (Under config) workspace := acts

/-- No operation changes the config of the arena, whatever the backing does. -/
theorem operate_leaves (operation : Operation) (under : workspace.Under config) :
    (operate backing operation).Leaves (Under config) workspace := by
  cases operation with
  | alloc layout =>
    refine Act.leaves_bind (onArena_leaves (Arena.allocWithin_leaves layout 2 under)) ?_
    exact fun _ _ under' => under'
  | allocCopy bytes =>
    rw [operate, Act.leaves_get_bind]
    refine Act.leaves_bind (onArena_leaves (Arena.allocCopy_leaves bytes _ under)) ?_
    intro answer _ under'
    cases answer with
    | error error => exact under'
    | ok copied => exact under'
  | resize block newSize =>
    refine Act.leaves_bind (onArena_leaves (Arena.onChain_leaves _ under)) ?_
    exact fun _ _ under' => under'
  | remap block newSize =>
    refine Act.leaves_bind (onArena_leaves (Arena.onChain_leaves _ under)) ?_
    exact fun _ _ under' => under'
  | free block =>
    refine Act.leaves_bind (onArena_leaves (Arena.onChain_leaves _ under)) ?_
    exact fun _ _ under' => under'
  | reset retention =>
    refine Act.leaves_bind (onArena_leaves (Arena.reset_leaves retention under)) ?_
    exact fun _ _ under' => under'

end Workspace
end BumpArena
