import BumpArena.Act

/-!
Total correctness of actions. `Act.Ends` says that an action ends with a value and not with a fault, and
what holds of that value, of the trace and of the state then. There is one lemma for each way in which
actions are made, so that the statement about a whole action falls apart into statements about its steps.
-/
namespace BumpArena.Act

variable {σ τ α β : Type}

/-- The action ends with a value, and `post` holds of the value, the trace and the state that is reached. -/
def Ends (act : Act σ α) (s : σ) (post : α → Trace → σ → Prop) : Prop :=
  ∃ a trace s', act.run s = ⟨.ok a, trace, s'⟩ ∧ post a trace s'

theorem Ends.mono {act : Act σ α} {s : σ} {post weaker : α → Trace → σ → Prop} (ends : act.Ends s post)
    (implied : ∀ a trace s', post a trace s' → weaker a trace s') : act.Ends s weaker := by
  obtain ⟨a, trace, s', ran, holds⟩ := ends
  exact ⟨a, trace, s', ran, implied a trace s' holds⟩

/-- An action has one end only, so what holds of some end holds of the end at hand. -/
theorem Ends.of_run {act : Act σ α} {s s' : σ} {post : α → Trace → σ → Prop} {a : α} {trace : Trace}
    (ends : act.Ends s post) (ran : act.run s = ⟨.ok a, trace, s'⟩) : post a trace s' := by
  obtain ⟨b, other, t, ran', holds⟩ := ends
  rw [ran] at ran'
  injection ran' with value traces states
  injection value with value
  subst value traces states
  exact holds

theorem Ends.and {act : Act σ α} {s : σ} {post other : α → Trace → σ → Prop} (ends : act.Ends s post)
    (also : act.Ends s other) : act.Ends s fun a trace s' => post a trace s' ∧ other a trace s' := by
  obtain ⟨a, trace, s', ran, holds⟩ := ends
  exact ⟨a, trace, s', ran, holds, also.of_run ran⟩

theorem ends_iff_of_run {act : Act σ α} {s s' : σ} {post : α → Trace → σ → Prop} {a : α} {trace : Trace}
    (ran : act.run s = ⟨.ok a, trace, s'⟩) : act.Ends s post ↔ post a trace s' :=
  ⟨fun ends => ends.of_run ran, fun holds => ⟨a, trace, s', ran, holds⟩⟩

theorem run_of_value {act : Act σ α} {s : σ} {a : α} (value : (act.run s).value = .ok a) :
    act.run s = ⟨.ok a, (act.run s).trace, (act.run s).state⟩ := by
  rw [← value]

theorem ends_congr {act other : Act σ α} {s : σ} {post : α → Trace → σ → Prop}
    (same : act.run s = other.run s) : act.Ends s post ↔ other.Ends s post := by
  rw [Ends, Ends, same]

@[simp] theorem ends_pure (a : α) (s : σ) (post : α → Trace → σ → Prop) :
    (pure a : Act σ α).Ends s post ↔ post a [] s := ends_iff_of_run (run_pure a s)

@[simp] theorem ends_bind (act : Act σ α) (next : α → Act σ β) (s : σ) (post : β → Trace → σ → Prop) :
    (act >>= next).Ends s post ↔ act.Ends s fun a trace s' =>
      (next a).Ends s' fun b later s'' => post b (trace ++ later) s'' := by
  constructor
  · rintro ⟨b, trace, s'', ran, holds⟩
    rw [run_bind] at ran
    rcases first : act.run s with ⟨fault | a, earlier, s'⟩
    · simp [first] at ran
    · rcases second : (next a).run s' with ⟨value, later, last⟩
      simp only [first, second, Outcome.after_mk] at ran
      injection ran with value' traces states
      subst value' traces states
      exact ⟨a, earlier, s', first, b, later, last, second, holds⟩
  · rintro ⟨a, earlier, s', first, b, later, s'', second, holds⟩
    refine ⟨b, earlier ++ later, s'', ?_, holds⟩
    rw [run_bind_of_ok first, second, Outcome.after_mk]

@[simp] theorem ends_map (f : α → β) (act : Act σ α) (s : σ) (post : β → Trace → σ → Prop) :
    (f <$> act).Ends s post ↔ act.Ends s fun a trace s' => post (f a) trace s' := by
  rw [← bind_pure_comp, ends_bind]
  simp

@[simp] theorem ends_get (s : σ) (post : σ → Trace → σ → Prop) :
    (get : Act σ σ).Ends s post ↔ post s [] s := ends_iff_of_run (run_get s)

@[simp] theorem ends_set (s s' : σ) (post : Unit → Trace → σ → Prop) :
    (set s' : Act σ Unit).Ends s post ↔ post () [] s' := ends_iff_of_run (run_set s s')

@[simp] theorem ends_modify (step : σ → σ) (s : σ) (post : Unit → Trace → σ → Prop) :
    (modify step : Act σ Unit).Ends s post ↔ post () [] (step s) := ends_iff_of_run (run_modify step s)

@[simp] theorem ends_log (record : Record) (s : σ) (post : Unit → Trace → σ → Prop) :
    (log record : Act σ Unit).Ends s post ↔ post () [.log record] s := ends_iff_of_run (run_log record s)

@[simp] theorem ends_lift_ok (a : α) (s : σ) (post : α → Trace → σ → Prop) :
    (liftM (.ok a : Except Fault α) : Act σ α).Ends s post ↔ post a [] s :=
  ends_pure a s post

@[simp] theorem ends_zoom (part : τ → σ) (replace : τ → σ → τ) (act : Act σ α) (t : τ)
    (post : α → Trace → τ → Prop) :
    (act.zoom part replace).Ends t post ↔
      act.Ends (part t) fun a trace s' => post a trace (replace t s') := by
  constructor
  · rintro ⟨a, trace, t', ran, holds⟩
    rcases inner : act.run (part t) with ⟨value, trace', s'⟩
    simp only [run_zoom, inner] at ran
    injection ran with value' traces states
    subst value' traces states
    exact ⟨a, trace', s', inner, holds⟩
  · rintro ⟨a, trace, s', ran, holds⟩
    exact ⟨a, trace, replace t s', by rw [run_zoom, ran], holds⟩

end BumpArena.Act
