import BumpArena.Trace

/-!
The computations of this library. An action on a state of type `σ` ends with a value or a fault, and
in both cases with the state it has reached and the trace of what happened on the way. It can add to
the trace and never reads it.
-/
namespace BumpArena

structure Outcome (σ α : Type) where
  value : Except Fault α
  trace : Trace
  state : σ

def Outcome.after {σ α : Type} (outcome : Outcome σ α) (earlier : Trace) : Outcome σ α :=
  { outcome with trace := earlier ++ outcome.trace }

/-- A computation on a state of type `σ` with a value of type `α`. -/
def Act (σ α : Type) : Type := σ → Outcome σ α

namespace Act

variable {σ τ α β : Type}

def run (act : Act σ α) (s : σ) : Outcome σ α := act s

protected def pure (a : α) : Act σ α := fun s => ⟨.ok a, [], s⟩

protected def fail (fault : Fault) : Act σ α := fun s => ⟨.error fault, [], s⟩

/-- Runs `act`, then what `next` makes of its value; a fault of `act` ends both. -/
protected def bind (act : Act σ α) (next : α → Act σ β) : Act σ β := fun s =>
  match act s with
  | ⟨.ok a, trace, s'⟩ => (next a s').after trace
  | ⟨.error fault, trace, s'⟩ => ⟨.error fault, trace, s'⟩

instance : Monad (Act σ) where
  pure := Act.pure
  bind := Act.bind

instance : MonadStateOf σ (Act σ) where
  get := fun s => ⟨.ok s, [], s⟩
  set s := fun _ => ⟨.ok (), [], s⟩
  modifyGet f := fun s =>
    let (a, s') := f s
    ⟨.ok a, [], s'⟩

def ofExcept : Except Fault α → Act σ α
  | .ok a => Act.pure a
  | .error fault => Act.fail fault

instance : MonadLift (Except Fault) (Act σ) where
  monadLift := ofExcept

def log (record : Record) : Act σ Unit := fun s => ⟨.ok (), [.log record], s⟩

/-- Runs `act` and adds to its trace what `note` says about its end. -/
def noted (act : Act σ α) (note : Except Fault α → Trace) : Act σ α := fun s =>
  let outcome := act s
  { outcome with trace := outcome.trace ++ note outcome.value }

/-- Runs `act` and takes `fallback` for its value if it stops with a fault. -/
def recover (act : Act σ α) (fallback : α) : Act σ α := fun s =>
  match act s with
  | ⟨.ok a, trace, s'⟩ => ⟨.ok a, trace, s'⟩
  | ⟨.error _, trace, s'⟩ => ⟨.ok fallback, trace, s'⟩

/-- Runs an action on a part of a larger state. -/
def zoom (part : τ → σ) (replace : τ → σ → τ) (act : Act σ α) : Act τ α := fun t =>
  let outcome := act (part t)
  ⟨outcome.value, outcome.trace, replace t outcome.state⟩

end Act

/-! ### Outcomes, action by action -/

namespace Outcome

variable {σ α : Type}

@[simp] theorem after_nil (outcome : Outcome σ α) : outcome.after [] = outcome := rfl

@[simp] theorem after_after (outcome : Outcome σ α) (first second : Trace) :
    (outcome.after second).after first = outcome.after (first ++ second) := by
  simp [after]

@[simp] theorem after_mk (value : Except Fault α) (trace earlier : Trace) (s : σ) :
    (⟨value, trace, s⟩ : Outcome σ α).after earlier = ⟨value, earlier ++ trace, s⟩ := rfl

end Outcome

namespace Act

variable {σ τ α β : Type}

@[simp] theorem run_pure (a : α) (s : σ) : (pure a : Act σ α).run s = ⟨.ok a, [], s⟩ := rfl

@[simp] theorem run_fail (fault : Fault) (s : σ) :
    (Act.fail fault : Act σ α).run s = ⟨.error fault, [], s⟩ := rfl

theorem run_bind (act : Act σ α) (next : α → Act σ β) (s : σ) :
    (act >>= next).run s =
      match act.run s with
      | ⟨.ok a, trace, s'⟩ => ((next a).run s').after trace
      | ⟨.error fault, trace, s'⟩ => ⟨.error fault, trace, s'⟩ := rfl

theorem run_bind_of_ok {act : Act σ α} {s s' : σ} {a : α} {trace : Trace}
    (ran : act.run s = ⟨.ok a, trace, s'⟩) (next : α → Act σ β) :
    (act >>= next).run s = ((next a).run s').after trace := by
  rw [run_bind, ran]

theorem run_bind_of_error {act : Act σ α} {s s' : σ} {fault : Fault} {trace : Trace}
    (ran : act.run s = ⟨.error fault, trace, s'⟩) (next : α → Act σ β) :
    (act >>= next).run s = ⟨.error fault, trace, s'⟩ := by
  rw [run_bind, ran]

@[simp] theorem run_get (s : σ) : (get : Act σ σ).run s = ⟨.ok s, [], s⟩ := rfl

@[simp] theorem run_set (s s' : σ) : (set s' : Act σ Unit).run s = ⟨.ok (), [], s'⟩ := rfl

@[simp] theorem run_modify (step : σ → σ) (s : σ) :
    (modify step : Act σ Unit).run s = ⟨.ok (), [], step s⟩ := rfl

@[simp] theorem run_lift_ok (a : α) (s : σ) :
    (liftM (.ok a : Except Fault α) : Act σ α).run s = ⟨.ok a, [], s⟩ := rfl

@[simp] theorem run_lift_error (fault : Fault) (s : σ) :
    (liftM (.error fault : Except Fault α) : Act σ α).run s = ⟨.error fault, [], s⟩ := rfl

@[simp] theorem run_map (f : α → β) (act : Act σ α) (s : σ) :
    (f <$> act).run s = ⟨(act.run s).value.map f, (act.run s).trace, (act.run s).state⟩ := by
  show Act.bind act (Act.pure ∘ f) s = _
  unfold Act.bind run
  rcases act s with ⟨_ | a, trace, s'⟩ <;> simp [Outcome.after, Act.pure, Except.map]

@[simp] theorem run_log (record : Record) (s : σ) :
    (log record : Act σ Unit).run s = ⟨.ok (), [.log record], s⟩ := rfl

@[simp] theorem run_noted (act : Act σ α) (note : Except Fault α → Trace) (s : σ) :
    (act.noted note).run s =
      ⟨(act.run s).value, (act.run s).trace ++ note (act.run s).value, (act.run s).state⟩ := rfl

theorem run_recover (act : Act σ α) (fallback : α) (s : σ) :
    (act.recover fallback).run s =
      match act.run s with
      | ⟨.ok a, trace, s'⟩ => ⟨.ok a, trace, s'⟩
      | ⟨.error _, trace, s'⟩ => ⟨.ok fallback, trace, s'⟩ := rfl

@[simp] theorem run_zoom (part : τ → σ) (replace : τ → σ → τ) (act : Act σ α) (t : τ) :
    (act.zoom part replace).run t =
      ⟨(act.run (part t)).value, (act.run (part t)).trace, replace t (act.run (part t)).state⟩ := rfl

instance : LawfulMonad (Act σ) := LawfulMonad.mk'
  (Act σ)
  (fun act => by
    funext s
    rcases h : act s with ⟨_ | _, trace, s'⟩ <;> simp [Functor.map, Act.bind, Act.pure, h])
  (fun _ _ => rfl)
  (fun act next last => by
    funext s
    rcases h : act s with ⟨_ | a, trace, s'⟩
    · simp [Bind.bind, Act.bind, h]
    · rcases h' : next a s' with ⟨_ | b, trace', s''⟩ <;> simp [Bind.bind, Act.bind, h, h'])

end Act
end BumpArena
