import Mathlib.Data.Multiset.AddSub
import BumpArena.Proofs.Contract

/-!
A backing with a journal of the calls that reach it. `Ledger.outstanding` reads off the journal what is out,
and `Ledger.Honest` says that every call for a block describes it as it was then. A client for which the
backing keeps its promise has an honest journal, in which exactly the grants of the client are out
(`Ledger.lendsNodes`).
-/
namespace BumpArena

/-- A call and its answer. -/
inductive Call where
  | granted (grant : Grant)
  | refused (layout : Layout)
  | resized (grant : Grant) (newSize : Nat) (granted : Bool)
  | released (grant : Grant)
  deriving DecidableEq

/-- The call for a new block, with its answer. -/
def Call.ofAnswer (layout : Layout) : Except Refusal Block → Call
  | .ok block => granted (layout.grant block.addr)
  | .error _ => refused layout

/-- The state of a backing and the calls that it has answered, newest first. -/
structure Ledger (σ : Type) where
  inner : σ
  calls : List Call

namespace Ledger

variable {σ α : Type}

def onInner (act : Act σ α) : Act (Ledger σ) α :=
  act.zoom Ledger.inner fun ledger inner => { ledger with inner }

def enter (call : Call) : Act (Ledger σ) Unit :=
  modify fun ledger => { ledger with calls := call :: ledger.calls }

/-- The backing with every call entered in the journal. -/
def backing (inner : Backing σ) : Backing (Ledger σ) where
  allocate layout := do
    match ← onInner (inner.allocate layout) with
    | .ok block =>
      enter (.granted (layout.grant block.addr))
      return .ok block
    | .error refusal =>
      enter (.refused layout)
      return .error refusal
  resizeInPlace addr layout newSize := do
    let granted ← onInner (inner.resizeInPlace addr layout newSize)
    enter (.resized (layout.grant addr) newSize granted)
    return granted
  release addr layout := do
    onInner (inner.release addr layout)
    enter (.released (layout.grant addr))

section

variable {inner : Backing σ} {layout : Layout} {addr : Nat} {before after : σ} {trace : Trace}

theorem run_allocate (calls : List Call) {answer : Except Refusal Block}
    (ran : (inner.allocate layout).run before = ⟨.ok answer, trace, after⟩) :
    ((backing inner).allocate layout).run ⟨before, calls⟩ =
      ⟨.ok answer, trace, ⟨after, .ofAnswer layout answer :: calls⟩⟩ := by
  simp only [backing, onInner, enter, Act.run_bind, Act.run_zoom, ran]
  cases answer with
  | ok block => simp [Except.map, Call.ofAnswer]
  | error refusal => simp [Except.map, Call.ofAnswer]

theorem run_resizeInPlace (calls : List Call) {newSize : Nat} {granted : Bool}
    (ran : (inner.resizeInPlace addr layout newSize).run before = ⟨.ok granted, trace, after⟩) :
    ((backing inner).resizeInPlace addr layout newSize).run ⟨before, calls⟩ =
      ⟨.ok granted, trace, ⟨after, .resized (layout.grant addr) newSize granted :: calls⟩⟩ := by
  simp only [backing, onInner, enter, Act.run_bind, Act.run_zoom, ran]
  simp

theorem run_release (calls : List Call)
    (ran : (inner.release addr layout).run before = ⟨.ok (), trace, after⟩) :
    ((backing inner).release addr layout).run ⟨before, calls⟩ =
      ⟨.ok (), trace, ⟨after, .released (layout.grant addr) :: calls⟩⟩ := by
  simp only [backing, onInner, enter, Act.run_bind, Act.run_zoom, ran]
  simp

variable {ledger ledger' : Ledger σ}

/-- A call that ended is the newest one in the journal. -/
theorem calls_of_run_allocate {answer : Except Refusal Block}
    (ran : ((backing inner).allocate layout).run ledger = ⟨.ok answer, trace, ledger'⟩) :
    ledger'.calls = .ofAnswer layout answer :: ledger.calls := by
  obtain ⟨s, calls⟩ := ledger
  rcases inside : (inner.allocate layout).run s with ⟨fault | answer', trace', s'⟩
  · simp [backing, onInner, Act.run_bind, inside] at ran
  · rw [run_allocate calls inside] at ran
    injection ran with same _ ended
    injection same with same
    rw [← ended, same]

theorem calls_of_run_resizeInPlace {newSize : Nat} {granted : Bool}
    (ran : ((backing inner).resizeInPlace addr layout newSize).run ledger = ⟨.ok granted, trace, ledger'⟩) :
    ledger'.calls = .resized (layout.grant addr) newSize granted :: ledger.calls := by
  obtain ⟨s, calls⟩ := ledger
  rcases inside : (inner.resizeInPlace addr layout newSize).run s with ⟨fault | granted', trace', s'⟩
  · simp [backing, onInner, Act.run_bind, inside] at ran
  · rw [run_resizeInPlace calls inside] at ran
    injection ran with same _ ended
    injection same with same
    rw [← ended, same]

theorem calls_of_run_release
    (ran : ((backing inner).release addr layout).run ledger = ⟨.ok (), trace, ledger'⟩) :
    ledger'.calls = .released (layout.grant addr) :: ledger.calls := by
  obtain ⟨s, calls⟩ := ledger
  rcases inside : (inner.release addr layout).run s with ⟨fault | _, trace', s'⟩
  · simp [backing, onInner, Act.run_bind, inside] at ran
  · rw [run_release calls inside] at ran
    injection ran with _ _ ended
    rw [← ended]

theorem exists_run_allocate (calls : List Call) {answer : Except Refusal Block}
    (ran : (inner.allocate layout).run before = ⟨.ok answer, trace, after⟩) :
    ∃ call, ((backing inner).allocate layout).run ⟨before, calls⟩ = ⟨.ok answer, trace, ⟨after, call :: calls⟩⟩ :=
  ⟨_, run_allocate calls ran⟩

theorem exists_run_resizeInPlace (calls : List Call) {newSize : Nat} {granted : Bool}
    (ran : (inner.resizeInPlace addr layout newSize).run before = ⟨.ok granted, trace, after⟩) :
    ∃ call, ((backing inner).resizeInPlace addr layout newSize).run ⟨before, calls⟩ =
      ⟨.ok granted, trace, ⟨after, call :: calls⟩⟩ :=
  ⟨_, run_resizeInPlace calls ran⟩

theorem exists_run_release (calls : List Call)
    (ran : (inner.release addr layout).run before = ⟨.ok (), trace, after⟩) :
    ∃ call, ((backing inner).release addr layout).run ⟨before, calls⟩ = ⟨.ok (), trace, ⟨after, call :: calls⟩⟩ :=
  ⟨_, run_release calls ran⟩

end

/-- What is out after these calls. -/
def outstanding : List Call → Multiset Grant
  | [] => 0
  | .granted grant :: earlier => grant ::ₘ outstanding earlier
  | .refused _ :: earlier => outstanding earlier
  | .resized grant newSize granted :: earlier =>
    if granted then grant.resized newSize ::ₘ (outstanding earlier).erase grant else outstanding earlier
  | .released grant :: earlier => (outstanding earlier).erase grant

/-- Every block that a call names was out then, with this address, this size and the alignment of a node. -/
def Honest : List Call → Prop
  | [] => True
  | .granted grant :: earlier => grant.align = nodeAlignment ∧ Honest earlier
  | .refused layout :: earlier => layout.align = nodeAlignment ∧ Honest earlier
  | .resized grant _ _ :: earlier | .released grant :: earlier =>
    (grant ∈ outstanding earlier ∧ grant.align = nodeAlignment) ∧ Honest earlier

/-- The journal tells the truth about these grants. -/
structure Lent (Out : σ → List Grant → Prop) (ledger : Ledger σ) (grants : List Grant) : Prop where
  out : Out ledger.inner grants
  honest : Honest ledger.calls
  outstanding_eq : outstanding ledger.calls = grants

theorem lent_nil {Out : σ → List Grant → Prop} {s : σ} (out : Out s []) : Lent Out ⟨s, []⟩ [] :=
  ⟨out, trivial, rfl⟩

variable {before after : List Grant} {grant : Grant}

private theorem coe_middle :
    ((before ++ grant :: after : List Grant) : Multiset Grant) = grant ::ₘ ↑(before ++ after) := by
  rw [Multiset.cons_coe, Multiset.coe_eq_coe]
  exact List.perm_middle

/-- What a backing promises to an arena, it promises with a journal. -/
theorem lendsNodes {inner : Backing σ} {Out : σ → List Grant → Prop} (lends : inner.LendsNodes Out) :
    (backing inner).LendsNodes (Lent Out) where
  spread lent := lends.spread lent.out
  below lent := lends.below lent.out
  allocate {ledger grants layout} lent asked := by
    simp only [backing, onInner, enter, Act.ends_bind, Act.ends_zoom]
    refine (lends.allocate lent.out asked).mono ?_
    rintro (refusal | block) _ s' kept
    · simp only [Act.ends_bind, Act.ends_modify, Act.ends_pure]
      exact ⟨kept, ⟨asked, lent.honest⟩, lent.outstanding_eq⟩
    · simp only [Act.ends_bind, Act.ends_modify, Act.ends_pure]
      refine ⟨kept, ⟨asked, lent.honest⟩, ?_⟩
      rw [outstanding, lent.outstanding_eq, Multiset.cons_coe]
  resizeInPlace {ledger before after layout addr} newSize lent asked := by
    have out : outstanding ledger.calls = layout.grant addr ::ₘ ↑(before ++ after) :=
      lent.outstanding_eq.trans coe_middle
    have member : layout.grant addr ∈ outstanding ledger.calls := out ▸ Multiset.mem_cons_self ..
    simp only [backing, onInner, enter, Act.ends_bind, Act.ends_zoom, Act.ends_modify, Act.ends_pure]
    refine (lends.resizeInPlace newSize lent.out asked).mono ?_
    intro granted _ s' kept
    refine ⟨kept, ⟨⟨member, asked⟩, lent.honest⟩, ?_⟩
    cases granted with
    | false => exact lent.outstanding_eq
    | true =>
      simp only [outstanding, ↓reduceIte]
      rw [out, Multiset.erase_cons_head, coe_middle]
  release {ledger before after layout addr} lent asked := by
    have out : outstanding ledger.calls = layout.grant addr ::ₘ ↑(before ++ after) :=
      lent.outstanding_eq.trans coe_middle
    have member : layout.grant addr ∈ outstanding ledger.calls := out ▸ Multiset.mem_cons_self ..
    simp only [backing, onInner, enter, Act.ends_bind, Act.ends_zoom, Act.ends_modify]
    refine (lends.release lent.out asked).mono ?_
    intro _ _ s' kept
    refine ⟨kept, ⟨⟨member, asked⟩, lent.honest⟩, ?_⟩
    rw [outstanding, out, Multiset.erase_cons_head]

end Ledger
end BumpArena
