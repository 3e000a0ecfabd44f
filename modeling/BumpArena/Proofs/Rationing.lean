import BumpArena.Backing.Rationed
import BumpArena.Proofs.Demands
import BumpArena.Proofs.Ledger

/-!
What the budget of a rationed backing counts. It counts requests: each one that reaches the backing behind it uses up
one unit, whether it is granted there or not. So a request is refused for want of budget exactly if so many requests
have been made since the budget was set (`Rationed.injects_iff_requested`). At most so many are granted before that,
and fewer if the backing itself has refused one of them.
-/
namespace BumpArena

namespace Demand

def isRequest : Demand → Bool
  | allocate _ => true
  | resizeInPlace .. | release .. => false

def isResize : Demand → Bool
  | resizeInPlace .. => true
  | allocate _ | release .. => false

/-- The number of requests for a block. -/
def requests (demands : List Demand) : Nat := demands.countP isRequest

def resizes (demands : List Demand) : Nat := demands.countP isResize

theorem requests_append (first later : List Demand) : requests (first ++ later) = requests first + requests later :=
  List.countP_append

theorem resizes_append (first later : List Demand) : resizes (first ++ later) = resizes first + resizes later :=
  List.countP_append

end Demand

def Call.isGrant : Call → Bool
  | granted _ => true
  | refused _ | resized .. | released _ => false

namespace Ledger

variable {σ : Type} {inner : Backing σ} {ledger : Ledger σ}

/-- The number of requests that were granted. -/
def grants (calls : List Call) : Nat := calls.countP Call.isGrant

/-- A call does with a journal what it does without one, and is entered there if it is answered. -/
theorem serve_enters (inner : Backing σ) (demand : Demand) (ledger : Ledger σ) :
    (((backing inner).serve demand).run ledger).state.inner = ((inner.serve demand).run ledger.inner).state ∧
      ((((backing inner).serve demand).run ledger).state.calls = ledger.calls ∨
        ∃ call, (((backing inner).serve demand).run ledger).state.calls = call :: ledger.calls ∧
          (call.isGrant → demand.isRequest)) := by
  cases demand with
  | allocate layout =>
    rcases ran : (inner.allocate layout).run ledger.inner with ⟨fault | refusal | block, trace, s'⟩
    all_goals simp [backing, onInner, enter, Act.run_bind, ran, Demand.isRequest]
  | resizeInPlace addr layout newSize =>
    rcases ran : (inner.resizeInPlace addr layout newSize).run ledger.inner with ⟨fault | granted, trace, s'⟩
    all_goals simp [backing, onInner, enter, Act.run_bind, ran, Call.isGrant]
  | release addr layout =>
    rcases ran : (inner.release addr layout).run ledger.inner with ⟨fault | _, trace, s'⟩
    all_goals simp [backing, onInner, enter, Act.run_bind, ran, Call.isGrant]

theorem grants_serve_le (inner : Backing σ) (demand : Demand) (ledger : Ledger σ) :
    grants (((backing inner).serve demand).run ledger).state.calls ≤
      grants ledger.calls + Demand.requests [demand] := by
  obtain ⟨_, same | ⟨call, entered, asked⟩⟩ := serve_enters inner demand ledger
  · rw [same]
    exact Nat.le_add_right ..
  · rw [entered, grants, grants, List.countP_cons]
    by_cases grant : call.isGrant
    · simp [Demand.requests, grant, asked grant]
    · simp [grant]

end Ledger

namespace Rationed

variable {σ : Type} {inner : Backing σ} {rationed before between after : Rationed σ} {left : Nat}

/-- The request is refused before the backing is asked. -/
def Injects (inner : Backing σ) (rationed : Rationed σ) (layout : Layout) : Prop :=
  ((backing inner).allocate layout).run rationed =
    ⟨.ok (.error (.ofLayout layout)), [], { rationed with failures := rationed.failures + 1 }⟩

/-- The backing answers the request, which leaves so much of the budget. -/
def Forwards (inner : Backing σ) (rationed : Rationed σ) (layout : Layout) (left : Nat) : Prop :=
  ((backing inner).allocate layout).run rationed =
    ⟨((inner.allocate layout).run rationed.inner).value, ((inner.allocate layout).run rationed.inner).trace,
      { rationed with budget := some left, inner := ((inner.allocate layout).run rationed.inner).state }⟩

theorem injects_of_spent (spent : rationed.budget = some 0) (layout : Layout) : Injects inner rationed layout := by
  simp [Injects, backing, fail, Act.run_bind, Except.map, spent]

theorem forwards_of_left (budget : rationed.budget = some (left + 1)) (layout : Layout) :
    Forwards inner rationed layout left := by
  simp [Forwards, backing, onInner, Act.run_bind, budget]

/-- A request that is forwarded is no failure. -/
theorem Forwards.not_injects {layout : Layout} (forwards : Forwards inner rationed layout left) :
    ¬ Injects inner rationed layout := by
  intro injects
  have same := congrArg (·.state.failures) (forwards.symm.trans injects)
  exact Nat.succ_ne_self _ same.symm

/-- What some calls leave of a budget, and what they add to the failures. -/
structure Spent (left : Nat) (demands : List Demand) (before after : Rationed σ) : Prop where
  budget : after.budget = some (left - Demand.requests demands)
  refuses : after.refusesResizes = before.refusesResizes
  failures : after.failures = before.failures + (Demand.requests demands - left) +
    if before.refusesResizes then Demand.resizes demands else 0

theorem Spent.append {first later : List Demand} (spent : Spent left first before between)
    (spent' : Spent (left - Demand.requests first) later between after) : Spent left (first ++ later) before after := by
  constructor
  · rw [spent'.budget, Demand.requests_append, Nat.sub_sub]
  · rw [spent'.refuses, spent.refuses]
  · rw [spent'.failures, spent.failures, spent.refuses, Demand.requests_append, Demand.resizes_append]
    split
    · omega
    · omega

/-- One call draws on the budget if it is a request, and adds to the failures if it is refused here. -/
theorem serve_spent (inner : Backing σ) (budget : before.budget = some left) (demand : Demand) :
    Spent left [demand] before (((backing inner).serve demand).run before).state := by
  cases demand with
  | allocate layout =>
    rw [Backing.state_serve_allocate]
    rcases left with _ | left
    · have ran : Injects inner before layout := injects_of_spent budget layout
      rw [show ((backing inner).allocate layout).run before = _ from ran]
      refine ⟨budget, rfl, ?_⟩
      simp [Demand.requests, Demand.resizes, Demand.isRequest, Demand.isResize]
    · have ran : Forwards inner before layout left := forwards_of_left budget layout
      rw [show ((backing inner).allocate layout).run before = _ from ran]
      refine ⟨rfl, rfl, ?_⟩
      simp [Demand.requests, Demand.resizes, Demand.isRequest, Demand.isResize]
  | resizeInPlace addr layout newSize =>
    rw [Backing.state_serve_resizeInPlace]
    by_cases refuses : before.refusesResizes
    · have refused : (((backing inner).resizeInPlace addr layout newSize).run before).state =
          { before with failures := before.failures + 1 } := by
        simp [backing, fail, Act.run_bind, refuses]
      rw [refused]
      refine ⟨budget, rfl, ?_⟩
      simp [refuses, Demand.requests, Demand.resizes, Demand.isRequest, Demand.isResize]
    · have forwarded : (((backing inner).resizeInPlace addr layout newSize).run before).state =
          { before with inner := ((inner.resizeInPlace addr layout newSize).run before.inner).state } := by
        simp [backing, onInner, Act.run_bind, refuses]
      rw [forwarded]
      refine ⟨budget, rfl, ?_⟩
      simp [refuses, Demand.requests, Demand.isRequest]
  | release addr layout =>
    refine ⟨budget, rfl, ?_⟩
    simp [backing, onInner, Demand.requests, Demand.resizes, Demand.isRequest, Demand.isResize]

/-- A request that is refused here is not granted. -/
theorem grants_serve_le (inner : Backing σ) {ledger : Ledger (Rationed σ)} (budget : ledger.inner.budget = some left)
    (demand : Demand) :
    Ledger.grants (((Ledger.backing (backing inner)).serve demand).run ledger).state.calls ≤
      Ledger.grants ledger.calls + min (Demand.requests [demand]) left := by
  have grants_le := Ledger.grants_serve_le (backing inner) demand ledger
  have single : Demand.requests [demand] ≤ 1 := List.countP_le_length
  rcases left with _ | left
  · cases demand with
    | allocate layout =>
      have ran : Injects inner ledger.inner layout := injects_of_spent budget layout
      rw [Backing.state_serve_allocate, Ledger.run_allocate ledger.calls ran]
      simp [Ledger.grants, Call.ofAnswer, Call.isGrant]
    | resizeInPlace | release => exact grants_le
  · omega

theorem serveAll_spent (inner : Backing σ) {ledger : Ledger (Rationed σ)} (budget : ledger.inner.budget = some left)
    (demands : List Demand) :
    ((Ledger.backing (backing inner)).serveAll demands).Ends ledger fun _ _ ledger' =>
      Spent left demands ledger.inner ledger'.inner ∧
        Ledger.grants ledger'.calls ≤ Ledger.grants ledger.calls + min (Demand.requests demands) left := by
  induction demands generalizing ledger left with
  | nil =>
    refine (Act.ends_pure ..).mpr ⟨⟨budget, rfl, ?_⟩, Nat.le_add_right ..⟩
    simp [Demand.requests, Demand.resizes]
  | cons demand later ih =>
    rw [Backing.serveAll, Act.ends_bind]
    refine (Backing.serve_recover_ends demand ledger).mono ?_
    rintro _ _ between rfl
    have step := serve_spent inner budget demand
    have grants_le := grants_serve_le inner budget demand
    rw [← (Ledger.serve_enters (backing inner) demand ledger).1] at step
    refine (ih step.budget).mono ?_
    rintro _ _ last ⟨rest, grants_le'⟩
    have both : Demand.requests (demand :: later) = _ := Demand.requests_append [demand] later
    exact ⟨step.append rest, by omega⟩

/-- Of the requests since the budget was set to `n`, the first `n` reach the backing, and all others are refused and
    are the only ones that count as failures, besides the resizes that are refused here. So a request is refused here
    exactly if there were `n` before it. That there were `n` before it that were granted is the same as long as the
    backing has granted all that reached it. -/
theorem injects_iff_requested (inner : Backing σ) (ration : Ration) (n : Nat) (s : σ) (demands : List Demand) :
    ((Ledger.backing (backing inner)).serveAll demands).Ends
        ⟨⟨{ ration with budget := some n }, s⟩, []⟩ fun _ _ ledger =>
      Spent n demands ⟨{ ration with budget := some n }, s⟩ ledger.inner ∧
      Ledger.grants ledger.calls ≤ min (Demand.requests demands) n ∧ ∀ layout,
        (Injects inner ledger.inner layout ↔ n ≤ Demand.requests demands) ∧
        (Demand.requests demands < n → Forwards inner ledger.inner layout (n - Demand.requests demands - 1)) ∧
        ((Injects inner ledger.inner layout ↔ Ledger.grants ledger.calls = n) ↔
          (n ≤ Demand.requests demands → Ledger.grants ledger.calls = n)) := by
  refine (serveAll_spent inner rfl demands).mono ?_
  rintro _ _ ledger ⟨spent, grants_le⟩
  have none : Ledger.grants [] = 0 := rfl
  rw [none, Nat.zero_add] at grants_le
  refine ⟨spent, grants_le, fun layout => ?_⟩
  have budget := spent.budget
  by_cases all : n ≤ Demand.requests demands
  · rw [Nat.sub_eq_zero_of_le all] at budget
    have injects : Injects inner ledger.inner layout := injects_of_spent budget layout
    simp [injects, all, Nat.not_lt.mpr all]
  · have left : n - Demand.requests demands = n - Demand.requests demands - 1 + 1 := by omega
    rw [left] at budget
    have forwards : Forwards inner ledger.inner layout _ := forwards_of_left budget layout
    have few : Ledger.grants ledger.calls ≠ n := by omega
    simp [forwards.not_injects, all, few, forwards]

/-- A heap of 64 bytes refuses a request for 1000, which takes the only unit of the budget. The next request is refused
    although the heap has room for it and none was granted before. -/
theorem refusal_spends_budget :
    ∃ trace ledger granted,
      ((Ledger.backing (backing Heap.backing)).serveAll [.allocate ⟨1000, .one, by decide⟩]).run
          ⟨⟨.ofBudget (some 1) false, Heap.ofSize 64⟩, []⟩ = ⟨.ok (), trace, ledger⟩ ∧
        Ledger.grants ledger.calls = 0 ∧
        Injects Heap.backing ledger.inner ⟨8, .one, by decide⟩ ∧
        ((Heap.backing.allocate ⟨8, .one, by decide⟩).run ledger.inner.inner).value = .ok (.ok granted) :=
  ⟨_, _, _, rfl, rfl, rfl, rfl⟩

end Rationed
end BumpArena
