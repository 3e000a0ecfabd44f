import BumpArena.Proofs.Demands
import BumpArena.Proofs.Tracking

/-!
Calls that a counter turns down. It compares a call with the blocks that it knows (`Tally.rejection?`), and the
backing behind it never sees a call that does not pass. What is left of such a call are its counts, which the counter
never reads, so everything that is called later goes as if the call had not been made. There is one exception. A
release that describes a known block by another size (`Tally.Stale`) is turned down after the counter has forgotten
the block, and then the client that holds the block cannot give it back any more (`Counted.intact_iff_not_stale`).
-/
namespace BumpArena

/-! ### Actions that treat two states alike -/

namespace Act

variable {σ α β : Type} {related : σ → σ → Prop}

/-- From related states the action ends with the same value and trace, and in related states again. -/
def Respects (related : σ → σ → Prop) (act : Act σ α) : Prop :=
  ∀ ⦃s t⦄, related s t → (act.run s).value = (act.run t).value ∧ (act.run s).trace = (act.run t).trace ∧
    related (act.run s).state (act.run t).state

theorem pure_respects (a : α) : (pure a : Act σ α).Respects related := fun _ _ same => ⟨rfl, rfl, same⟩

theorem fail_respects (fault : Fault) : (Act.fail fault : Act σ α).Respects related := fun _ _ same => ⟨rfl, rfl, same⟩

theorem modify_respects {step : σ → σ} (kept : ∀ s t, related s t → related (step s) (step t)) :
    (modify step : Act σ Unit).Respects related := fun s t same => ⟨rfl, rfl, kept s t same⟩

/-- What follows may read of the state what related states have in common. -/
theorem get_bind_respects {next : σ → Act σ α} (common : ∀ s t, related s t → next s = next t)
    (rest : ∀ s, (next s).Respects related) : (get >>= next).Respects related := by
  intro s t same
  simp only [run_bind, run_get, Outcome.after_nil, common s t same]
  exact rest t same

theorem Respects.bind {act : Act σ α} {next : α → Act σ β} (first : act.Respects related)
    (rest : ∀ a, (next a).Respects related) : (act >>= next).Respects related := by
  intro s t same
  obtain ⟨value, trace, between⟩ := first same
  rcases ran : act.run s with ⟨answer, earlier, s'⟩
  rcases ran' : act.run t with ⟨answer', earlier', t'⟩
  simp only [ran, ran'] at value trace between
  subst value trace
  cases answer with
  | error fault =>
    rw [run_bind_of_error ran, run_bind_of_error ran']
    exact ⟨rfl, rfl, between⟩
  | ok a =>
    rw [run_bind_of_ok ran, run_bind_of_ok ran']
    obtain ⟨value, trace, last⟩ := rest a between
    exact ⟨value, congrArg (earlier ++ ·) trace, last⟩

theorem Respects.recover {act : Act σ α} (respects : act.Respects related) (fallback : α) :
    (act.recover fallback).Respects related := by
  intro s t same
  obtain ⟨value, trace, last⟩ := respects same
  rcases ran : act.run s with ⟨answer, earlier, s'⟩
  rcases ran' : act.run t with ⟨answer', earlier', t'⟩
  simp only [ran, ran'] at value trace last
  subst value trace
  rw [run_recover, run_recover, ran, ran']
  cases answer with
  | error fault => exact ⟨rfl, rfl, last⟩
  | ok a => exact ⟨rfl, rfl, last⟩

end Act

namespace Backing

variable {σ : Type} {backing : Backing σ} {related : σ → σ → Prop}

theorem serveAll_respects (step : ∀ demand, (backing.serve demand).Respects related) (demands : List Demand) :
    (backing.serveAll demands).Respects related := by
  induction demands with
  | nil => exact Act.pure_respects ()
  | cons demand later ih => exact .bind ((step demand).recover ()) fun _ => ih

/-- Clients of two related states that make the same calls see the same. -/
theorem serveAll_related (step : ∀ demand, (backing.serve demand).Respects related) {s t : σ} (same : related s t)
    (demands : List Demand) :
    (backing.serveAll demands).Ends s fun _ trace s' =>
      (backing.serveAll demands).Ends t fun _ trace' t' => trace = trace' ∧ related s' t' := by
  have ends (start : σ) : (backing.serveAll demands).Ends start fun _ _ _ => True :=
    serveAll_ends (fun _ _ _ => trivial) trivial demands
  obtain ⟨a, trace, s', ran, _⟩ := ends s
  obtain ⟨a', trace', t', ran', _⟩ := ends t
  obtain ⟨_, traces, last⟩ := serveAll_respects step demands same
  rw [ran, ran'] at traces last
  exact ⟨a, trace, s', ran, a', trace', t', ran', traces, last⟩

end Backing

/-! ### What a counter turns down -/

/-- The call counts as one of its kind. -/
def CallCounts.called (counts : CallCounts) : Demand → CallCounts
  | .allocate _ => { counts with allocations := counts.allocations + 1 }
  | .resizeInPlace .. => { counts with resizes := counts.resizes + 1 }
  | .release .. => { counts with releases := counts.releases + 1 }

namespace Tally

/-- The fault with which the counter itself turns a call down, if it does. -/
def rejection? (tally : Tally) : Demand → Option Fault
  | .allocate _ => none
  | .resizeInPlace addr _ _ => if (tally.live.find? addr).isNone then some (.resizeUntracked addr) else none
  | .release addr layout =>
    match tally.live.find? addr with
    | none => some (.releaseUntracked addr)
    | some size => if size = layout.size then none else some (.releaseStale addr size layout.size)

/-- The call is a release of a known block and names another size than the known one. -/
def Stale (tally : Tally) : Demand → Prop
  | .release addr layout => ∃ size, tally.live.find? addr = some size ∧ size ≠ layout.size
  | .allocate _ | .resizeInPlace .. => False

/-- After the call was turned down. -/
def turnedDown (tally : Tally) : Demand → Tally
  | .release addr _ => tally.released addr
  | demand => tally.count (·.called demand)

variable {tally : Tally} {demand : Demand} {fault : Fault}

theorem counts_turnedDown (tally : Tally) (demand : Demand) :
    (tally.turnedDown demand).counts = tally.counts.called demand := by
  cases demand <;> rfl

/-- The counter forgets a block only if its size was not the one that was named. -/
theorem live_turnedDown_iff (rejected : tally.rejection? demand = some fault) :
    (tally.turnedDown demand).live = tally.live ↔ ¬ tally.Stale demand := by
  cases demand with
  | allocate | resizeInPlace => simp [turnedDown, count, Stale]
  | release addr layout =>
    have forgets : (tally.turnedDown (.release addr layout)).live = tally.live.erase addr := rfl
    rw [forgets, SpanMap.erase_eq_self_iff]
    rcases known : tally.live.find? addr with _ | size
    · simp [Stale, known]
    · have other : size ≠ layout.size := by
        rintro rfl
        simp [rejection?, known] at rejected
      simp [Stale, known, other]

theorem rejection?_release_released (tally : Tally) (addr : Nat) (layout : Layout) :
    (tally.released addr).rejection? (.release addr layout) = some (.releaseUntracked addr) := by
  simp [rejection?, released, SpanMap.find?_erase]

end Tally

namespace Counted

variable {σ : Type} {inner : Backing σ} {counted other : Counted σ}

def turnedDown (counted : Counted σ) (demand : Demand) : Counted σ :=
  { counted with toTally := counted.toTally.turnedDown demand }

/-- A call that is turned down is not seen by the backing. -/
theorem run_serve_of_rejection {demand : Demand} {fault : Fault} (rejected : counted.rejection? demand = some fault) :
    ((backing inner).serve demand).run counted = ⟨.error fault, [], counted.turnedDown demand⟩ := by
  cases demand with
  | allocate layout => contradiction
  | resizeInPlace addr layout newSize =>
    rcases known : counted.live.find? addr with _ | size
    · simp only [Tally.rejection?, known, Option.isNone_none, ↓reduceIte, Option.some.injEq] at rejected
      simp [Backing.serve, backing, count, onTally, Act.run_bind, Tally.count, known, rejected, Except.map, turnedDown,
        Tally.turnedDown, CallCounts.called]
    · simp [Tally.rejection?, known] at rejected
  | release addr layout =>
    rcases known : counted.live.find? addr with _ | size
    · simp only [Tally.rejection?, known, Option.some.injEq] at rejected
      have same : counted.live.erase addr = counted.live := SpanMap.erase_eq_self_iff.mpr known
      simp [Backing.serve, backing, count, onTally, Act.run_bind, Tally.count, known, rejected, turnedDown,
        Tally.turnedDown, Tally.released, same]
    · by_cases right : size = layout.size
      · simp [Tally.rejection?, known, right] at rejected
      · simp only [Tally.rejection?, known, right, ↓reduceIte, Option.some.injEq] at rejected
        simp [Backing.serve, backing, count, onTally, untrack, Act.run_bind, Tally.count, known, right, rejected,
          turnedDown, Tally.turnedDown, Tally.released]

/-- The release is one of the backing, and it is the last one of the block. -/
structure Accepts (inner : Backing σ) (counted : Counted σ) (addr : Nat) (layout : Layout) : Prop where
  run : ((backing inner).release addr layout).run counted =
    ⟨((inner.release addr layout).run counted.inner).value, ((inner.release addr layout).run counted.inner).trace,
      ⟨counted.toTally.released addr, ((inner.release addr layout).run counted.inner).state⟩⟩
  once : ∀ again, (counted.toTally.released addr).rejection? (.release addr again) = some (.releaseUntracked addr)

/-- A block is released by its address and its present size. -/
theorem accepts_of_known {addr : Nat} {layout : Layout} (known : counted.live.find? addr = some layout.size) :
    Accepts inner counted addr layout := by
  refine ⟨?_, counted.toTally.rejection?_release_released addr⟩
  simp [backing, count, onTally, onInner, untrack, Act.run_bind, Tally.count, known, Tally.released]

/-! ### The counts are never read -/

/-- The counters know the same blocks and have the same backing behind them. Their counts may be different. -/
structure Agrees (counted other : Counted σ) : Prop where
  live : counted.live = other.live
  inner : counted.inner = other.inner

theorem onInner_respects {α : Type} (act : Act σ α) : (onInner act).Respects Agrees := by
  intro counted other agrees
  rw [onInner, Act.run_zoom, Act.run_zoom, agrees.inner]
  exact ⟨rfl, rfl, agrees.live, rfl⟩

theorem count_respects (step : CallCounts → CallCounts) : (count step : Act (Counted σ) Unit).Respects Agrees :=
  Act.modify_respects fun _ _ agrees => ⟨agrees.live, agrees.inner⟩

theorem track_respects (addr size : Nat) : (track addr size : Act (Counted σ) Unit).Respects Agrees :=
  Act.modify_respects fun _ _ agrees => ⟨congrArg (SpanMap.insert · ⟨addr, size⟩) agrees.live, agrees.inner⟩

theorem untrack_respects (addr : Nat) : (untrack addr : Act (Counted σ) Unit).Respects Agrees :=
  Act.modify_respects fun _ _ agrees => ⟨congrArg (SpanMap.erase · addr) agrees.live, agrees.inner⟩

theorem serve_respects (inner : Backing σ) (demand : Demand) : ((backing inner).serve demand).Respects Agrees := by
  cases demand with
  | allocate layout =>
    refine .bind (.bind (count_respects _) fun _ => .bind (onInner_respects _) fun answer => ?_) fun _ =>
      Act.pure_respects ()
    cases answer with
    | ok block => exact .bind (track_respects _ _) fun _ => Act.pure_respects _
    | error refusal => exact .bind (count_respects _) fun _ => Act.pure_respects _
  | resizeInPlace addr layout newSize =>
    refine .bind (.bind (count_respects _) fun _ => Act.get_bind_respects ?_ fun counted => ?_) fun _ =>
      Act.pure_respects ()
    · intro _ _ agrees
      simp only [agrees.live]
    by_cases known : (counted.live.find? addr).isNone
    · simp only [known, ↓reduceIte]
      exact Act.fail_respects _
    · simp only [known, Bool.false_eq_true, ↓reduceIte]
      refine .bind (onInner_respects _) fun granted => ?_
      cases granted with
      | true => exact .bind (track_respects _ _) fun _ => Act.pure_respects _
      | false => exact .bind (count_respects _) fun _ => Act.pure_respects _
  | release addr layout =>
    refine .bind (count_respects _) fun _ => Act.get_bind_respects ?_ fun counted => ?_
    · intro _ _ agrees
      simp only [agrees.live]
    rcases counted.live.find? addr with _ | size
    · exact Act.fail_respects _
    refine .bind (untrack_respects addr) fun _ => ?_
    by_cases right : size = layout.size
    · simp only [right, ↓reduceIte]
      exact onInner_respects _
    · simp only [right, ↓reduceIte]
      exact Act.fail_respects _

/-! ### Calls with and without effect -/

/-- The backing answers the call. -/
structure Forwards (inner : Backing σ) (counted : Counted σ) (demand : Demand) : Prop where
  value : (((backing inner).serve demand).run counted).value = ((inner.serve demand).run counted.inner).value
  trace : (((backing inner).serve demand).run counted).trace = ((inner.serve demand).run counted.inner).trace
  inner_eq : (((backing inner).serve demand).run counted).state.inner = ((inner.serve demand).run counted.inner).state

theorem forwards_of_passed {demand : Demand} (passed : counted.rejection? demand = none) :
    Forwards inner counted demand := by
  cases demand with
  | allocate layout =>
    rcases ran : (inner.allocate layout).run counted.inner with ⟨fault | refusal | block, trace, s'⟩
    all_goals constructor
    all_goals simp [Backing.serve, backing, count, onTally, onInner, track, Act.run_bind, Except.map, ran]
  | resizeInPlace addr layout newSize =>
    rcases known : counted.live.find? addr with _ | size
    · simp [Tally.rejection?, known] at passed
    · rcases ran : (inner.resizeInPlace addr layout newSize).run counted.inner with ⟨fault | _ | _, trace, s'⟩
      all_goals constructor
      all_goals
        simp [Backing.serve, backing, count, onTally, onInner, track, Act.run_bind, Except.map, Tally.count, known, ran]
  | release addr layout =>
    rcases known : counted.live.find? addr with _ | size
    · simp [Tally.rejection?, known] at passed
    · by_cases right : size = layout.size
      · have ran : ((backing inner).release addr layout).run counted = _ :=
          (accepts_of_known (known.trans (congrArg some right))).run
        exact ⟨congrArg Outcome.value ran, congrArg Outcome.trace ran, congrArg (·.state.inner) ran⟩
      · simp [Tally.rejection?, known, right] at passed

/-- What comes of a call that the counter turns down. -/
structure TurnsDown (inner : Backing σ) (counted : Counted σ) (demand : Demand) (fault : Fault) : Prop where
  run : ((backing inner).serve demand).run counted = ⟨.error fault, [], counted.turnedDown demand⟩
  inner_eq : (counted.turnedDown demand).inner = counted.inner
  counts_eq : (counted.turnedDown demand).counts = counted.counts.called demand
  live_iff : (counted.turnedDown demand).live = counted.live ↔ ¬ counted.Stale demand
  /-- Later calls go as if this one had not been made, and each block that is known then can be released. -/
  later : ¬ counted.Stale demand → ∀ demands,
    ((backing inner).serveAll demands).Ends (counted.turnedDown demand) fun _ trace last =>
      ((backing inner).serveAll demands).Ends counted fun _ trace' last' => trace = trace' ∧ last.Agrees last' ∧
        ∀ addr layout, last'.live.find? addr = some layout.size → Accepts inner last addr layout
  /-- The next release of the block is turned down as well, whatever it says about the size. -/
  stranded : counted.Stale demand → ∀ addr layout, demand = .release addr layout → ∀ own,
    ((backing inner).release addr own).run (counted.turnedDown demand) =
      ⟨.error (.releaseUntracked addr), [], (counted.turnedDown demand).turnedDown (.release addr own)⟩

/-- A call that the counter turns down changes its counts and nothing else, exactly if it is no stale release. Then all
    later calls go as they would without it, and whoever holds a block can release it, with one call of the backing.
    After a stale release the block cannot be released. Every call that the counter does not turn down is answered by
    the backing. -/
theorem intact_iff_not_stale (inner : Backing σ) (counted : Counted σ) (demand : Demand) :
    (∀ fault, counted.rejection? demand = some fault → TurnsDown inner counted demand fault) ∧
    (counted.rejection? demand = none → Forwards inner counted demand) := by
  refine ⟨fun fault rejected => ?_, forwards_of_passed⟩
  have live_iff := Tally.live_turnedDown_iff rejected
  refine ⟨run_serve_of_rejection rejected, rfl, counted.toTally.counts_turnedDown demand, live_iff, ?_, ?_⟩
  · intro right demands
    have agrees : (counted.turnedDown demand).Agrees counted := ⟨live_iff.mpr right, rfl⟩
    refine (Backing.serveAll_related (serve_respects inner) agrees demands).mono fun _ _ last both => both.mono ?_
    rintro _ _ last' ⟨traces, agrees'⟩
    exact ⟨traces, agrees', fun addr layout known => accepts_of_known (agrees'.live ▸ known)⟩
  · rintro stale addr layout rfl own
    have rejected' : (counted.turnedDown (.release addr layout)).rejection? (.release addr own) =
        some (.releaseUntracked addr) := counted.toTally.rejection?_release_released addr own
    exact run_serve_of_rejection rejected'

/-- A block of 16 bytes on the heap. Its release with a size of 8 bytes is turned down, and then so is the right one. -/
theorem stale_release_strands :
    ∃ trace counted counted',
      ((backing Heap.backing).allocate ⟨16, .sixteen, by decide⟩).run ⟨.empty, Heap.ofSize 4096⟩ =
        ⟨.ok (.ok ⟨Heap.base, 16⟩), trace, counted⟩ ∧
      counted.live.size = 1 ∧
      ((backing Heap.backing).release Heap.base ⟨8, .sixteen, by decide⟩).run counted =
        ⟨.error (.releaseStale Heap.base 16 8), [], counted'⟩ ∧
      counted'.live.size = 0 ∧
      (((backing Heap.backing).release Heap.base ⟨16, .sixteen, by decide⟩).run counted').value =
        .error (.releaseUntracked Heap.base) :=
  ⟨_, _, _, rfl, rfl, rfl, rfl, rfl⟩

/-- A resize of a block that is not known is turned down, and the block that is known can be released after it. -/
theorem heap_intact_iff_not_stale :
    ∃ trace counted,
      ((backing Heap.backing).allocate ⟨16, .sixteen, by decide⟩).run ⟨.empty, Heap.ofSize 4096⟩ =
        ⟨.ok (.ok ⟨Heap.base, 16⟩), trace, counted⟩ ∧
      counted.rejection? (.resizeInPlace 1 ⟨8, .one, by decide⟩ 24) = some (.resizeUntracked 1) ∧
      Accepts Heap.backing (counted.turnedDown (.resizeInPlace 1 ⟨8, .one, by decide⟩ 24)) Heap.base
        ⟨16, .sixteen, by decide⟩ := by
  obtain ⟨trace, counted, ran, rejected, known⟩ : ∃ trace counted,
      ((backing Heap.backing).allocate ⟨16, .sixteen, by decide⟩).run ⟨.empty, Heap.ofSize 4096⟩ =
        ⟨.ok (.ok ⟨Heap.base, 16⟩), trace, counted⟩ ∧
      counted.rejection? (.resizeInPlace 1 ⟨8, .one, by decide⟩ 24) = some (.resizeUntracked 1) ∧
      counted.live.find? Heap.base = some 16 := ⟨_, _, rfl, rfl, rfl⟩
  have down := (intact_iff_not_stale Heap.backing counted _).1 _ rejected
  obtain ⟨_, _, accepts⟩ := ((down.later id []).of_run rfl).of_run rfl
  exact ⟨trace, counted, ran, rejected, accepts Heap.base ⟨16, .sixteen, by decide⟩ known⟩

end Counted
end BumpArena
