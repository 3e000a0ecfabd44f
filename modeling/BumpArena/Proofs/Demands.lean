import BumpArena.Backing
import BumpArena.Proofs.Ends

/-!
Clients that call a backing with any arguments. A call that ends with a fault does not end the client: the next
call finds the backing in the state that the fault left. What every single call keeps holds after any list of them
(`Backing.serveAll_ends`).
-/
namespace BumpArena

/-- A call of a backing. The address need not be one that it gave out. -/
inductive Demand where
  | allocate (layout : Layout)
  | resizeInPlace (addr : Nat) (layout : Layout) (newSize : Nat)
  | release (addr : Nat) (layout : Layout)
  deriving DecidableEq

namespace Backing

variable {σ : Type} {backing : Backing σ}

/-- Makes a call without looking at its answer. -/
def serve (backing : Backing σ) : Demand → Act σ Unit
  | .allocate layout => do
    let _ ← backing.allocate layout
    return ()
  | .resizeInPlace addr layout newSize => do
    let _ ← backing.resizeInPlace addr layout newSize
    return ()
  | .release addr layout => backing.release addr layout

def serveAll (backing : Backing σ) : List Demand → Act σ Unit
  | [] => pure ()
  | demand :: later => do
    (backing.serve demand).recover ()
    backing.serveAll later

@[simp] theorem state_serve_allocate (layout : Layout) (s : σ) :
    ((backing.serve (.allocate layout)).run s).state = ((backing.allocate layout).run s).state := by
  simp [serve]

@[simp] theorem state_serve_resizeInPlace (addr : Nat) (layout : Layout) (newSize : Nat) (s : σ) :
    ((backing.serve (.resizeInPlace addr layout newSize)).run s).state =
      ((backing.resizeInPlace addr layout newSize).run s).state := by
  simp [serve]

@[simp] theorem serve_release (addr : Nat) (layout : Layout) :
    backing.serve (.release addr layout) = backing.release addr layout := rfl

theorem serve_recover_ends (demand : Demand) (s : σ) :
    ((backing.serve demand).recover ()).Ends s fun _ _ s' => s' = ((backing.serve demand).run s).state := by
  rcases ran : (backing.serve demand).run s with ⟨_ | _, trace, s'⟩
  · exact ⟨(), trace, s', by rw [Act.run_recover, ran], rfl⟩
  · exact ⟨(), trace, s', by rw [Act.run_recover, ran], rfl⟩

theorem serveAll_ends {kept : σ → Prop} (step : ∀ s demand, kept s → kept ((backing.serve demand).run s).state) {s : σ}
    (start : kept s) (demands : List Demand) : (backing.serveAll demands).Ends s fun _ _ s' => kept s' := by
  induction demands generalizing s with
  | nil => exact (Act.ends_pure ..).mpr start
  | cons demand later ih =>
    rw [serveAll, Act.ends_bind]
    refine (serve_recover_ends demand s).mono ?_
    rintro _ _ between rfl
    exact ih (step s demand start)

end Backing
end BumpArena
