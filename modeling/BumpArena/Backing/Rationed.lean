import BumpArena.Backing

/-!
A backing that is made to fail. It has a budget of requests, which every request that reaches the
backing behind it draws on, and it may refuse every resize.
-/
namespace BumpArena

/-- How a backing is made to fail, and how often it was. -/
structure Ration where
  /-- The requests that are still let through; all of them if there is no budget. -/
  budget : Option Nat
  refusesResizes : Bool
  failures : Nat
  deriving DecidableEq

/-- A ration and the state of the backing behind it. -/
structure Rationed (σ : Type) extends Ration where
  inner : σ

namespace Ration

def ofBudget (budget : Option Nat) (refusesResizes : Bool) : Ration := ⟨budget, refusesResizes, 0⟩

end Ration

namespace Rationed

variable {σ α : Type}

def onInner (act : Act σ α) : Act (Rationed σ) α :=
  act.zoom Rationed.inner fun rationed inner => { rationed with inner }

def fail : Act (Rationed σ) Unit :=
  modify fun rationed => { rationed with failures := rationed.failures + 1 }

def backing (inner : Backing σ) : Backing (Rationed σ) where
  allocate layout := do
    match (← get).budget with
    | none => onInner (inner.allocate layout)
    | some 0 =>
      fail
      return .error (.ofLayout layout)
    | some (left + 1) =>
      modify fun rationed => { rationed with budget := some left }
      onInner (inner.allocate layout)
  resizeInPlace addr layout newSize := do
    if (← get).refusesResizes then
      fail
      return false
    else
      onInner (inner.resizeInPlace addr layout newSize)
  release addr layout := onInner (inner.release addr layout)

end Rationed
end BumpArena
