import BumpArena.Fault

/-!
Addresses and sizes are natural numbers below `Word.limit`. Sums and differences that leave this range
are never cut off: the checked operations here answer `none` or raise a fault, and give the exact
number otherwise.
-/
namespace BumpArena.Word

/-- One more than the largest address or size, the 64th power of two. -/
def limit : Nat := 0x10000000000000000

/-- The largest sum of a size and its alignment in a layout, half of `limit`. -/
def half : Nat := 0x8000000000000000

/-- The sum of two words, if it is a word. -/
def add? (a b : Nat) : Option Nat :=
  if a + b < limit then some (a + b) else none

/-- The sum of two words; a sum that is no word is a fault. -/
def add (a b : Nat) : Except Fault Nat :=
  if a + b < limit then .ok (a + b) else .error .sumOverflow

/-- The difference of two words; taking more than there is is a fault. -/
def sub (a b : Nat) : Except Fault Nat :=
  if b ≤ a then .ok (a - b) else .error .differenceOverflow

/-- The sum of a list of words; a sum that is no word is a fault. -/
def sum : List Nat → Except Fault Nat
  | [] => .ok 0
  | a :: rest => do add a (← sum rest)

theorem add?_eq_some_iff {a b c : Nat} : add? a b = some c ↔ a + b = c ∧ c < limit := by
  unfold add?
  split <;> simp <;> omega

theorem add_eq_ok_iff {a b c : Nat} : add a b = .ok c ↔ a + b = c ∧ c < limit := by
  unfold add
  split <;> simp <;> omega

theorem sub_eq_ok_iff {a b c : Nat} : sub a b = .ok c ↔ b ≤ a ∧ a - b = c := by
  unfold sub
  split <;> simp <;> omega

end BumpArena.Word
