import BumpArena.Word

/-!
Alignments are the powers of two below `Word.limit`. The main operation rounds an address up to the
next multiple of an alignment, `Alignment.alignUp?`; it has no answer only where that multiple is no
word.
-/
namespace BumpArena

/-- A power of two, kept as its exponent. -/
structure Alignment where
  exponent : Fin 64
  deriving DecidableEq

namespace Alignment

def bytes (a : Alignment) : Nat := 1 <<< a.exponent.val

/-- The alignment of `n` bytes, if `n` is a power of two. -/
def ofBytes? (n : Nat) : Option Alignment :=
  if h : n.log2 < 64 then
    if 1 <<< n.log2 = n then some ⟨⟨n.log2, h⟩⟩ else none
  else none

/-- Every address has this alignment. -/
def one : Alignment := ⟨⟨0, by decide⟩⟩

def sixteen : Alignment := ⟨⟨4, by decide⟩⟩

def page : Alignment := ⟨⟨12, by decide⟩⟩

def max (a b : Alignment) : Alignment := if a.exponent < b.exponent then b else a

def divides (a : Alignment) (address : Nat) : Bool := address % a.bytes == 0

/-- The least multiple of the alignment that is no smaller than `address`, if it is a word. -/
def alignUp? (a : Alignment) (address : Nat) : Option Nat :=
  (Word.add? address (a.bytes - 1)).map fun top => top - top % a.bytes

theorem bytes_pos (a : Alignment) : 0 < a.bytes := by
  rw [bytes, Nat.shiftLeft_eq, Nat.one_mul]
  exact Nat.two_pow_pos _

theorem bytes_le_half (a : Alignment) : a.bytes ≤ Word.half := by
  rw [bytes, Nat.shiftLeft_eq, Nat.one_mul]
  exact Nat.pow_le_pow_right (show 0 < 2 by decide) (show a.exponent.val ≤ 63 by omega)

theorem ofBytes?_bytes (a : Alignment) : ofBytes? a.bytes = some a := by
  simp [ofBytes?, bytes, Nat.shiftLeft_eq, Nat.log2_two_pow, a.exponent.isLt]

theorem bytes_of_ofBytes? {n : Nat} {a : Alignment} (found : ofBytes? n = some a) : a.bytes = n := by
  unfold ofBytes? at found
  split at found
  · split at found
    · injection found with same
      subst same
      assumption
    · contradiction
  · contradiction

end Alignment

/-- The alignment of `n` bytes; a number that is no power of two is a fault. -/
def Alignment.ofBytes (n : Nat) : Except Fault Alignment :=
  match Alignment.ofBytes? n with
  | some a => .ok a
  | none => .error (.notPowerOfTwo n)

/-- Rounds `address` up to a multiple of `align`, which must be a power of two. -/
def alignForward (address align : Nat) : Except Fault (Option Nat) :=
  (Alignment.ofBytes align).map (·.alignUp? address)

/-- Whether `address` is a multiple of `align`, which must be a power of two. -/
def isAligned (address align : Nat) : Except Fault Bool :=
  (Alignment.ofBytes align).map (·.divides address)

end BumpArena
