import Mathlib.Data.Nat.ModEq
import Mathlib.Order.Bounds.Defs
import BumpArena.Alignment

/-!
Rounding up to an alignment. `Alignment.roundUp` is the least multiple of the alignment at or after an
address, word or not, and `Alignment.alignUp?` finds it whenever it is a word (`alignUp?_eq_some_iff`):
the sum that it forms on the way leaves the range of words only if that multiple does.
-/
namespace BumpArena.Alignment

/-- The least multiple of the alignment that is no smaller than `address`. -/
def roundUp (a : Alignment) (address : Nat) : Nat := (address + (a.bytes - 1)) / a.bytes * a.bytes

theorem bytes_eq_two_pow (a : Alignment) : a.bytes = 2 ^ a.exponent.val := by
  rw [bytes, Nat.shiftLeft_eq, Nat.one_mul]

theorem bytes_dvd_bytes {a b : Alignment} (le : a.exponent ≤ b.exponent) : a.bytes ∣ b.bytes := by
  rw [bytes_eq_two_pow, bytes_eq_two_pow]
  exact Nat.pow_dvd_pow 2 le

theorem bytes_dvd_of_le {a b : Alignment} (le : a.bytes ≤ b.bytes) : a.bytes ∣ b.bytes := by
  rw [bytes_eq_two_pow, bytes_eq_two_pow] at le ⊢
  exact Nat.pow_dvd_pow 2 ((Nat.pow_le_pow_iff_right (by decide)).mp le)

theorem bytes_dvd_limit (a : Alignment) : a.bytes ∣ Word.limit := by
  rw [bytes_eq_two_pow, show Word.limit = 2 ^ 64 from rfl]
  exact Nat.pow_dvd_pow 2 (by omega)

theorem bytes_dvd_max (a b : Alignment) : a.bytes ∣ (a.max b).bytes := by
  unfold Alignment.max
  split
  · next lt => exact bytes_dvd_bytes (Nat.le_of_lt lt)
  · exact Nat.dvd_refl _

theorem dvd_roundUp (a : Alignment) (address : Nat) : a.bytes ∣ a.roundUp address :=
  Nat.dvd_mul_left ..

theorem roundUp_add_mod (a : Alignment) (address : Nat) :
    a.roundUp address + (address + (a.bytes - 1)) % a.bytes = address + (a.bytes - 1) := by
  rw [roundUp, Nat.mul_comm]
  exact Nat.div_add_mod ..

theorem le_roundUp (a : Alignment) (address : Nat) : address ≤ a.roundUp address := by
  have parts := a.roundUp_add_mod address
  have small := Nat.mod_lt (address + (a.bytes - 1)) a.bytes_pos
  omega

theorem roundUp_lt (a : Alignment) (address : Nat) : a.roundUp address < address + a.bytes := by
  have parts := a.roundUp_add_mod address
  have positive := a.bytes_pos
  omega

/-- No multiple of the alignment lies between an address and the address rounded up. -/
theorem roundUp_le {a : Alignment} {address multiple : Nat} (divides : a.bytes ∣ multiple)
    (le : address ≤ multiple) : a.roundUp address ≤ multiple := by
  obtain ⟨k, rfl⟩ := divides
  have positive := a.bytes_pos
  rw [roundUp, Nat.mul_comm a.bytes k]
  apply Nat.mul_le_mul_right
  rw [Nat.mul_comm a.bytes k] at le
  rw [← Nat.lt_succ_iff, Nat.div_lt_iff_lt_mul positive, Nat.succ_mul]
  omega

/-- Before an aligned address there is nothing to round. -/
theorem roundUp_add {a : Alignment} {base : Nat} (divides : a.bytes ∣ base) (offset : Nat) :
    a.roundUp (base + offset) = base + a.roundUp offset := by
  obtain ⟨k, rfl⟩ := divides
  rw [roundUp, roundUp, Nat.add_assoc, Nat.mul_add_div a.bytes_pos, Nat.add_mul, Nat.mul_comm k]

theorem roundUp_one (address : Nat) : one.roundUp address = address := by
  simp [roundUp, one, bytes]

/-- Every address is a multiple of itself rounded up, so rounding goes no further there. -/
theorem roundUp_of_dvd {a : Alignment} {address : Nat} (divides : a.bytes ∣ address) :
    a.roundUp address = address :=
  Nat.le_antisymm (roundUp_le divides (Nat.le_refl _)) (a.le_roundUp address)

/-- The first offset at or after the cursor at which an address behind the base is aligned. -/
theorem isLeast_offset (a : Alignment) (base cursor : Nat) :
    IsLeast {offset | cursor ≤ offset ∧ a.bytes ∣ base + offset} (a.roundUp (base + cursor) - base) := by
  have after := a.le_roundUp (base + cursor)
  have whole : base + (a.roundUp (base + cursor) - base) = a.roundUp (base + cursor) := by omega
  constructor
  · refine ⟨by omega, ?_⟩
    rw [whole]
    exact a.dvd_roundUp _
  · rintro offset ⟨later, divides⟩
    have least := roundUp_le divides (Nat.add_le_add_left later base)
    omega

theorem alignUp?_eq_some_iff {a : Alignment} {address aligned : Nat} :
    a.alignUp? address = some aligned ↔ aligned = a.roundUp address ∧ aligned < Word.limit := by
  have parts := a.roundUp_add_mod address
  have small := Nat.mod_lt (address + (a.bytes - 1)) a.bytes_pos
  simp only [alignUp?, Option.map_eq_some_iff, Word.add?_eq_some_iff]
  constructor
  · rintro ⟨top, ⟨rfl, isWord⟩, rfl⟩
    omega
  · rintro ⟨rfl, isWord⟩
    refine ⟨address + (a.bytes - 1), ⟨rfl, ?_⟩, by omega⟩
    -- Both `roundUp` and `limit` are multiples of the alignment, so `roundUp` is a whole step below.
    obtain ⟨k, steps⟩ := a.dvd_roundUp address
    obtain ⟨m, total⟩ := a.bytes_dvd_limit
    have below : k < m := by
      rw [steps, total] at isWord
      exact Nat.lt_of_mul_lt_mul_left isWord
    have room : a.bytes * k + a.bytes ≤ a.bytes * m := Nat.mul_le_mul_left a.bytes below
    omega

theorem alignUp?_eq_none_iff {a : Alignment} {address : Nat} :
    a.alignUp? address = none ↔ Word.limit ≤ a.roundUp address := by
  rw [← Option.not_isSome_iff_eq_none, Option.isSome_iff_exists]
  simp only [alignUp?_eq_some_iff, exists_eq_left, not_lt]

end BumpArena.Alignment
