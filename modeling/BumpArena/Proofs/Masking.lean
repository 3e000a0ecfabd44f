import BumpArena.Proofs.Rounding

/-!
Rounding as it is done on words. An alignment is a power of two, so the bytes behind the last multiple are the low bits
of an address, and rounding up is one sum and one mask (`Alignment.alignUp?_masked`). What comes out is the least
multiple at or after the address, for every alignment and up to the last word: the sum leaves the range of words
exactly if that multiple does (`alignForward_least`).
-/
namespace BumpArena

/-- The word with the bits of the mask cleared. -/
def Word.clear (mask word : Nat) : Nat := (BitVec.ofNat 64 word &&& ~~~BitVec.ofNat 64 mask).toNat

namespace Word

/-- Without its low bits a word is a multiple of a power of two. -/
theorem clear_two_pow {k word : Nat} (small : k ≤ 64) (isWord : word < limit) :
    clear (2 ^ k - 1) word = 2 ^ k * (word / 2 ^ k) := by
  rw [show limit = 2 ^ 64 from rfl] at isWord
  have power : 2 ^ k ≤ 2 ^ 64 := Nat.pow_le_pow_right (by decide) small
  have positive : 0 < 2 ^ k := Nat.two_pow_pos k
  have complement : 2 ^ 64 - 1 - (2 ^ k - 1) = 2 ^ 64 - (2 ^ k - 1 + 1) := by omega
  rw [clear, BitVec.toNat_and, BitVec.toNat_not, BitVec.toNat_ofNat, BitVec.toNat_ofNat, Nat.mod_eq_of_lt isWord,
    Nat.mod_eq_of_lt (by omega), complement]
  apply Nat.eq_of_testBit_eq
  intro i
  rw [Nat.testBit_and, Nat.testBit_two_pow_sub_succ (by omega), Nat.testBit_two_pow_sub_one, Nat.testBit_two_pow_mul,
    Nat.testBit_div_two_pow]
  -- The bits below `k` are cleared, the others of a word stay, and a word has none from the 64th on.
  by_cases low : i < k
  · simp [low, Nat.not_le.mpr low]
  · have back : i - k + k = i := by omega
    by_cases inside : i < 64
    · simp [low, inside, Nat.not_lt.mp low, back]
    · have none : word.testBit i = false :=
        Nat.testBit_lt_two_pow (isWord.trans_le (Nat.pow_le_pow_right (show 0 < 2 by decide) (Nat.not_lt.mp inside)))
      simp [back, none]

end Word

namespace Alignment

variable {a : Alignment} {address : Nat}

/-- The mask of an alignment takes the remainder. -/
theorem and_mask (a : Alignment) (address : Nat) : address &&& (a.bytes - 1) = address % a.bytes := by
  rw [bytes_eq_two_pow, Nat.and_two_pow_sub_one_eq_mod]

theorem divides_eq (a : Alignment) (address : Nat) : a.divides address = decide (a.bytes ∣ address) := by
  simp only [divides, Nat.dvd_iff_mod_eq_zero, beq_eq_decide]

theorem divides_masked (a : Alignment) (address : Nat) : a.divides address = (address &&& (a.bytes - 1) == 0) := by
  rw [and_mask, divides]

/-- Rounding up adds the mask and clears its bits. -/
theorem alignUp?_masked (a : Alignment) (address : Nat) :
    a.alignUp? address = (Word.add? address (a.bytes - 1)).map (Word.clear (a.bytes - 1)) := by
  rw [alignUp?]
  rcases sum : Word.add? address (a.bytes - 1) with _ | top
  · rfl
  · obtain ⟨_, isWord⟩ := Word.add?_eq_some_iff.mp sum
    have parts := Nat.div_add_mod top a.bytes
    have cleared := Word.clear_two_pow (Nat.le_of_lt a.exponent.isLt) isWord
    rw [← bytes_eq_two_pow] at cleared
    rw [Option.map_some, Option.map_some, cleared, Option.some.injEq]
    omega

/-- The addresses that rounding up can answer with. -/
def Candidate (align address multiple : Nat) : Prop := address ≤ multiple ∧ multiple < Word.limit ∧ align ∣ multiple

theorem alignUp?_eq_some_iff_isLeast {result : Nat} :
    a.alignUp? address = some result ↔ IsLeast {multiple | Candidate a.bytes address multiple} result := by
  rw [alignUp?_eq_some_iff]
  constructor
  · rintro ⟨rfl, isWord⟩
    exact ⟨⟨a.le_roundUp address, isWord, a.dvd_roundUp address⟩, fun multiple found => roundUp_le found.2.2 found.1⟩
  · rintro ⟨⟨le, isWord, divides⟩, least⟩
    have below := roundUp_le divides le
    have rounded : Candidate a.bytes address (a.roundUp address) :=
      ⟨a.le_roundUp address, Nat.lt_of_le_of_lt below isWord, a.dvd_roundUp address⟩
    exact ⟨Nat.le_antisymm (least rounded) below, isWord⟩

theorem alignUp?_eq_none_iff_forall :
    a.alignUp? address = none ↔ ∀ multiple, ¬ Candidate a.bytes address multiple := by
  rw [alignUp?_eq_none_iff]
  constructor
  · rintro outside multiple ⟨le, isWord, divides⟩
    exact absurd (Nat.lt_of_le_of_lt (roundUp_le divides le) isWord) (Nat.not_lt.mpr outside)
  · intro none
    by_contra inside
    exact none _ ⟨a.le_roundUp address, Nat.lt_of_not_le inside, a.dvd_roundUp address⟩

theorem alignUp?_self_iff (isWord : address < Word.limit) : a.alignUp? address = some address ↔ a.bytes ∣ address := by
  rw [alignUp?_eq_some_iff]
  constructor
  · rintro ⟨same, _⟩
    exact same ▸ a.dvd_roundUp address
  · intro divides
    exact ⟨(roundUp_of_dvd divides).symm, isWord⟩

theorem roundUp_mono (a : Alignment) {later : Nat} (le : address ≤ later) : a.roundUp address ≤ a.roundUp later :=
  roundUp_le (a.dvd_roundUp later) (le.trans (a.le_roundUp later))

theorem alignForward_bytes (a : Alignment) (address : Nat) :
    alignForward address a.bytes = .ok (a.alignUp? address) := by
  rw [alignForward, ofBytes, ofBytes?_bytes, Except.map]

theorem isAligned_bytes (a : Alignment) (address : Nat) : isAligned address a.bytes = .ok (a.divides address) := by
  rw [isAligned, ofBytes, ofBytes?_bytes, Except.map]

end Alignment

/-- What rounding an address up to a multiple of `align` comes to, with its answer. -/
structure Aligns (align address : Nat) (answer : Option Nat) : Prop where
  none_iff : answer = none ↔ ∀ multiple, ¬ Alignment.Candidate align address multiple
  some_iff : ∀ result, answer = some result ↔ IsLeast {multiple | Alignment.Candidate align address multiple} result
  masked : answer = (Word.add? address (align - 1)).map (Word.clear (align - 1))
  aligned : ∀ result, answer = some result →
    isAligned result align = .ok true ∧ address ≤ result ∧ result - address < align
  again : ∀ result, answer = some result → alignForward result align = .ok (some result)
  monotone : ∀ earlier ≤ address, ∀ result, answer = some result →
    ∃ before ≤ result, alignForward earlier align = .ok (some before)
  tested : isAligned address align = .ok (decide (align ∣ address))
  tested_masked : isAligned address align = .ok (address &&& (align - 1) == 0)
  fixed_iff : isAligned address align = .ok true ↔ answer = some address

theorem Alignment.aligns (a : Alignment) {address : Nat} (isWord : address < Word.limit) :
    Aligns a.bytes address (a.alignUp? address) where
  none_iff := alignUp?_eq_none_iff_forall
  some_iff _ := alignUp?_eq_some_iff_isLeast
  masked := a.alignUp?_masked address
  aligned result found := by
    obtain ⟨rfl, _⟩ := alignUp?_eq_some_iff.mp found
    have after := a.le_roundUp address
    have near := a.roundUp_lt address
    rw [isAligned_bytes, divides_eq, decide_eq_true (a.dvd_roundUp address)]
    exact ⟨rfl, after, by omega⟩
  again result found := by
    obtain ⟨rfl, inside⟩ := alignUp?_eq_some_iff.mp found
    rw [alignForward_bytes, (alignUp?_self_iff inside).mpr (a.dvd_roundUp address)]
  monotone earlier le result found := by
    obtain ⟨rfl, inside⟩ := alignUp?_eq_some_iff.mp found
    have below := a.roundUp_mono le
    refine ⟨a.roundUp earlier, below, ?_⟩
    rw [alignForward_bytes, alignUp?_eq_some_iff.mpr ⟨rfl, Nat.lt_of_le_of_lt below inside⟩]
  tested := by rw [isAligned_bytes, divides_eq]
  tested_masked := by rw [isAligned_bytes, divides_masked]
  fixed_iff := by
    rw [isAligned_bytes, divides_eq, alignUp?_self_iff isWord, Except.ok.injEq, decide_eq_true_eq]

/-- Every word is rounded up to the least multiple at or after it, for every power of two that is a word, and there is
    no answer exactly if no such multiple is a word. So rounding is monotone, a second time it changes nothing, it
    goes less than one step of the alignment, and it leaves exactly the aligned addresses as they are. -/
theorem alignForward_least {k address : Nat} (small : k < 64) (isWord : address < Word.limit) :
    ∃ answer, alignForward address (2 ^ k) = .ok answer ∧ Aligns (2 ^ k) address answer := by
  let a : Alignment := ⟨⟨k, small⟩⟩
  have bytes : 2 ^ k = a.bytes := a.bytes_eq_two_pow.symm
  rw [bytes]
  exact ⟨a.alignUp? address, a.alignForward_bytes address, a.aligns isWord⟩

/-- The last page of the address space is left as it is, and behind its first address no page begins. -/
theorem alignForward_last_page :
    12 < 64 ∧
      (Word.limit - 4096 < Word.limit ∧ alignForward (Word.limit - 4096) (2 ^ 12) = .ok (some (Word.limit - 4096)) ∧
        Aligns (2 ^ 12) (Word.limit - 4096) (some (Word.limit - 4096))) ∧
      (Word.limit - 4095 < Word.limit ∧ alignForward (Word.limit - 4095) (2 ^ 12) = .ok none ∧
        Aligns (2 ^ 12) (Word.limit - 4095) none) := by
  have small : 12 < 64 := by decide
  have first : Word.limit - 4096 < Word.limit := by decide
  have second : Word.limit - 4095 < Word.limit := by decide
  refine ⟨small, ⟨first, ?_⟩, second, ?_⟩
  · obtain ⟨answer, rounded, aligns⟩ := alignForward_least small first
    have fixed : isAligned (Word.limit - 4096) (2 ^ 12) = .ok true := by
      rw [aligns.tested]
      decide
    obtain rfl := aligns.fixed_iff.mp fixed
    exact ⟨rounded, aligns⟩
  · obtain ⟨answer, rounded, aligns⟩ := alignForward_least small second
    have behind : ∀ multiple, ¬ Alignment.Candidate (2 ^ 12) (Word.limit - 4095) multiple := by
      rintro multiple ⟨after, inside, pages, rfl⟩
      unfold Word.limit at after inside
      omega
    obtain rfl := aligns.none_iff.mpr behind
    exact ⟨rounded, aligns⟩

end BumpArena
