import BumpArena.Arena.Basic

/-!
Reproducible streams of requests. A stream is drawn from a seed by a linear congruential generator on
64-bit words: many small requests at alignments up to 16 and, in one of the profiles, a large one now
and then.
-/
namespace BumpArena

inductive Profile where
  | small
  /-- Every 64th request is a large one. -/
  | mixed
  deriving DecidableEq

namespace Profile

def step (state : UInt64) : UInt64 := state * 6364136223846793005 + 1442695040888963407

/-- The bits of a state that a request is drawn from. -/
def bits (state : UInt64) : Nat := (state >>> 33).toNat

def isLarge (profile : Profile) (index : Nat) : Bool :=
  match profile with
  | small => false
  | mixed => index % 64 == 63

def size (profile : Profile) (index bits : Nat) : Nat :=
  if profile.isLarge index then 16 * 1024 else 8 + bits % 249

def align (bits : Nat) : Alignment :=
  ⟨⟨bits / 4096 % 5, by omega⟩⟩

theorem size_le (profile : Profile) (index bits : Nat) : profile.size index bits ≤ 16 * 1024 := by
  unfold size
  split <;> omega

theorem align_bytes_le (bits : Nat) : (align bits).bytes ≤ 16 := by
  rw [align, Alignment.bytes, Nat.shiftLeft_eq, Nat.one_mul]
  exact Nat.pow_le_pow_right (show 0 < 2 by decide) (show bits / 4096 % 5 ≤ 4 by omega)

def request (profile : Profile) (index bits : Nat) : Layout where
  size := profile.size index bits
  align := align bits
  fits := Nat.le_trans (Nat.add_le_add (profile.size_le index bits) (align_bytes_le bits)) (by decide)

/-- So many requests from an index on, after the generator has reached a state. -/
def requestsFrom (profile : Profile) (index : Nat) (state : UInt64) : Nat → List Layout
  | 0 => []
  | count + 1 =>
    profile.request index (bits (step state)) ::
      requestsFrom profile (index + 1) (step state) count

/-- The first requests of the stream of a seed. -/
def requests (profile : Profile) (count : Nat) (seed : UInt64) : List Layout :=
  profile.requestsFrom 0 seed count

end Profile

namespace Arena

variable {σ : Type}

/-- Serves the requests in order after `total` bytes were served before. -/
def fillFrom (backing : Backing σ) (total : Nat) :
    List Layout → Act (Arena σ) (Except ArenaError Nat)
  | [] => return .ok total
  | layout :: rest => do
    match ← alloc backing layout with
    | .error error => return .error error
    | .ok block => fillFrom backing (total + block.len) rest

/-- Serves the requests in order, up to the first that is refused. The answer is the number of bytes of
    all blocks. -/
def fill (backing : Backing σ) (layouts : List Layout) : Act (Arena σ) (Except ArenaError Nat) :=
  fillFrom backing 0 layouts

end Arena
end BumpArena
