/-!
The bytes behind the addresses. Every address holds a byte, zero at first; writing changes the bytes
of one range and no other.
-/
namespace BumpArena

/-- A byte for every address. -/
structure Memory where
  byteAt : Nat → UInt8

namespace Memory

def zero : Memory := ⟨fun _ => 0⟩

/-- Writes the bytes one after the other from address `start` on. -/
def write (memory : Memory) (start : Nat) (bytes : List UInt8) : Memory where
  byteAt address :=
    if start ≤ address then (bytes[address - start]?).getD (memory.byteAt address)
    else memory.byteAt address

/-- Writes the same byte `len` times from address `start` on. -/
def fill (memory : Memory) (start len : Nat) (byte : UInt8) : Memory where
  byteAt address :=
    if start ≤ address ∧ address < start + len then byte else memory.byteAt address

/-- The `len` bytes from address `start` on. -/
def read (memory : Memory) (start len : Nat) : List UInt8 :=
  (List.range len).map fun offset => memory.byteAt (start + offset)

theorem byteAt_write_of_lt {memory : Memory} {start address : Nat} {bytes : List UInt8}
    (below : address < start) : (memory.write start bytes).byteAt address = memory.byteAt address := by
  simp [write, Nat.not_le.mpr below]

theorem byteAt_write_of_ge {memory : Memory} {start address : Nat} {bytes : List UInt8}
    (above : start + bytes.length ≤ address) :
    (memory.write start bytes).byteAt address = memory.byteAt address := by
  have past : bytes[address - start]? = none := List.getElem?_eq_none (by omega)
  simp [write, past]

theorem read_write (memory : Memory) (start : Nat) (bytes : List UInt8) :
    (memory.write start bytes).read start bytes.length = bytes := by
  apply List.ext_getElem
  · simp [read]
  · intro i _ inside
    simp [read, write, inside]

end Memory
end BumpArena
