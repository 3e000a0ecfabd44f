/-!
The ways in which an allocator operation can be misused or go wrong for good. A fault stops the
operation that meets it; it is not an answer such as a refused request. Each constructor is one cause,
and `Fault.message` is the only place where the wording is kept.
-/
namespace BumpArena

/-- An address in lowercase hexadecimal digits after `0x`. -/
def hexadecimal (address : Nat) : String :=
  "0x" ++ String.ofList (Nat.toDigits 16 address)

/-- Why an operation stopped. -/
inductive Fault where
  | sumOverflow
  | differenceOverflow
  | notPowerOfTwo (alignment : Nat)
  | nodeLength (length : Nat)
  /-- A request was neither served nor refused in the rounds it had. -/
  | unsettled
  | regionTooLarge (capacity : Nat)
  | regionUnavailable (capacity : Nat)
  | outsideRegion (address : Nat)
  | blockNotLive (offset : Nat)
  /-- The live block at this offset has another size than its layout says. -/
  | blockSize (offset live described : Nat)
  | resizeUntracked (address : Nat)
  | releaseUntracked (address : Nat)
  /-- A block was to be released with another size than the counter keeps for it. -/
  | releaseStale (address tracked described : Nat)
  deriving DecidableEq

namespace Fault

/-- The report of two numbers that should have been equal. -/
private def unequal (what : String) (left right : Nat) : String :=
  s!"assertion `left == right` failed: {what}\n  left: {left}\n right: {right}"

def message : Fault → String
  | sumOverflow => "attempt to add with overflow"
  | differenceOverflow => "attempt to subtract with overflow"
  | notPowerOfTwo alignment => s!"alignment {alignment} is not a power of two"
  | nodeLength length => s!"node length {length} does not form a layout"
  | unsettled => "request not settled"
  | regionTooLarge _ => "region layout overflows: LayoutError"
  | regionUnavailable capacity => s!"no room for a region of {capacity} bytes"
  | outsideRegion address => s!"pointer {hexadecimal address} is outside the first-fit region"
  | blockNotLive offset => s!"block at offset {offset} is not live (double free?)"
  | blockSize offset live described =>
    unequal s!"layout size does not match live block at offset {offset}" live described
  | resizeUntracked address => s!"resize of untracked block {hexadecimal address}"
  | releaseUntracked address => s!"release of untracked block {hexadecimal address} (double free?)"
  | releaseStale address tracked described =>
    unequal s!"release of block {hexadecimal address} with a stale layout" tracked described

end Fault
end BumpArena
