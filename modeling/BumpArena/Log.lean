import BumpArena.Block

/-!
The records that an arena writes to its log, one constructor for each thing that is worth a record.
-/
namespace BumpArena

inductive Level where
  | trace
  | debug
  | warn
  deriving DecidableEq

/-- The level as it is written before a record. -/
def Level.label : Level → String
  | trace => "TRACE"
  | debug => "DEBUG"
  | warn => "WARN"

/-- Something an arena did. -/
inductive Record where
  | headResized (old new : Nat)
  /-- A node of this length became the head of a chain of so many nodes. -/
  | nodeLinked (len count : Nat)
  | nodeRefused (refusal : Refusal)
  | chainReleased (count capacity : Nat)
  | nodeKept (len : Nat)
  | nodeResized (old new : Nat)
  | nodeReplaced (len : Nat)
  /-- A reset found no node of this length and left the arena empty. -/
  | preheatFailed (len : Nat)
  /-- A chain of so many nodes was dropped, and nothing will ever release them. -/
  | chainLeaked (count capacity : Nat)
  deriving DecidableEq

namespace Record

def level : Record → Level
  | headResized .. | nodeLinked .. => .trace
  | chainLeaked .. => .warn
  | _ => .debug

def message : Record → String
  | headResized old new => s!"arena: resized head node in place from {old} to {new} bytes"
  | nodeLinked len count => s!"arena: linked {len}-byte node, chain length {count}"
  | nodeRefused refusal => s!"arena: backing allocator refused a node: {refusal.message}"
  | chainReleased count capacity => s!"arena reset: released {count} nodes ({capacity} bytes)"
  | nodeKept len => s!"arena reset: kept one {len}-byte node"
  | nodeResized old new => s!"arena reset: resized retained node from {old} to {new} bytes"
  | nodeReplaced len => s!"arena reset: replaced retained node with a {len}-byte node"
  | preheatFailed len => s!"arena reset: could not preheat {len} bytes; arena left empty"
  | chainLeaked count capacity =>
    s!"dropping detached arena state with {count} nodes ({capacity} bytes); their memory is leaked"

def line (record : Record) : String := s!"{record.level.label} {record.message}"

end Record
end BumpArena
