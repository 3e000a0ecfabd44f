import BumpArena.Arena.Lifecycle
import BumpArena.Backing.Counted
import BumpArena.Backing.Heap
import BumpArena.Backing.Rationed
import BumpArena.Region.Basic

/-!
A session holds allocators by name. They share one heap and one memory, and a counter, a ration or an
arena is built on another allocator of the session. Clients keep blocks under names too.
-/
namespace BumpArena

/-- An allocator of a session, or a chain that has left its arena. The first argument of those that
    are built on another one is its name. -/
inductive Object where
  | heap
  | region (region : Region)
  | counted (inner : String) (tally : Tally)
  | rationed (inner : String) (ration : Ration)
  | arena (inner : String) (chain : Chain) (config : Config)
  | detached (chain : Chain)

namespace Object

/-- The name of the allocator that this one is built on. -/
def inner? : Object → Option String
  | counted inner _ | rationed inner _ | arena inner _ _ => some inner
  | heap | region _ | detached _ => none

def isBacking : Object → Bool
  | detached _ => false
  | _ => true

end Object

/-- A block that a client keeps, with the alignment it was asked for. A handle is a plain value: it
    stays as it is when the block is released. -/
structure Handle where
  block : Block
  align : Alignment
  deriving DecidableEq

/-- The layout that describes a handle, or one of another size at the same alignment. -/
def Handle.layout? (handle : Handle) (size : Option Nat) : Option Layout :=
  Layout.ofSize? (size.getD handle.block.len) handle.align

structure Session where
  heap : Heap
  memory : Memory
  objects : List (String × Object)
  handles : List (String × Handle)

namespace Session

/-- A session with a heap of so many bytes and no allocators. -/
def ofHeapSize (heapSize : Nat) : Session := ⟨.ofSize heapSize, .zero, [], []⟩

def object? (session : Session) (name : String) : Option Object := session.objects.lookup name

def handle? (session : Session) (name : String) : Option Handle := session.handles.lookup name

/-- Whether another object is built on the one of this name. -/
def isInUse (session : Session) (name : String) : Bool :=
  session.objects.any fun entry => entry.2.inner? == some name

def add (session : Session) (name : String) (object : Object) : Session :=
  { session with objects := (name, object) :: session.objects }

/-- Puts an object in the place of the one of this name. -/
def replace (session : Session) (name : String) (object : Object) : Session :=
  { session with objects := session.objects.map fun entry =>
      if entry.1 = name then (name, object) else entry }

def remove (session : Session) (name : String) : Session :=
  { session with objects := session.objects.filter (·.1 != name) }

/-- Keeps a handle under a name, in the place of one that was kept before. -/
def keep (session : Session) (name : String) (handle : Handle) : Session :=
  { session with handles := (name, handle) :: session.handles.filter (·.1 != name) }

end Session
end BumpArena
