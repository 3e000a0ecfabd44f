import BumpArena.Session.Links
import BumpArena.Session.Step

/-!
Computations on a session that may fail, and what they are made of: looking names up, adding and ending
objects, and running an action of one object with a link to the object it is built on.
-/
namespace BumpArena

/-- A computation on a session that may fail. -/
abbrev Attempt (α : Type) := ExceptT Failure (Act Session) α

namespace Attempt

variable {α : Type}

def require (value : Option α) (failure : Failure) : Attempt α :=
  match value with
  | some a => return a
  | none => throw failure

def object (name : String) : Attempt Object := do
  require ((← get).object? name) (.misuse s!"no object {name}")

def handle (name : String) : Attempt Handle := do
  require ((← get).handle? name) (.misuse s!"no handle {name}")

/-- The chain and the settings of an arena, after the name of the object it is built on. -/
def arena (name : String) : Attempt (String × Chain × Config) := do
  match ← object name with
  | .arena inner chain config => return (inner, chain, config)
  | _ => throw (.misuse s!"{name} is no arena")

def chain (name : String) : Attempt Chain := do
  match ← object name with
  | .detached chain => return chain
  | _ => throw (.misuse s!"{name} is no chain")

/-- Checks that an object can be built on the one of this name. -/
def checkBacking (name : String) : Attempt Unit := do
  if !(← object name).isBacking then throw (.misuse s!"{name} is no backing")

/-- Adds an object under a name that is not taken. -/
def add (name : String) (object : Object) : Attempt Unit := do
  if ((← get).object? name).isSome then throw (.misuse s!"{name} exists")
  modify (·.add name object)

/-- Checks that no object is built on the one of this name. -/
def checkUnused (name : String) : Attempt Unit := do
  if (← get).isInUse name then throw (.misuse s!"{name} is in use")

/-- Takes an object out on which no other one is built. -/
def remove (name : String) : Attempt Unit := do
  checkUnused name
  modify (·.remove name)

def layout (size align : Nat) : Attempt Layout :=
  require (Layout.ofBytes? size align) .invalidLayout

/-- Keeps a handle if there is a name for it. -/
def keep (name : Option String) (handle : Handle) : Attempt Unit :=
  match name with
  | some name => modify (·.keep name handle)
  | none => return ()

/-- Gives the handle of a name another length. -/
def setLength (name : String) (handle : Handle) (len : Nat) : Attempt Unit :=
  modify (·.keep name { handle with block := { handle.block with len } })

def onHeap (act : Act Heap α) : Attempt α :=
  ExceptT.lift (act.zoom Session.heap fun session heap => { session with heap })

/-- Runs an action of the arena of a name over its link. -/
def onArena (name : String) (act : Backing Session → Act (Arena Session) α) : Attempt α := do
  let (inner, chain, config) ← arena name
  let session ← get
  ExceptT.lift (Session.onArena name inner chain config (act (session.link inner)))

/-- Calls the object of a name, not over a link. -/
def onBacking (name : String) (act : Backing Session → Act Session α) : Attempt α := do
  checkBacking name
  let session ← get
  ExceptT.lift (act (Session.backing session.link name))

def orFail (answer : Except ArenaError α) : Attempt α :=
  match answer with
  | .ok a => return a
  | .error error => throw (.arena error)

/-- Builds an arena from a chain over a backing and adds it, unless `act` on it ends with an error. -/
def assemble (name inner : String) (chain : Chain)
    (act : Backing Session → Act (Arena Session) (Except ArenaError Unit)) : Attempt Unit := do
  checkBacking inner
  let session ← get
  let build : Act (Arena Session) (Except ArenaError Object) := do
    let answer ← act (session.link inner)
    let arena ← get
    return answer.map fun _ => .arena inner arena.toChain arena.config
  let built := build.zoom (fun session => chain.promote session) fun _ arena => arena.source
  add name (← orFail (← ExceptT.lift built))

/-- What happens at the end of an object: an arena gives its nodes back, and a chain loses them. -/
def releaseNodes (name : String) (object : Object) : Attempt Unit :=
  match object with
  | .arena .. => onArena name Arena.releaseAll
  | .detached chain => ExceptT.lift chain.abandon
  | _ => return ()

def finish (name : String) : Attempt Unit := do
  let object ← object name
  checkUnused name
  releaseNodes name object
  modify (·.remove name)

end Attempt

end BumpArena
