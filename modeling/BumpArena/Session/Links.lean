import BumpArena.Session.Basic

/-!
The allocators of a session as backings on the session. A client reaches the allocator it is built on
through a link, which enters every call in the trace and hides the faults of the callee. An object is
only ever built on an older one, so the links are defined from the oldest object on.
-/
namespace BumpArena.Session

variable {α : Type}

/-- Runs an action of an arena on the session. -/
def onArena (name inner : String) (chain : Chain) (config : Config) (act : Act (Arena Session) α) :
    Act Session α :=
  act.zoom (fun session => { chain with config, source := session })
    fun _ arena => arena.source.replace name (.arena inner arena.toChain arena.config)

/-- Uses the object of a name as a backing. It reaches the object it is built on by `peer`. -/
def use (peer : String → Backing Session) (name : String)
    (client : {τ : Type} → Backing τ → Act τ α) : Act Session α := fun session =>
  match session.object? name with
  | some .heap =>
    (client Heap.backing).zoom Session.heap (fun session heap => { session with heap }) session
  | some (.region region) =>
    (client Region.backing).zoom (fun _ => region)
      (fun session region => session.replace name (.region region)) session
  | some (.counted inner tally) =>
    (client (Counted.backing (peer inner))).zoom (fun session => { tally with inner := session })
      (fun _ counted => counted.inner.replace name (.counted inner counted.toTally)) session
  | some (.rationed inner ration) =>
    (client (Rationed.backing (peer inner))).zoom (fun session => { ration with inner := session })
      (fun _ rationed => rationed.inner.replace name (.rationed inner rationed.toRation)) session
  | some (.arena inner chain config) =>
    onArena name inner chain config (client (Arena.asBacking (peer inner))) session
  | some (.detached _) | none => client Backing.void session

def backing (peer : String → Backing Session) (name : String) : Backing Session where
  allocate layout := use peer name fun backing => backing.allocate layout
  resizeInPlace addr layout newSize :=
    use peer name fun backing => backing.resizeInPlace addr layout newSize
  release addr layout := use peer name fun backing => backing.release addr layout

/-- The links to objects of these names, newest first. -/
def links : List String → String → Backing Session
  | [], _ => .void
  | newest :: older, name =>
    if name = newest then ((backing (links older) name).recorded name).shielded
    else links older name

def link (session : Session) (name : String) : Backing Session :=
  links (session.objects.map (·.1)) name

end BumpArena.Session
