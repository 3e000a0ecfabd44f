import BumpArena.Session.Attempt

/-!
How a session answers its steps. `Session.transcript` runs a whole list of them and then ends the
objects that are left.
-/
namespace BumpArena

namespace Step

open Attempt

/-- The length of the longest block that a step reads. -/
def readLimit : Nat := 4096

def perform : Step → Attempt Value
  | createHeap id => do
    add id .heap
    return .nothing
  | createRegion id capacity => do
    let region ← onHeap (Region.create capacity)
    add id (.region region)
    return .nothing
  | createCounted id on => do
    checkBacking on
    add id (.counted on .empty)
    return .nothing
  | createRationed id on budget refusesResizes => do
    checkBacking on
    add id (.rationed on (.ofBudget budget refusesResizes))
    return .nothing
  | createArena id on none => do
    checkBacking on
    add id (.arena on .empty .standard)
    return .nothing
  | createArena id on (some settings) => do
    assemble id on .empty fun backing => Arena.prepare backing settings
    return .nothing
  | createChain id => do
    add id (.detached .empty)
    return .nothing
  | detach id on => do
    let (_, chain, _) ← arena on
    remove on
    add id (.detached chain)
    return .nothing
  | promote id on backing => do
    let chain ← chain on
    checkBacking backing
    remove on
    add id (.arena backing chain .standard)
    return .nothing
  | attach id on backing settings => do
    let chain ← chain on
    remove on
    assemble id backing chain fun backing => Arena.adopt backing settings
    return .nothing
  | finish on => do
    let _ ← arena on
    Attempt.finish on
    return .nothing
  | discard on => do
    Attempt.finish on
    return .nothing
  | endCounted on => do
    match ← object on with
    | .counted inner _ =>
      remove on
      return .name inner
    | _ => throw (.misuse s!"{on} is no counter")
  | alloc on size align name => do
    let layout ← layout size align
    let block ← orFail (← onArena on fun backing => Arena.alloc backing layout)
    keep name ⟨block, layout.align⟩
    return .block block
  | allocCopy on bytes name => do
    let memory := (← get).memory
    let (block, memory) ← orFail (← onArena on fun backing => Arena.allocCopy backing bytes memory)
    modify fun session => { session with memory }
    keep name ⟨block, .one⟩
    return .block block
  | resize on name newSize => do
    let handle ← handle name
    if ← onArena on fun _ => Arena.resize handle.block newSize then
      setLength name handle newSize
      return .flag true
    else
      return .flag false
  | remap on name newSize => do
    let handle ← handle name
    match ← onArena on fun _ => Arena.remap handle.block newSize with
    | some block =>
      modify (·.keep name { handle with block })
      return .block block
    | none => return .nothing
  | free on name => do
    let handle ← handle name
    onArena on fun _ => Arena.free handle.block
    return .nothing
  | reset on retention => do
    return .flag (← onArena on fun backing => Arena.reset backing retention)
  | fill on profile count seed => do
    return .count (← orFail (← onArena on fun backing =>
      Arena.fill backing (profile.requests count seed)))
  | allocate on size align name => do
    let layout ← layout size align
    match ← onBacking on fun backing => backing.allocate layout with
    | .ok block =>
      keep name ⟨block, layout.align⟩
      return .block block
    | .error refusal => throw (.refusal refusal)
  | resizeInPlace on name newSize size => do
    let handle ← handle name
    let layout ← require (handle.layout? size) .invalidLayout
    if ← onBacking on fun backing => backing.resizeInPlace handle.block.addr layout newSize then
      setLength name handle newSize
      return .flag true
    else
      return .flag false
  | release on name size => do
    let handle ← handle name
    let layout ← require (handle.layout? size) .invalidLayout
    onBacking on fun backing => backing.release handle.block.addr layout
    return .nothing
  | resetCounts on => do
    match ← object on with
    | .counted inner tally =>
      modify (·.replace on (.counted inner tally.resetCounts))
      return .nothing
    | _ => throw (.misuse s!"{on} is no counter")
  | setBudget on budget => do
    match ← object on with
    | .rationed inner ration =>
      modify (·.replace on (.rationed inner { ration with budget }))
      return .nothing
    | _ => throw (.misuse s!"{on} is no ration")
  | inspect on => do
    let _ ← object on
    return .nothing
  | write name byte => do
    let handle ← handle name
    modify fun session =>
      { session with memory := session.memory.fill handle.block.addr handle.block.len byte }
    return .nothing
  | read name => do
    let handle ← handle name
    if handle.block.len ≤ readLimit then
      return .bytes ((← get).memory.read handle.block.addr handle.block.len)
    else
      throw (.misuse s!"{name} is too long to read")

end Step

namespace Session

/-- Answers a step and reports about it. A fault ends the step and not the session. -/
def report (session : Session) (step : Step) : Report × Session :=
  let outcome := step.perform.run.run session
  let answer := match outcome.value with
    | .ok answer => answer
    | .error fault => .error (.fault fault)
  (⟨answer, outcome.trace, step.objects.findSome? outcome.state.object?⟩, outcome.state)

def answer (session : Session) : List Step → List Report × Session
  | [] => ([], session)
  | step :: rest =>
    let first := session.report step
    let others := first.2.answer rest
    (first.1 :: others.1, others.2)

/-- What happens when the objects of these names are ended one after the other. -/
def teardown (session : Session) : List String → Trace
  | [] => []
  | name :: rest =>
    let outcome := (Attempt.finish name).run.run session
    outcome.trace ++ outcome.state.teardown rest

/-- Answers the steps in a new session and ends the objects that are left then, newest first. -/
def transcript (heapSize : Nat) (steps : List Step) : Transcript :=
  let (reports, session) := (ofHeapSize heapSize).answer steps
  ⟨reports, session.objects, session.teardown (session.objects.map (·.1))⟩

end Session
end BumpArena
