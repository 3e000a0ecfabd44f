import BumpArena.Arena.Reset

/-!
How arenas begin and end. A chain can leave its arena and join another one over the same backing; no
node is touched on the way.
-/
namespace BumpArena

namespace Arena

variable {σ : Type}

/-- Makes a new arena ready: checks the settings and gets the first node, if they ask for one. After
    an error the arena holds nothing. -/
def prepare (backing : Backing σ) (settings : Settings) : Act (Arena σ) (Except ArenaError Unit) := do
  match settings.validate with
  | .error error => return .error error
  | .ok config =>
    modify fun arena => { arena with config }
    if config.initialCapacity = 0 then
      return .ok ()
    else
      match ← allocateNode backing config.initialCapacity with
      | none => return .error (.outOfMemory config.initialCapacity nodeAlignment.bytes)
      | some node =>
        modify fun arena => { arena with nodes := node :: arena.nodes }
        return .ok ()

/-- The chain without its arena, and the backing without a client. -/
def detach (arena : Arena σ) : Chain × σ := (arena.toChain, arena.source)

/-- Gives an arena with a chain its settings. If they are out of range, the chain is released. -/
def adopt (backing : Backing σ) (settings : Settings) : Act (Arena σ) (Except ArenaError Unit) := do
  match settings.validate with
  | .error error =>
    releaseAll backing
    return .error error
  | .ok config =>
    modify fun arena => { arena with config }
    return .ok ()

end Arena

namespace Chain

variable {σ : Type}

def promote (chain : Chain) (source : σ) : Arena σ := { chain with config := .standard, source }

def attach (chain : Chain) (backing : Backing σ) (source : σ) (settings : Settings) :
    Outcome (Arena σ) (Except ArenaError Unit) :=
  (Arena.adopt backing settings).run (chain.promote source)

end Chain
end BumpArena
