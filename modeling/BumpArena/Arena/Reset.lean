import BumpArena.Arena.Basic

/-!
A reset takes all blocks of an arena back at once. It keeps nothing, or one node whose length is the
capacity of the arena before, limited if the client wants so.
-/
namespace BumpArena

inductive Retention where
  | nothing
  | capacity
  | atMost (limit : Nat)
  deriving DecidableEq

/-- The length of the node that is kept from an arena of this capacity; zero for none. -/
def Retention.target (capacity : Nat) : Retention → Nat
  | nothing => 0
  | .capacity => capacity
  | atMost limit => min limit capacity

namespace Arena

variable {σ : Type}

def releaseNode (backing : Backing σ) (node : Node) : Act (Arena σ) Unit :=
  onSource (backing.release node.base node.layout)

/-- Gives the nodes of a chain back, newest first, until only the `keep` oldest are left. -/
def releaseNodes (backing : Backing σ) (keep : Nat) : List Node → Act (Arena σ) Unit
  | [] => pure ()
  | node :: older =>
    if older.length < keep then pure ()
    else do
      modify fun arena => { arena with nodes := older }
      releaseNode backing node
      releaseNodes backing keep older

/-- Gives the nodes of the arena back, newest first, until only the `keep` oldest are left, and starts
    again at the beginning of the head. -/
def releaseDownTo (backing : Backing σ) (keep : Nat) : Act (Arena σ) Unit := do
  releaseNodes backing keep (← get).nodes
  modify fun arena => { arena with cursor := 0 }

def releaseAll (backing : Backing σ) : Act (Arena σ) Unit := releaseDownTo backing 0

/-- Replaces the whole chain, in which only `retained` is left, by a fresh node. The old node goes back
    after the new one was asked for. -/
def replaceNode (backing : Backing σ) (retained : Node) (target : Nat) : Act (Arena σ) Bool := do
  let fresh ← allocateNode backing target
  modify fun arena => { arena with nodes := [] }
  releaseNode backing retained
  match fresh with
  | some node =>
    modify fun arena => { arena with nodes := [node] }
    Act.log (.nodeReplaced target)
    return true
  | none =>
    Act.log (.preheatFailed target)
    return false

/-- Takes all blocks back and keeps what `retention` says. The answer is whether the arena has the
    capacity it should have now; if not, it has no node at all and still works. -/
def reset (backing : Backing σ) (retention : Retention) : Act (Arena σ) Bool := do
  let chain := (← get).toChain
  let capacity ← Word.sum (chain.nodes.map (·.len))
  let target := retention.target capacity
  if target = 0 then
    releaseAll backing
    Act.log (.chainReleased chain.nodes.length capacity)
    return true
  else
    releaseDownTo backing 1
    match (← get).nodes with
    | [] => return true
    | retained :: _ =>
      if retained.len = target then
        Act.log (.nodeKept target)
        return true
      else if ← resizeHead backing target then
        Act.log (.nodeResized retained.len target)
        return true
      else
        replaceNode backing retained target

end Arena
end BumpArena
