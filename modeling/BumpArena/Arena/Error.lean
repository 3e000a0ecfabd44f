/-!
The two ways in which an arena turns a client down.
-/
namespace BumpArena

inductive ArenaError where
  | outOfMemory (requested align : Nat)
  | invalidConfig (reason : String)
  deriving DecidableEq

def ArenaError.message : ArenaError → String
  | outOfMemory requested align =>
    s!"arena out of memory: requested {requested} bytes at alignment {align}"
  | invalidConfig reason => s!"invalid arena config: {reason}"

end BumpArena
