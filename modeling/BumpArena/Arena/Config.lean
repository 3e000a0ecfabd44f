import BumpArena.Arena.Error
import BumpArena.Word

/-!
How long the nodes of an arena are. A fresh node has room for the whole head before it, for the
request that did not fit and for some slack, and all of this is scaled by the growth rate. So node
lengths grow geometrically, and no growth rate may be below a hundred percent.
-/
namespace BumpArena

/-- The parameters of an arena, in range or not. -/
structure Settings where
  /-- Bytes added to every fresh node. -/
  nodeSlack : Nat
  growthPercent : Nat
  /-- The length of a node that is there from the start; zero for none. -/
  initialCapacity : Nat
  deriving DecidableEq

/-- Parameters that an arena can work with. -/
structure Config extends Settings where
  growing : 100 ≤ growthPercent
  deriving DecidableEq

namespace Settings

/-- Small slack, growth by half, no node from the start. -/
def standard : Settings := ⟨32, 150, 0⟩

/-- The standard settings with a first node of this length. -/
def withInitialCapacity (bytes : Nat) : Settings := { standard with initialCapacity := bytes }

/-- Accepts the settings that an arena can work with. -/
def validate (settings : Settings) : Except ArenaError Config :=
  if growing : 100 ≤ settings.growthPercent then .ok { settings with growing }
  else .error (.invalidConfig (s!"growth_percent must be >= 100 (got {settings.growthPercent}); " ++
    "a smaller node could not hold the request that created it"))

end Settings

namespace Config

def standard : Config := { Settings.standard with growing := by decide }

/-- The length of the node after one of length `previous` in which a request that needs at most
    `footprint` bytes found no room; none if a step of the sum or the result is no word. -/
def nodeLength? (config : Config) (previous footprint : Nat) : Option Nat := do
  let covered ← Word.add? (← Word.add? previous footprint) config.nodeSlack
  let length := covered * config.growthPercent / 100
  if length < Word.limit then some length else none

theorem nodeLength?_eq_some_iff {config : Config} {previous footprint length : Nat} :
    config.nodeLength? previous footprint = some length ↔
      previous + footprint + config.nodeSlack < Word.limit ∧ length < Word.limit ∧
        (previous + footprint + config.nodeSlack) * config.growthPercent / 100 = length := by
  unfold nodeLength?
  by_cases first : previous + footprint < Word.limit
  · by_cases second : previous + footprint + config.nodeSlack < Word.limit
    · simp only [Word.add?, first, second, ↓reduceIte, Option.bind_eq_bind, Option.bind_some]
      split <;> simp <;> omega
    · simp [Word.add?, first, second]
  · have second : ¬ previous + footprint + config.nodeSlack < Word.limit := by omega
    simp [Word.add?, first, second]

/-- A fresh node is long enough for everything it was sized for. -/
theorem le_of_nodeLength? {config : Config} {previous footprint length : Nat}
    (sized : config.nodeLength? previous footprint = some length) :
    previous + footprint + config.nodeSlack ≤ length := by
  obtain ⟨_, _, scaled⟩ := nodeLength?_eq_some_iff.mp sized
  rw [← scaled, Nat.le_div_iff_mul_le (by decide)]
  exact Nat.mul_le_mul_left _ config.growing

end Config
end BumpArena
