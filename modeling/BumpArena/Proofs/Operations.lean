import BumpArena.Proofs.Carving
import BumpArena.Proofs.Clearing

/-!
The operations of an arena with all their answers. The blocks that a client names may be any. `Arena.Does` lists what
an operation can come to. An invariant of an arena that requests, resets and every move of the cursor keep
(`Arena.Keeps`) holds after any list of operations (`Workspace.operateAll_ends`).
-/
namespace BumpArena

/-- What a client can ask of an arena. -/
inductive Operation where
  | alloc (layout : Layout)
  | allocCopy (bytes : List UInt8)
  | resize (block : Block) (newSize : Nat)
  | remap (block : Block) (newSize : Nat)
  | free (block : Block)
  | reset (retention : Retention)
  deriving DecidableEq

/-- What the client is told. -/
inductive Answer where
  | served (answer : Except ArenaError Block)
  | moved (block? : Option Block)
  | flag (granted : Bool)
  | done

/-- An arena and the memory that copies are written to. -/
structure Workspace (σ : Type) where
  arena : Arena σ
  memory : Memory

namespace Workspace

variable {σ α : Type} {backing : Backing σ}

def onArena (act : Act (Arena σ) α) : Act (Workspace σ) α :=
  act.zoom Workspace.arena fun workspace arena => { workspace with arena }

def operate (backing : Backing σ) : Operation → Act (Workspace σ) Answer
  | .alloc layout => return .served (← onArena (Arena.alloc backing layout))
  | .allocCopy bytes => do
    match ← onArena (Arena.allocCopy backing bytes (← get).memory) with
    | .ok (block, memory) =>
      modify fun workspace => { workspace with memory }
      return .served (.ok block)
    | .error error => return .served (.error error)
  | .resize block newSize => return .flag (← onArena (Arena.resize block newSize))
  | .remap block newSize => return .moved (← onArena (Arena.remap block newSize))
  | .free block => do
    onArena (Arena.free block)
    return .done
  | .reset retention => return .flag (← onArena (Arena.reset backing retention))

/-- Asks for one operation after the other and lists the answers. -/
def operateAll (backing : Backing σ) : List Operation → Act (Workspace σ) (List Answer)
  | [] => return []
  | operation :: later => do
    let answer ← operate backing operation
    return answer :: (← operateAll backing later)

end Workspace

/-! ### What an operation comes to -/

/-- The answer to a resize that returns the block. -/
def Block.remapped (block : Block) (newSize : Nat) (granted : Bool) : Option Block :=
  if granted then some { block with len := newSize } else none

/-- What an operation can come to. -/
inductive Arena.Does {σ : Type} (backing : Backing σ) (arena : Arena σ) : Operation → Answer → Arena σ → Prop where
  | alloc {layout : Layout} {answer : Except ArenaError Block} {trace : Trace} {arena' : Arena σ}
    (course : Arena.Course backing layout arena answer trace arena') :
    Does backing arena (.alloc layout) (.served answer) arena'
  | allocCopy {bytes : List UInt8} {layout : Layout} {answer : Except ArenaError Block} {trace : Trace}
    {arena' : Arena σ} (sized : Layout.ofSize? bytes.length .one = some layout)
    (course : Arena.Course backing layout arena answer trace arena') :
    Does backing arena (.allocCopy bytes) (.served answer) arena'
  | overlong {bytes : List UInt8} (long : Layout.ofSize? bytes.length .one = none) :
    Does backing arena (.allocCopy bytes) (.served (.error (.outOfMemory bytes.length Alignment.one.bytes))) arena
  | resize {block : Block} {newSize : Nat} {granted : Bool} {chain : Chain}
    (resizes : arena.toChain.Resizes block newSize granted chain) :
    Does backing arena (.resize block newSize) (.flag granted) { arena with toChain := chain }
  | remap {block : Block} {newSize : Nat} {granted : Bool} {chain : Chain}
    (resizes : arena.toChain.Resizes block newSize granted chain) :
    Does backing arena (.remap block newSize) (.moved (block.remapped newSize granted)) { arena with toChain := chain }
  | free {block : Block} {granted : Bool} {chain : Chain} (resizes : arena.toChain.Resizes block 0 granted chain) :
    Does backing arena (.free block) .done { arena with toChain := chain }
  | reset {retention : Retention} {kept : Bool} {arena' : Arena σ}
    (clears : Arena.Clears backing retention arena kept arena') :
    Does backing arena (.reset retention) (.flag kept) arena'

namespace Workspace

variable {σ : Type} {backing : Backing σ} {Out : σ → List Grant → Prop} {workspace : Workspace σ}

theorem operate_does (lends : backing.LendsNodes Out) (backed : workspace.arena.Backed Out) (operation : Operation) :
    (operate backing operation).Ends workspace fun answer _ workspace' =>
      workspace'.arena.Backed Out ∧ Arena.Does backing workspace.arena operation answer workspace'.arena := by
  have sound := backed.sound lends
  have alloc layout := Arena.alloc_course lends.lendsBelow_limit (by decide) backed layout
  have resize block newSize : (Chain.resize block newSize).Ends workspace.arena.toChain fun granted _ chain =>
      ({ workspace.arena with toChain := chain } : Arena σ).Backed Out ∧
        workspace.arena.toChain.Resizes block newSize granted chain := by
    refine (Chain.resize_cases sound block newSize).mono ?_
    intro granted _ chain resizes
    obtain ⟨sound', nodes⟩ := resizes.keeps sound
    exact ⟨⟨nodes ▸ backed.out, sound'.filled, sound'.cursor_le⟩, resizes⟩
  cases operation with
  | alloc layout =>
    simp only [operate, onArena, Act.ends_bind, Act.ends_zoom, Act.ends_pure]
    exact (alloc layout).mono fun _ _ _ served => ⟨served.1, .alloc served.2⟩
  | allocCopy bytes =>
    simp only [operate, onArena, Arena.allocCopy, Act.ends_bind, Act.ends_get, Act.ends_zoom]
    rcases sized : Layout.ofSize? bytes.length .one with _ | layout
    · simp only [Act.ends_pure]
      exact ⟨backed, .overlong sized⟩
    · simp only [Act.ends_bind, Act.ends_pure]
      refine (alloc layout).mono ?_
      rintro (error | block) _ arena' ⟨backed', course⟩
      · exact (Act.ends_pure ..).mpr ⟨backed', .allocCopy sized course⟩
      · simp only [Except.map, Act.ends_bind, Act.ends_modify, Act.ends_pure]
        exact ⟨backed', .allocCopy sized course⟩
  | resize block newSize =>
    simp only [operate, onArena, Arena.resize, Arena.onChain, Act.ends_bind, Act.ends_zoom, Act.ends_pure]
    exact (resize block newSize).mono fun _ _ _ resized => ⟨resized.1, .resize resized.2⟩
  | remap block newSize =>
    simp only [operate, onArena, Arena.remap, Arena.onChain, Chain.remap_eq, Act.ends_bind, Act.ends_zoom, Act.ends_map,
      Act.ends_pure]
    exact (resize block newSize).mono fun _ _ _ resized => ⟨resized.1, .remap resized.2⟩
  | free block =>
    simp only [operate, onArena, Arena.free, Arena.onChain, Act.ends_bind, Act.ends_zoom, Act.ends_pure]
    rw [Act.ends_congr (Chain.run_free sound block), Act.ends_map]
    exact (resize block 0).mono fun _ _ _ resized => ⟨resized.1, .free resized.2⟩
  | reset retention =>
    simp only [operate, onArena, Act.ends_bind, Act.ends_zoom, Act.ends_pure]
    exact (Arena.reset_clears lends backed retention).mono fun _ _ _ cleared => ⟨cleared.1, .reset cleared.2⟩

end Workspace

/-! ### Invariants -/

namespace Arena

variable {σ α : Type} {backing : Backing σ} {kept : Arena σ → Prop}

/-- A property of sound arenas that no operation ends. -/
structure Keeps (backing : Backing σ) (kept : Arena σ → Prop) : Prop where
  sound : ∀ {arena}, kept arena → arena.toChain.Sound
  alloc : ∀ {arena} layout, kept arena → (alloc backing layout).Ends arena fun _ _ arena' => kept arena'
  reset : ∀ {arena} retention, kept arena → (reset backing retention).Ends arena fun _ _ arena' => kept arena'
  moved : ∀ {arena} {chain : Chain}, kept arena → chain.Sound → chain.nodes = arena.nodes →
    kept { arena with toChain := chain }

theorem Keeps.allocCopy (keeps : Keeps backing kept) {arena : Arena σ} (bytes : List UInt8) (memory : Memory)
    (now : kept arena) : (allocCopy backing bytes memory).Ends arena fun _ _ arena' => kept arena' := by
  rw [Arena.allocCopy]
  rcases Layout.ofSize? bytes.length .one with _ | layout
  · exact (Act.ends_pure ..).mpr now
  · simp only [Act.ends_bind, Act.ends_pure]
    exact keeps.alloc layout now

theorem Keeps.onChain (keeps : Keeps backing kept) {arena : Arena σ} {act : Act Chain α} (now : kept arena)
    (acts : act.Ends arena.toChain fun _ _ chain => chain.Sound ∧ chain.nodes = arena.nodes) :
    (Arena.onChain act).Ends arena fun _ _ arena' => kept arena' := by
  rw [Arena.onChain, Act.ends_zoom]
  refine acts.mono ?_
  rintro _ _ chain ⟨sound, nodes⟩
  exact keeps.moved now sound nodes

end Arena

namespace Workspace

variable {σ α : Type} {backing : Backing σ} {kept : Arena σ → Prop} {workspace : Workspace σ}

theorem onArena_ends {act : Act (Arena σ) α} (acts : act.Ends workspace.arena fun _ _ arena => kept arena)
    (answer : α → Answer) :
    (do return answer (← onArena act)).Ends workspace fun _ _ workspace' => kept workspace'.arena := by
  simp only [onArena, Act.ends_bind, Act.ends_zoom, Act.ends_pure]
  exact acts

theorem operate_ends (keeps : Arena.Keeps backing kept) (now : kept workspace.arena) (operation : Operation) :
    (operate backing operation).Ends workspace fun _ _ workspace' => kept workspace'.arena := by
  have sound := keeps.sound now
  have stays (block : Block) (newSize : Nat) : (Chain.resize block newSize).Ends workspace.arena.toChain
      fun _ _ chain => chain.Sound ∧ chain.nodes = workspace.arena.nodes :=
    (Chain.resize_cases sound block newSize).mono fun _ _ _ resizes => resizes.keeps sound
  cases operation with
  | alloc layout => exact onArena_ends (keeps.alloc layout now) .served
  | allocCopy bytes =>
    simp only [operate, onArena, Act.ends_bind, Act.ends_get, Act.ends_zoom]
    refine (keeps.allocCopy bytes workspace.memory now).mono ?_
    rintro (error | ⟨block, memory⟩) _ arena' after
    · exact (Act.ends_pure ..).mpr after
    · simp only [Act.ends_bind, Act.ends_modify, Act.ends_pure]
      exact after
  | resize block newSize => exact onArena_ends (keeps.onChain now (stays block newSize)) .flag
  | remap block newSize =>
    refine onArena_ends (keeps.onChain now ?_) .moved
    rw [Chain.remap_eq, Act.ends_map]
    exact stays block newSize
  | free block =>
    refine onArena_ends (keeps.onChain now ?_) fun _ => .done
    rw [Act.ends_congr (Chain.run_free sound block), Act.ends_map]
    exact stays block 0
  | reset retention => exact onArena_ends (keeps.reset retention now) .flag

theorem operateAll_ends (keeps : Arena.Keeps backing kept) (now : kept workspace.arena) (operations : List Operation) :
    (operateAll backing operations).Ends workspace fun _ _ workspace' => kept workspace'.arena := by
  induction operations generalizing workspace with
  | nil => exact (Act.ends_pure ..).mpr now
  | cons operation later ih =>
    rw [operateAll, Act.ends_bind]
    refine (operate_ends keeps now operation).mono ?_
    intro answer _ between after
    rw [Act.ends_bind]
    refine (ih after).mono ?_
    intro _ _ workspace' last
    exact (Act.ends_pure ..).mpr last

end Workspace
end BumpArena
