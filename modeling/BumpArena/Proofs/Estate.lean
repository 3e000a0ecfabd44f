import BumpArena.Proofs.Carving
import BumpArena.Proofs.Clearing
import BumpArena.Proofs.Ledger
import BumpArena.Proofs.Lending

/-!
The whole life of arenas over one backing: they are created, used, taken apart into chains, put together
again and dropped, in any order and with any blocks as arguments. A command that does not apply is skipped.
At every point exactly the nodes of the arena, or of the detached chain, are out, and besides them those of
chains that were abandoned. Which commands leave no arena and no chain can be told from what there is before
them (`Command.Closes`).
-/
namespace BumpArena

/-- What there is of an arena. -/
inductive Holding (σ : Type) where
  | vacant (source : σ)
  | running (arena : Arena σ)
  | detached (chain : Chain) (source : σ)

/-- The arena, or the one that could be made of what there is. -/
def Holding.asArena {σ : Type} : Holding σ → Arena σ
  | .vacant source => Arena.ofSource source
  | .running arena => arena
  | .detached chain source => chain.promote source

/-- What there is, the memory, and the nodes of chains that were abandoned. -/
structure Estate (σ : Type) where
  holding : Holding σ
  memory : Memory
  lost : List Node

/-- What an owner can do with an arena or with a chain. The blocks may be any. -/
inductive Command where
  | create (settings : Settings)
  | alloc (layout : Layout)
  | allocCopy (bytes : List UInt8)
  | resize (block : Block) (newSize : Nat)
  | remap (block : Block) (newSize : Nat)
  | free (block : Block)
  | reset (retention : Retention)
  | detach
  | promote
  | attach (settings : Settings)
  | deinit
  | drop
  | abandon
  deriving DecidableEq

/-- Whether a command was carried out. An arena that could not be made has failed. -/
inductive Reply where
  | done
  | failed
  | skipped
  deriving DecidableEq

/-- The command makes no arena of what there is: the settings ask for slow growth, or for a first node that is
    refused. -/
def Command.Fails {σ : Type} (backing : Backing σ) : Command → Holding σ → Prop
  | .create settings, .vacant source => settings.growthPercent < 100 ∨ settings.initialCapacity ≠ 0 ∧
      ∃ called source', Arena.AsksNode backing (some settings.initialCapacity) source none called source'
  | .attach settings, .detached _ _ => settings.growthPercent < 100
  | _, _ => False

/-- The command leaves no arena and no chain of what there is. -/
def Command.Closes {σ : Type} (backing : Backing σ) (command : Command) (holding : Holding σ) : Prop :=
  command.Fails backing holding ∨
    match command, holding with
    | .deinit, .running _ | .drop, .running _ | .abandon, .detached _ _ => True
    | _, _ => False

/-- The nodes that the command loses: those of a chain that it abandons. -/
def Command.loses {σ : Type} : Command → Holding σ → List Node
  | .abandon, .detached chain _ => chain.nodes
  | _, _ => []

@[simp] theorem Command.loses_vacant {σ : Type} (command : Command) (source : σ) :
    command.loses (.vacant source) = [] := by
  cases command <;> rfl

@[simp] theorem Command.loses_running {σ : Type} (command : Command) (arena : Arena σ) :
    command.loses (.running arena) = [] := by
  cases command <;> rfl

theorem Command.loses_of_ne {σ : Type} {command : Command} (other : command ≠ .abandon) (holding : Holding σ) :
    command.loses holding = [] := by
  cases command with
  | abandon => exact (other rfl).elim
  | create | alloc | allocCopy | resize | remap | free | reset | detach | promote | attach | deinit | drop => rfl

namespace Estate

variable {σ α : Type}

def ofSource (source : σ) : Estate σ := ⟨.vacant source, .zero, []⟩

def nodes (estate : Estate σ) : List Node := estate.holding.asArena.nodes

def source (estate : Estate σ) : σ := estate.holding.asArena.source

def visit (act : Act (Arena σ) α) : Act (Estate σ) α :=
  act.zoom (·.holding.asArena) fun estate arena => { estate with holding := .running arena }

/-- Ends the arena, which gives back what it has. -/
def drop (backing : Backing σ) : Act (Estate σ) Unit := do
  visit (Arena.releaseAll backing)
  modify fun estate => { estate with holding := .vacant estate.source }

/-- Makes an arena ready, and ends it if that fails. -/
def found (backing : Backing σ) (act : Act (Arena σ) (Except ArenaError Unit)) : Act (Estate σ) Reply := do
  match ← visit act with
  | .ok () => return .done
  | .error _ =>
    drop backing
    return .failed

/-- Carries a command out. The arena that a chain was taken out of is dropped without it. -/
def carryOut (backing : Backing σ) (command : Command) : Act (Estate σ) Reply := do
  match command, (← get).holding with
  | .create settings, .vacant _ => found backing (Arena.prepare backing settings)
  | .attach settings, .detached _ _ => found backing (Arena.adopt backing settings)
  | .promote, .detached chain source =>
    modify fun estate => { estate with holding := .running (chain.promote source) }
    return .done
  | .abandon, .detached chain source =>
    chain.abandon
    modify fun estate => { estate with holding := .vacant source, lost := chain.nodes ++ estate.lost }
    return .done
  | .alloc layout, .running _ =>
    let _ ← visit (Arena.alloc backing layout)
    return .done
  | .allocCopy bytes, .running _ =>
    match ← visit (Arena.allocCopy backing bytes (← get).memory) with
    | .ok (_, memory) =>
      modify fun estate => { estate with memory }
      return .done
    | .error _ => return .done
  | .resize block newSize, .running _ =>
    let _ ← visit (Arena.resize block newSize)
    return .done
  | .remap block newSize, .running _ =>
    let _ ← visit (Arena.remap block newSize)
    return .done
  | .free block, .running _ =>
    visit (Arena.free block)
    return .done
  | .reset retention, .running _ =>
    let _ ← visit (Arena.reset backing retention)
    return .done
  | .detach, .running arena =>
    let (chain, source) := arena.detach
    modify fun estate => { estate with holding := .running { Chain.empty with config := arena.config, source } }
    drop backing
    modify fun estate => { estate with holding := .detached chain estate.source }
    return .done
  | .deinit, .running _ =>
    visit (Arena.releaseAll backing)
    drop backing
    return .done
  | .drop, .running _ =>
    drop backing
    return .done
  | _, _ => return .skipped

def carryOutAll (backing : Backing σ) : List Command → Act (Estate σ) Unit
  | [] => pure ()
  | command :: later => do
    let _ ← carryOut backing command
    carryOutAll backing later

variable {backing : Backing σ} {Out : σ → List Grant → Prop} {estate : Estate σ}

/-- The relation of the grants of an arena to the backing when others are out as well. -/
def Beside (Out : σ → List Grant → Prop) (lost : List Node) (s : σ) (grants : List Grant) : Prop :=
  Out s (grants ++ lost.map Node.grant)

/-- Exactly the nodes of the arena and the lost ones are out. -/
def Sound (Out : σ → List Grant → Prop) (estate : Estate σ) : Prop :=
  estate.holding.asArena.Backed (Beside Out estate.lost)

theorem lendsNodes_beside (lends : backing.LendsNodes Out) (lost : List Node) :
    backing.LendsNodes (Beside Out lost) := lends.beside _

/-- What a command comes to. -/
structure Step (backing : Backing σ) (Out : σ → List Grant → Prop) (command : Command) (estate : Estate σ)
    (reply : Reply) (estate' : Estate σ) : Prop where
  sound : estate'.Sound Out
  failed_iff : reply = .failed ↔ command.Fails backing estate.holding
  closed : command.Closes backing estate.holding → ∃ source, estate'.holding = .vacant source
  lost : estate'.lost = command.loses estate.holding ++ estate.lost

/-- A dropped arena leaves out what is out besides its nodes. -/
theorem drop_ends (lends : backing.LendsNodes Out) (estate : Estate σ) (backed : estate.holding.asArena.Backed Out) :
    (drop backing).Ends estate fun _ _ estate' =>
      ∃ source, estate' = { estate with holding := .vacant source } ∧ Out source [] := by
  simp only [drop, visit, Act.ends_bind, Act.ends_zoom, Act.ends_modify]
  refine (Arena.releaseAll_ends lends backed.out).mono ?_
  rintro _ _ arena' ⟨_, _, out⟩
  exact ⟨arena'.source, rfl, out⟩

variable {command : Command}

/-- A command that makes an arena, or fails to. -/
theorem found_ends (lends : backing.LendsNodes Out) {act : Act (Arena σ) (Except ArenaError Unit)}
    (acts : act.Ends estate.holding.asArena fun answer _ arena' => arena'.Backed (Beside Out estate.lost) ∧
      ((∃ error, answer = .error error) ↔ command.Fails backing estate.holding))
    (makes : command.Closes backing estate.holding → command.Fails backing estate.holding)
    (keeps : command.loses estate.holding = []) :
    (found backing act).Ends estate fun reply _ estate' => Step backing Out command estate reply estate' := by
  have lost : estate.lost = command.loses estate.holding ++ estate.lost := by rw [keeps, List.nil_append]
  simp only [found, visit, Act.ends_bind, Act.ends_zoom]
  refine acts.mono ?_
  rintro (error | _) _ arena' ⟨backed, fails⟩
  · simp only [Act.ends_bind]
    refine (drop_ends (lendsNodes_beside lends estate.lost) { estate with holding := .running arena' } backed).mono ?_
    rintro _ _ estate' ⟨source, rfl, out⟩
    exact (Act.ends_pure ..).mpr ⟨.of_ofSource out, iff_of_true rfl (fails.mp ⟨_, rfl⟩), fun _ => ⟨_, rfl⟩, lost⟩
  · have ready : ¬ command.Fails backing estate.holding := by simp [← fails]
    exact (Act.ends_pure ..).mpr ⟨backed, by simp [ready], fun closes => (ready (makes closes)).elim, lost⟩

/-- A command that leaves an arena or a chain, or that is skipped. -/
theorem Step.of_stays {reply : Reply} {estate' : Estate σ} (sound : estate'.Sound Out)
    (stays : ¬ command.Closes backing estate.holding) (keeps : command.loses estate.holding = [])
    (ready : reply ≠ .failed) (lost : estate'.lost = estate.lost) : Step backing Out command estate reply estate' where
  sound := sound
  failed_iff := iff_of_false ready fun fails => stays (.inl fails)
  closed closes := (stays closes).elim
  lost := by rw [keeps, lost, List.nil_append]

theorem visit_ends {arena : Arena σ} (holding : estate.holding = .running arena) {act : Act (Arena σ) α}
    (acts : act.Ends arena fun _ _ arena' => arena'.Backed (Beside Out estate.lost))
    (stays : ¬ command.Closes backing (.running arena)) :
    (do let _ ← visit act; return Reply.done).Ends estate fun reply _ estate' =>
      Step backing Out command estate reply estate' := by
  have same : estate.holding.asArena = arena := by rw [holding]; rfl
  simp only [visit, Act.ends_bind, Act.ends_zoom, Act.ends_pure, same]
  refine acts.mono ?_
  intro _ _ arena' backed
  exact .of_stays backed (holding ▸ stays) (by simp [holding]) (by simp) rfl

/-- The blocks that a client names do not matter for the nodes. -/
theorem onChain_ends {act : Act Chain α} {arena : Arena σ} (backed : arena.Backed Out)
    (acts : act.Ends arena.toChain fun _ _ chain' => chain'.Sound ∧ chain'.nodes = arena.nodes) :
    (Arena.onChain act).Ends arena fun _ _ arena' => arena'.Backed Out := by
  rw [Arena.onChain, Act.ends_zoom]
  refine acts.mono ?_
  rintro _ _ chain' ⟨sound, nodes⟩
  exact ⟨nodes ▸ backed.out, sound.filled, sound.cursor_le⟩

theorem allocCopy_ends (lends : backing.LendsNodes Out) {arena : Arena σ} (backed : arena.Backed Out)
    (bytes : List UInt8) (memory : Memory) :
    (Arena.allocCopy backing bytes memory).Ends arena fun _ _ arena' => arena'.Backed Out := by
  rw [Arena.allocCopy]
  rcases Layout.ofSize? bytes.length .one with _ | layout
  · exact (Act.ends_pure ..).mpr backed
  · simp only [Act.ends_bind, Act.ends_pure]
    exact (Arena.alloc_ends lends backed layout).mono fun _ _ _ served => served.1

theorem running_ends (lends : backing.LendsNodes Out) (sound : estate.Sound Out) {arena : Arena σ}
    (holding : estate.holding = .running arena) (command : Command) :
    (carryOut backing command).Ends estate fun reply _ estate' => Step backing Out command estate reply estate' := by
  have lends' := lendsNodes_beside lends estate.lost
  have same : estate.holding.asArena = arena := by rw [holding]; rfl
  have backed : arena.Backed (Beside Out estate.lost) := same ▸ sound
  have chain := backed.sound lends'
  have keeps block newSize : (Chain.resize block newSize).Ends arena.toChain fun _ _ chain' =>
      chain'.Sound ∧ chain'.nodes = arena.nodes :=
    (Chain.resize_cases chain block newSize).mono fun _ _ _ resizes => resizes.keeps chain
  have unlost : estate.lost = command.loses estate.holding ++ estate.lost := by simp [holding]
  simp only [carryOut, Act.ends_bind, Act.ends_get, holding]
  cases command with
  | alloc layout =>
    refine visit_ends holding ?_ (by simp [Command.Closes, Command.Fails])
    exact (Arena.alloc_ends lends' backed layout).mono fun _ _ _ served => served.1
  | allocCopy bytes =>
    have stays : ¬ (Command.allocCopy bytes).Closes backing estate.holding := by simp [Command.Closes, Command.Fails]
    simp only [visit, Act.ends_bind, Act.ends_get, Act.ends_zoom, same]
    refine (allocCopy_ends lends' backed bytes estate.memory).mono ?_
    rintro (error | ⟨block, memory⟩) _ arena' backed'
    · exact (Act.ends_pure ..).mpr (.of_stays backed' stays (by simp [holding]) (by simp) rfl)
    · simp only [Act.ends_bind, Act.ends_modify, Act.ends_pure]
      exact .of_stays backed' stays (by simp [holding]) (by simp) rfl
  | resize block newSize =>
    exact visit_ends holding (onChain_ends backed (keeps block newSize)) (by simp [Command.Closes, Command.Fails])
  | remap block newSize =>
    refine visit_ends holding (onChain_ends backed ?_) (by simp [Command.Closes, Command.Fails])
    rw [Chain.remap_eq, Act.ends_map]
    exact keeps block newSize
  | free block =>
    refine visit_ends holding (onChain_ends backed ?_) (by simp [Command.Closes, Command.Fails])
    rw [Act.ends_congr (Chain.run_free chain block), Act.ends_map]
    exact keeps block 0
  | reset retention =>
    refine visit_ends holding ?_ (by simp [Command.Closes, Command.Fails])
    exact (Arena.reset_ends lends' backed retention).mono fun _ _ _ kept => kept.1
  | detach =>
    -- While the arena without its chain is dropped, the chain counts as one more that is lost.
    have apart := lendsNodes_beside lends (arena.nodes ++ estate.lost)
    have out : Beside Out (arena.nodes ++ estate.lost) arena.source [] := by
      rw [Beside, List.nil_append, List.map_append]
      exact backed.out
    let emptied : Arena σ := { Chain.empty with config := arena.config, source := arena.source }
    simp only [Arena.detach, Act.ends_bind, Act.ends_modify, Act.ends_pure]
    refine (drop_ends apart { estate with holding := .running emptied } (.of_empty out rfl)).mono ?_
    rintro _ _ estate' ⟨source, rfl, out⟩
    rw [Beside, List.nil_append, List.map_append] at out
    exact .of_stays ⟨out, backed.filled, backed.cursor_le⟩ (by simp [Command.Closes, Command.Fails])
      (by simp [holding]) (by simp) rfl
  | deinit =>
    simp only [visit, Act.ends_bind, Act.ends_zoom, same]
    refine (Arena.releaseAll_ends lends' backed.out).mono ?_
    rintro _ _ released ⟨chain, _, out⟩
    refine (drop_ends lends' { estate with holding := .running released } (.of_empty out chain)).mono ?_
    rintro _ _ estate' ⟨source, rfl, out⟩
    exact (Act.ends_pure ..).mpr
      ⟨.of_ofSource out, by simp [Command.Fails], fun _ => ⟨_, rfl⟩, unlost⟩
  | drop =>
    simp only [Act.ends_bind]
    refine (drop_ends lends' estate sound).mono ?_
    rintro _ _ estate' ⟨source, rfl, out⟩
    exact (Act.ends_pure ..).mpr
      ⟨.of_ofSource out, by simp [Command.Fails], fun _ => ⟨_, rfl⟩, unlost⟩
  | create | promote | attach | abandon =>
    exact (Act.ends_pure ..).mpr
      (.of_stays sound (by simp [holding, Command.Closes, Command.Fails]) (by simp [holding]) (by simp) rfl)

theorem vacant_ends (lends : backing.LendsNodes Out) (sound : estate.Sound Out) {source : σ}
    (holding : estate.holding = .vacant source) (command : Command) :
    (carryOut backing command).Ends estate fun reply _ estate' => Step backing Out command estate reply estate' := by
  simp only [carryOut, Act.ends_bind, Act.ends_get, holding]
  cases command with
  | create settings =>
    have same : estate.holding.asArena = Arena.ofSource source := by rw [holding]; rfl
    have out : Beside Out estate.lost source [] := by
      rw [Sound, same] at sound
      exact sound.out
    refine found_ends lends ?_ (by simp [holding, Command.Closes]) (by simp [holding])
    rw [same, holding]
    refine (Arena.prepare_begins (lendsNodes_beside lends _) out rfl settings).mono ?_
    rintro _ _ _ ⟨backed, begins⟩
    exact ⟨backed, begins.error_iff⟩
  | alloc | allocCopy | resize | remap | free | reset | detach | promote | attach | deinit | drop | abandon =>
    exact (Act.ends_pure ..).mpr
      (.of_stays sound (by simp [holding, Command.Closes, Command.Fails]) (by simp [holding]) (by simp) rfl)

theorem detached_ends (lends : backing.LendsNodes Out) (sound : estate.Sound Out) {chain : Chain} {source : σ}
    (holding : estate.holding = .detached chain source) (command : Command) :
    (carryOut backing command).Ends estate fun reply _ estate' => Step backing Out command estate reply estate' := by
  have same : estate.holding.asArena = chain.promote source := by rw [holding]; rfl
  have backed : (chain.promote source).Backed (Beside Out estate.lost) := same ▸ sound
  simp only [carryOut, Act.ends_bind, Act.ends_get, holding]
  cases command with
  | attach settings =>
    refine found_ends lends ?_ (by simp [holding, Command.Closes]) (Command.loses_of_ne (by simp) _)
    rw [same, holding]
    refine (Arena.adopt_ends (lendsNodes_beside lends _) backed settings).mono ?_
    rintro _ _ _ ⟨backed', fails, _⟩
    exact ⟨backed', fails⟩
  | promote =>
    simp only [Act.ends_bind, Act.ends_modify, Act.ends_pure]
    exact .of_stays backed (by simp [Command.Closes, Command.Fails]) (Command.loses_of_ne (by simp) _) (by simp) rfl
  | abandon =>
    have leaked : (chain.abandon : Act (Estate σ) Unit).Ends estate fun _ _ estate' => estate' = estate := by
      rw [Chain.abandon]
      split
      · simp
      · simp
    simp only [Act.ends_bind]
    refine leaked.mono ?_
    rintro _ _ estate' rfl
    simp only [Act.ends_modify, Act.ends_pure]
    refine ⟨.of_ofSource ?_, by simp [Command.Fails], fun _ => ⟨_, rfl⟩, by simp [holding, Command.loses]⟩
    rw [Beside, List.nil_append, List.map_append]
    exact backed.out
  | create | alloc | allocCopy | resize | remap | free | reset | detach | deinit | drop =>
    exact (Act.ends_pure ..).mpr (.of_stays sound (by simp [holding, Command.Closes, Command.Fails])
      (Command.loses_of_ne (by simp) _) (by simp) rfl)

/-- Every command ends, whatever the backing answers. -/
theorem carryOut_ends (lends : backing.LendsNodes Out) (sound : estate.Sound Out) (command : Command) :
    (carryOut backing command).Ends estate fun reply _ estate' => Step backing Out command estate reply estate' := by
  rcases holding : estate.holding with source | arena | ⟨chain, source⟩
  · exact vacant_ends lends sound holding command
  · exact running_ends lends sound holding command
  · exact detached_ends lends sound holding command

theorem carryOutAll_ends (lends : backing.LendsNodes Out) (sound : estate.Sound Out) (commands : List Command) :
    (carryOutAll backing commands).Ends estate fun _ _ estate' =>
      estate'.Sound Out ∧ (.abandon ∉ commands → estate'.lost = estate.lost) := by
  induction commands generalizing estate with
  | nil => exact (Act.ends_pure ..).mpr ⟨sound, fun _ => rfl⟩
  | cons command later ih =>
    rw [carryOutAll, Act.ends_bind]
    refine (carryOut_ends lends sound command).mono ?_
    intro _ _ between step
    refine (ih step.sound).mono ?_
    rintro _ _ estate' ⟨sound', lost⟩
    refine ⟨sound', ?_⟩
    intro never
    obtain ⟨first, rest⟩ := not_or.mp (List.mem_cons.not.mp never)
    rw [lost rest, step.lost, command.loses_of_ne (Ne.symm first), List.nil_append]

theorem Sound.ledger {ledgered : Estate (Ledger σ)} (sound : ledgered.Sound (Ledger.Lent Out)) :
    Ledger.Honest ledgered.source.calls ∧
      Ledger.outstanding ledgered.source.calls = ((ledgered.nodes ++ ledgered.lost).map Node.grant : List Grant) := by
  have lent := sound.out
  refine ⟨lent.honest, ?_⟩
  rw [List.map_append]
  exact lent.outstanding_eq

/-- A running arena that was reached by commands has its invariant, with the journal of all calls so far. -/
theorem reaches_backed (lends : backing.LendsNodes Out) {s : σ} (out : Out s []) (commands : List Command) :
    (carryOutAll (Ledger.backing backing) commands).Ends (ofSource ⟨s, []⟩) fun _ _ estate =>
      ∀ arena, estate.holding = .running arena → arena.Backed (Beside (Ledger.Lent Out) estate.lost) := by
  have start : (ofSource ⟨s, []⟩ : Estate (Ledger σ)).Sound (Ledger.Lent Out) := .of_ofSource (Ledger.lent_nil out)
  refine (carryOutAll_ends (Ledger.lendsNodes lends) start commands).mono ?_
  rintro _ _ estate ⟨sound, _⟩ arena holding
  rwa [Sound, holding] at sound

/-- No node is leaked, given back twice or described wrongly. In every run of commands over any backing, each
    call for a node describes it as it is then, and after each command exactly the nodes of the arena or of its
    chain are out, besides those of chains that were abandoned. A command fails exactly if its settings ask for
    slow growth or for a first node that is refused. After such a command, after the end of an arena and after a
    chain was abandoned there is neither arena nor chain, and only what is lost is out. The nodes of a chain that is
    abandoned are lost, and no others ever are. -/
theorem nothing_leaks (lends : backing.LendsNodes Out) {s : σ} (out : Out s []) (commands : List Command) :
    (carryOutAll (Ledger.backing backing) commands).Ends (ofSource ⟨s, []⟩) fun _ _ estate =>
      Ledger.Honest estate.source.calls ∧
      Ledger.outstanding estate.source.calls = ((estate.nodes ++ estate.lost).map Node.grant : List Grant) ∧
      (.abandon ∉ commands → estate.lost = []) ∧
      ∀ command, (carryOut (Ledger.backing backing) command).Ends estate fun reply _ estate' =>
        (reply = .failed ↔ command.Fails (Ledger.backing backing) estate.holding) ∧
        (command.Closes (Ledger.backing backing) estate.holding →
          (∃ source, estate'.holding = .vacant source) ∧
          Ledger.outstanding estate'.source.calls = (estate'.lost.map Node.grant : List Grant)) ∧
        estate'.lost = command.loses estate.holding ++ estate.lost := by
  have lends' := Ledger.lendsNodes lends
  have start : (ofSource ⟨s, []⟩ : Estate (Ledger σ)).Sound (Ledger.Lent Out) := .of_ofSource (Ledger.lent_nil out)
  refine (carryOutAll_ends lends' start commands).mono ?_
  rintro _ _ estate ⟨sound, lost⟩
  obtain ⟨honest, outstanding⟩ := sound.ledger
  refine ⟨honest, outstanding, lost, ?_⟩
  intro command
  refine (carryOut_ends lends' sound command).mono ?_
  intro reply _ estate' step
  refine ⟨step.failed_iff, ?_, step.lost⟩
  intro closes
  obtain ⟨source, vacant⟩ := step.closed closes
  have none : estate'.nodes = [] := by rw [nodes, vacant]; rfl
  refine ⟨⟨source, vacant⟩, ?_⟩
  rw [step.sound.ledger.2, none, List.nil_append]

/-- In a region the head of an arena grows in place. The chain is then given to an arena with bad settings. -/
theorem region_nothing_leaks :
    Region.backing.LendsNodes Region.Lent ∧ (Region.ofRange 4096 1024).Lent [] ∧
      ∃ trace estate,
        (carryOutAll (Ledger.backing Region.backing)
            [.create (.withInitialCapacity 64), .alloc ⟨40, .one, by decide⟩, .alloc ⟨200, .one, by decide⟩,
              .detach]).run (ofSource ⟨Region.ofRange 4096 1024, []⟩) = ⟨.ok (), trace, estate⟩ ∧
        estate.nodes.map Node.block = [⟨4096, 240⟩] ∧
        Ledger.outstanding estate.source.calls = (estate.nodes.map Node.grant : List Grant) ∧
        (carryOut (Ledger.backing Region.backing) (.attach ⟨0, 50, 0⟩)).Ends estate fun reply _ estate' =>
          reply = .failed ∧ estate'.nodes = [] ∧ Ledger.outstanding estate'.source.calls = 0 := by
  have lends := Region.contract.lendsNodes
  have out : (Region.ofRange 4096 1024).Lent [] := Region.lent_ofRange (by decide)
  obtain ⟨trace, estate, ran, nodes, chain, source, holding⟩ : ∃ trace estate,
      (carryOutAll (Ledger.backing Region.backing)
          [.create (.withInitialCapacity 64), .alloc ⟨40, .one, by decide⟩, .alloc ⟨200, .one, by decide⟩,
            .detach]).run (ofSource ⟨Region.ofRange 4096 1024, []⟩) = ⟨.ok (), trace, estate⟩ ∧
      estate.nodes.map Node.block = [⟨4096, 240⟩] ∧ ∃ chain source, estate.holding = .detached chain source :=
    ⟨_, _, rfl, rfl, _, _, rfl⟩
  obtain ⟨_, outstanding, lost, step⟩ := (nothing_leaks lends out _).of_run ran
  specialize lost (by decide)
  rw [lost, List.append_nil] at outstanding
  refine ⟨lends, out, trace, estate, ran, nodes, outstanding, (step (.attach ⟨0, 50, 0⟩)).mono ?_⟩
  rintro reply _ estate' ⟨failed, closed, lost'⟩
  have fails : (Command.attach ⟨0, 50, 0⟩).Fails (Ledger.backing Region.backing) estate.holding := by
    rw [holding]
    show 50 < 100
    decide
  obtain ⟨⟨source, vacant⟩, outstanding'⟩ := closed (.inl fails)
  rw [Command.loses_of_ne (by decide), lost, List.nil_append] at lost'
  refine ⟨failed.mpr fails, ?_, ?_⟩
  · rw [Estate.nodes, vacant]
    rfl
  · rw [outstanding', lost']
    rfl

end Estate
end BumpArena
