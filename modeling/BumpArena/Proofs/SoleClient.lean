import BumpArena.Proofs.Clearing
import BumpArena.Proofs.Filling
import BumpArena.Proofs.Ledger
import BumpArena.Proofs.Operations

/-!
An arena that has a region to itself. Its chain never has more than one node, which lies at the base of the region and
is the only live block there (`Arena.Sole`). If the head cannot get the length that a request needs, then the fresh node
that is asked for next is longer than the region. So the arena serves exactly the requests that fit into the region
behind the cursor (`Arena.Bumps`). Its head only grows while it serves, so what it has served it can serve again from
the same cursor without the region (`Arena.Served.again`).
-/
namespace BumpArena

namespace Arena

/-- The region with a journal. -/
abbrev regionBacking : Backing (Ledger Region) := Ledger.backing Region.backing

/-- The arena after other calls were entered in the journal of its backing. -/
def called {σ : Type} (arena : Arena (Ledger σ)) (calls : List Call) : Arena (Ledger σ) :=
  { arena with source := ⟨arena.source.inner, calls⟩ }

/-- The invariant of an arena that is alone in a region. -/
inductive Sole (base capacity : Nat) : Arena (Ledger Region) → Prop where
  | vacant (config : Config) (calls : List Call) :
    Sole base capacity ⟨.empty, config, ⟨Region.filledTo base capacity 0, calls⟩⟩
  | seated {node : Node} {cursor : Nat} (config : Config) (calls : List Call) (based : node.base = base)
    (filled : 0 < node.len) (within : node.len ≤ capacity) (below : cursor ≤ node.len) :
    Sole base capacity ⟨⟨[node], cursor⟩, config, ⟨Region.filledTo base capacity node.len, calls⟩⟩

variable {base capacity : Nat} {arena : Arena (Ledger Region)}

theorem Sole.called (sole : Sole base capacity arena) (calls : List Call) :
    Sole base capacity (arena.called calls) := by
  cases sole with
  | vacant config => exact .vacant config calls
  | seated config _ based filled within below => exact .seated config calls based filled within below

theorem Sole.sound (sole : Sole base capacity arena) (placed : Region.Placed base capacity) : arena.toChain.Sound := by
  cases sole with
  | vacant => exact Chain.sound_empty
  | @seated node cursor config calls based filled within below =>
    have low := placed.below
    refine ⟨List.pairwise_singleton .., ?_, by simpa using filled, below⟩
    simp only [List.mem_singleton, forall_eq, Block.finish, Node.block]
    omega

theorem Sole.of_single (sole : Sole base capacity arena) {node : Node} (single : arena.nodes = [node]) :
    node.base = base ∧ 0 < node.len ∧ node.len ≤ capacity ∧ arena.cursor ≤ node.len := by
  cases sole with
  | vacant => contradiction
  | seated config calls based filled within below =>
    injection single with same
    subst same
    exact ⟨based, filled, within, below⟩

theorem Sole.cursor_eq (sole : Sole base capacity arena) (none : arena.nodes = []) : arena.cursor = 0 := by
  cases sole with
  | vacant => rfl
  | seated => contradiction

theorem Sole.exists_of_headLength (sole : Sole base capacity arena) (filled : 0 < arena.headLength) :
    ∃ node, arena.nodes = [node] ∧ arena.headLength = node.len := by
  cases sole with
  | vacant => contradiction
  | @seated node => exact ⟨node, rfl, rfl⟩

/-! ### What the region answers -/

/-- A node that is longer than the region is refused. -/
theorem Sole.allocateNode_of_long (sole : Sole base capacity arena) {length : Nat} (long : capacity < length) :
    (allocateNode regionBacking length).Ends arena fun node? _ arena' =>
      node? = none ∧ ∃ calls, arena' = arena.called calls := by
  unfold allocateNode
  rcases sized : Layout.ofSize? length nodeAlignment with _ | layout
  · exact (Act.ends_pure ..).mpr ⟨rfl, arena.source.calls, rfl⟩
  obtain ⟨rfl, _⟩ := Layout.ofSize?_eq_some_iff.mp sized
  have refused : (Region.backing.allocate layout).run arena.source.inner =
      ⟨.ok (.error (.ofLayout layout)), [], arena.source.inner⟩ := by
    cases sole with
    | vacant => exact Region.run_allocate_of_long (Region.tiled_filledTo (Nat.zero_le _)) long
    | seated _ _ _ _ within => exact Region.run_allocate_of_long (Region.tiled_filledTo within) long
  obtain ⟨call, ran⟩ := Ledger.exists_run_allocate arena.source.calls refused
  simp only [onSource, Act.ends_bind, Act.ends_zoom]
  rw [Act.ends_iff_of_run ran]
  simp only [Act.ends_bind, Act.ends_log, Act.ends_pure]
  exact ⟨trivial, _, rfl⟩

/-- A node that is not longer is granted while the region is empty, and lies at its base. -/
theorem allocateNode_of_vacant (placed : Region.Placed base capacity) {chain : Chain} {config : Config}
    {calls : List Call} {length : Nat} (filled : 0 < length) (short : length ≤ capacity) :
    (allocateNode regionBacking length).Ends ⟨chain, config, ⟨Region.filledTo base capacity 0, calls⟩⟩
      fun node? _ arena' => ∃ node calls', node? = some node ∧ node.base = base ∧ node.len = length ∧
        arena' = ⟨chain, config, ⟨Region.filledTo base capacity length, calls'⟩⟩ := by
  obtain ⟨room, sized⟩ := placed.exists_layout short
  have granted : (Region.backing.allocate ⟨length, nodeAlignment, room⟩).run (Region.filledTo base capacity 0) =
      ⟨.ok (.ok ⟨base, length⟩), [], Region.filledTo base capacity length⟩ :=
    Region.run_allocate_of_empty placed rfl filled short
  obtain ⟨call, ran⟩ := Ledger.exists_run_allocate calls granted
  simp only [allocateNode, sized, onSource, Act.ends_bind, Act.ends_zoom]
  rw [Act.ends_iff_of_run ran]
  simp only [Act.ends_bind, Node.ofLength, room, ↓reduceDIte, Act.ends_lift_ok, Act.ends_pure]
  exact ⟨_, _, rfl, rfl, rfl, rfl⟩

theorem Sole.linkNode_of_long (sole : Sole base capacity arena) {previous footprint : Nat}
    (long : ∀ length, arena.config.nodeLength? previous footprint = some length → capacity < length) :
    (linkNode regionBacking previous footprint).Ends arena fun linked _ arena' =>
      linked = false ∧ ∃ calls, arena' = arena.called calls := by
  simp only [linkNode, Act.ends_bind, Act.ends_get]
  rcases sized : arena.config.nodeLength? previous footprint with _ | length
  · exact (Act.ends_pure ..).mpr ⟨rfl, arena.source.calls, rfl⟩
  simp only [Act.ends_bind]
  refine (sole.allocateNode_of_long (long length sized)).mono ?_
  rintro _ _ arena' ⟨rfl, calls, rfl⟩
  exact (Act.ends_pure ..).mpr ⟨rfl, calls, rfl⟩

section

variable {node : Node} {cursor : Nat} {config : Config} {calls : List Call} {newLength : Nat}

/-- The head gets any length that the region has bytes for. -/
theorem resizeHead_of_short (filled : 0 < node.len) (within : node.len ≤ capacity)
    (placed : Region.Placed node.base capacity) (filled' : 0 < newLength) (short : newLength ≤ capacity) :
    (resizeHead regionBacking newLength).Ends
      ⟨⟨[node], cursor⟩, config, ⟨Region.filledTo node.base capacity node.len, calls⟩⟩ fun granted _ arena' =>
        granted = true ∧ ∃ longer calls', longer.base = node.base ∧ longer.len = newLength ∧
          arena' = ⟨⟨[longer], cursor⟩, config, ⟨Region.filledTo node.base capacity newLength, calls'⟩⟩ := by
  obtain ⟨room, sized⟩ := placed.exists_layout short
  have resized := Region.run_resize_filledTo node.base filled within (rfl : node.layout.size = node.len) filled'
  rw [if_pos short] at resized
  obtain ⟨call, ran⟩ := Ledger.exists_run_resizeInPlace calls resized
  simp only [resizeHead, Act.ends_bind, Act.ends_get, sized, Option.isNone_some, Bool.false_eq_true, ↓reduceIte,
    onSource, Act.ends_zoom]
  rw [Act.ends_iff_of_run ran]
  simp only [↓reduceIte, Act.ends_bind, Act.ends_log, Node.ofLength, room, ↓reduceDIte, Act.ends_lift_ok,
    Act.ends_modify, Act.ends_pure]
  exact ⟨trivial, ⟨node.base, newLength, room⟩, call :: calls, rfl, rfl, rfl⟩

theorem resizeHead_of_long (filled : 0 < node.len) (within : node.len ≤ capacity) (long : capacity < newLength) :
    (resizeHead regionBacking newLength).Ends
      ⟨⟨[node], cursor⟩, config, ⟨Region.filledTo node.base capacity node.len, calls⟩⟩ fun granted _ arena' =>
        granted = false ∧ ∃ calls', arena' =
          ⟨⟨[node], cursor⟩, config, ⟨Region.filledTo node.base capacity node.len, calls'⟩⟩ := by
  simp only [resizeHead, Act.ends_bind, Act.ends_get]
  rcases sized : Layout.ofSize? newLength nodeAlignment with _ | layout
  · simp only [Option.isNone_none, ↓reduceIte, Act.ends_pure]
    exact ⟨trivial, calls, rfl⟩
  · have resized := Region.run_resize_filledTo node.base filled within (rfl : node.layout.size = node.len)
      (Nat.zero_lt_of_lt long)
    rw [if_neg (Nat.not_le_of_lt long)] at resized
    obtain ⟨call, ran⟩ := Ledger.exists_run_resizeInPlace calls resized
    simp only [Option.isNone_some, Bool.false_eq_true, ↓reduceIte, onSource, Act.ends_bind, Act.ends_zoom]
    rw [Act.ends_iff_of_run ran]
    simp only [Bool.false_eq_true, ↓reduceIte, Act.ends_pure]
    exact ⟨trivial, call :: calls, rfl⟩

end

/-! ### Requests -/

variable {layout : Layout}

/-- The region has room for a request, behind the cursor of the one node or for a first node. -/
def Room (capacity : Nat) (layout : Layout) (arena : Arena (Ledger Region)) : Prop :=
  match arena.nodes with
  | [] => ∃ length, arena.config.nodeLength? 0 layout.footprint = some length ∧ length ≤ capacity
  | node :: _ => node.start arena.cursor layout.align + layout.size ≤ capacity

theorem Sole.run_alloc_of_fits (sole : Sole base capacity arena) (placed : Region.Placed base capacity) {node : Node}
    (single : arena.nodes = [node]) (fits : node.Fits arena.cursor layout) (rounds : Nat) :
    (allocWithin regionBacking layout (rounds + 1)).run arena =
        ⟨.ok (.ok (node.carving arena.cursor layout)), [],
          { arena with cursor := node.start arena.cursor layout.align + layout.size }⟩ ∧
      Sole base capacity { arena with cursor := node.start arena.cursor layout.align + layout.size } := by
  refine ⟨run_allocWithin_of_fits (sole.sound placed) single fits rounds, ?_⟩
  cases sole with
  | vacant => contradiction
  | seated config calls based filled within below =>
    injection single with same
    subst same
    exact .seated config calls based filled within fits

/-- What a served request comes to. -/
structure Served (base capacity : Nat) (layout : Layout) (arena : Arena (Ledger Region))
    (answer : Except ArenaError Block) (arena' : Arena (Ledger Region)) : Prop where
  sole : Sole base capacity arena'
  config : arena'.config = arena.config
  longer : arena.headLength ≤ arena'.headLength
  carved : ∃ node, arena'.nodes = [node] ∧ answer = .ok (node.carving arena.cursor layout) ∧
    arena'.cursor = node.start arena.cursor layout.align + layout.size

section

variable {node : Node} {cursor : Nat} {config : Config} {calls : List Call}

/-- The first node has room for the request that it was sized for. -/
private theorem alloc_of_vacant (placed : Region.Placed base capacity) {length : Nat}
    (sized : config.nodeLength? 0 layout.footprint = some length) (short : length ≤ capacity) :
    (allocWithin regionBacking layout 2).Ends ⟨.empty, config, ⟨Region.filledTo base capacity 0, calls⟩⟩
      fun answer _ arena' =>
        Served base capacity layout ⟨.empty, config, ⟨Region.filledTo base capacity 0, calls⟩⟩ answer arena' := by
  have long : layout.footprint ≤ length := by
    have := Config.le_of_nodeLength? sized
    omega
  have filled : 0 < length :=
    Nat.lt_of_lt_of_le (Nat.lt_of_lt_of_le layout.align.bytes_pos (Nat.le_add_left ..)) long
  rw [allocWithin, Act.ends_bind]
  simp only [round, linkNode, Act.ends_bind, Act.ends_get, Chain.empty, sized]
  refine (allocateNode_of_vacant placed filled short).mono ?_
  rintro _ _ _ ⟨node, calls', rfl, based, rfl, rfl⟩
  simp only [Act.ends_bind, Act.ends_modify, Act.ends_get, Act.ends_log, Act.ends_pure, ↓reduceIte]
  have seated : Sole base capacity ⟨⟨[node], 0⟩, config, ⟨Region.filledTo base capacity node.len, calls'⟩⟩ :=
    .seated config calls' based filled short (Nat.zero_le _)
  obtain ⟨ran, sole'⟩ := seated.run_alloc_of_fits placed rfl (Node.fits_of_footprint_le long) 0
  exact (Act.ends_iff_of_run ran).mpr ⟨sole', rfl, Nat.zero_le _, node, rfl, rfl, rfl⟩

/-- The head grows up to the end of the block. -/
private theorem alloc_of_full (placed : Region.Placed node.base capacity) (filled : 0 < node.len)
    (within : node.len ≤ capacity) (below : cursor ≤ node.len) (full : ¬ node.Fits cursor layout)
    (room : node.start cursor layout.align + layout.size ≤ capacity) :
    (allocWithin regionBacking layout 2).Ends
      ⟨⟨[node], cursor⟩, config, ⟨Region.filledTo node.base capacity node.len, calls⟩⟩ fun answer _ arena' =>
        Served node.base capacity layout
          ⟨⟨[node], cursor⟩, config, ⟨Region.filledTo node.base capacity node.len, calls⟩⟩ answer arena' := by
  have low := placed.below
  rw [Node.Fits] at full
  rw [allocWithin, Act.ends_bind]
  simp only [round, Act.ends_bind, Act.ends_get, Node.place_eq layout (show node.base + cursor < _ by omega),
    Act.ends_lift_ok]
  rw [if_pos (by omega)]
  simp only [full, ↓reduceIte]
  rw [Act.ends_bind]
  refine (resizeHead_of_short filled within placed (by omega) room).mono ?_
  rintro _ _ _ ⟨rfl, longer, calls', base, len, rfl⟩
  simp only [↓reduceIte, Act.ends_pure]
  have start : longer.start cursor layout.align = node.start cursor layout.align := by
    rw [Node.start, Node.start, base]
  have grown : Sole node.base capacity
      ⟨⟨[longer], cursor⟩, config, ⟨Region.filledTo node.base capacity longer.len, calls'⟩⟩ :=
    .seated config calls' base (by omega) (by omega) (by omega)
  have fits : longer.Fits cursor layout := by rw [Node.Fits, start, len]
  rw [← len]
  obtain ⟨ran, sole'⟩ := grown.run_alloc_of_fits placed rfl fits 0
  refine (Act.ends_iff_of_run ran).mpr ⟨sole', rfl, ?_, longer, rfl, rfl, rfl⟩
  show node.len ≤ longer.len
  omega

/-- The fresh node would cover the head and the request with any padding, which is more than the region has. -/
private theorem fresh_too_long {length : Nat} (below : cursor ≤ node.len)
    (room : ¬ node.start cursor layout.align + layout.size ≤ capacity)
    (sized : config.nodeLength? node.len layout.footprint = some length) : capacity < length := by
  have covered := Config.le_of_nodeLength? sized
  have padding := node.start_lt cursor layout.align
  rw [Layout.footprint] at covered
  omega

end

/-- A request that the region has room for is served. -/
theorem Sole.alloc_of_room (sole : Sole base capacity arena) (placed : Region.Placed base capacity)
    (room : arena.Room capacity layout) :
    (alloc regionBacking layout).Ends arena fun answer _ arena' => Served base capacity layout arena answer arena' := by
  cases sole with
  | vacant =>
    obtain ⟨length, sized, short⟩ := room
    exact alloc_of_vacant placed sized short
  | @seated node cursor config calls based filled within below =>
    by_cases fits : node.Fits cursor layout
    · have seated := Sole.seated config calls based filled within below
      obtain ⟨ran, sole'⟩ := seated.run_alloc_of_fits placed rfl fits 1
      exact (Act.ends_iff_of_run ran).mpr ⟨sole', rfl, Nat.le_refl _, node, rfl, rfl, rfl⟩
    · subst based
      exact alloc_of_full placed filled within below fits room

/-- A request that the region has no room for is refused, and changes nothing. -/
theorem Sole.alloc_of_not_room (sole : Sole base capacity arena) (placed : Region.Placed base capacity)
    (room : ¬ arena.Room capacity layout) :
    (alloc regionBacking layout).Ends arena fun answer _ arena' =>
      answer = .error (.outOfMemory layout.size layout.align.bytes) ∧ ∃ calls, arena' = arena.called calls := by
  rw [alloc, allocWithin, Act.ends_bind]
  cases sole with
  | vacant config calls =>
    have long : ∀ length, config.nodeLength? 0 layout.footprint = some length → capacity < length := by
      intro length sized
      by_contra short
      exact room ⟨length, sized, Nat.le_of_not_lt short⟩
    simp only [round, Act.ends_bind, Act.ends_get, Chain.empty]
    refine (Sole.linkNode_of_long (.vacant config calls) long).mono ?_
    rintro _ _ _ ⟨rfl, calls', rfl⟩
    simp only [Bool.false_eq_true, ↓reduceIte, Act.ends_pure]
    exact ⟨trivial, calls', rfl⟩
  | @seated node cursor config calls based filled within below =>
    subst based
    have low := placed.below
    have finish : ¬ node.start cursor layout.align + layout.size ≤ capacity := room
    simp only [round, Act.ends_bind, Act.ends_get, Node.place_eq layout (show node.base + cursor < _ by omega),
      Act.ends_lift_ok]
    split
    · simp only [Act.ends_pure]
      exact ⟨trivial, calls, rfl⟩
    next place found =>
    obtain rfl : place = ⟨node.start cursor layout.align, node.start cursor layout.align + layout.size⟩ := by
      split at found <;> simp_all
    have full : ¬ node.start cursor layout.align + layout.size ≤ node.len := by omega
    simp only [full, ↓reduceIte]
    rw [Act.ends_bind]
    refine (resizeHead_of_long filled within (Nat.lt_of_not_le finish)).mono ?_
    rintro _ _ _ ⟨rfl, calls', rfl⟩
    have long : ∀ length, config.nodeLength? node.len layout.footprint = some length → capacity < length :=
      fun length sized => fresh_too_long below finish sized
    simp only [Bool.false_eq_true, ↓reduceIte]
    rw [Act.ends_bind]
    refine (Sole.linkNode_of_long (.seated config calls' rfl filled within below) long).mono ?_
    rintro _ _ _ ⟨rfl, calls'', rfl⟩
    simp only [Bool.false_eq_true, ↓reduceIte, Act.ends_pure]
    exact ⟨trivial, calls'', rfl⟩

/-! ### Resets -/

theorem Sole.reset_ends (sole : Sole base capacity arena) (placed : Region.Placed base capacity)
    (retention : Retention) :
    (reset regionBacking retention).Ends arena fun kept _ arena' =>
      kept = true ∧ Sole base capacity arena' ∧ arena'.config = arena.config ∧ arena'.cursor = 0 ∧
      (retention = .capacity → arena'.nodes = arena.nodes ∧ arena'.source = arena.source) := by
  cases sole with
  | vacant config calls =>
    have none : retention.target 0 = 0 := by cases retention <;> simp [Retention.target]
    simp only [reset, releaseAll, releaseDownTo, releaseNodes, Chain.empty, Word.sum, List.map_nil, none, Act.ends_bind,
      Act.ends_get, Act.ends_lift_ok, ↓reduceIte, Act.ends_pure, Act.ends_modify, Act.ends_log]
    exact ⟨trivial, .vacant config calls, trivial, trivial, fun _ => ⟨trivial, trivial⟩⟩
  | @seated node cursor config calls based filled within below =>
    subst based
    have low := placed.below
    have total : Word.sum [node.len] = .ok node.len := Word.sum_of_lt (by simp; omega)
    have target_le : retention.target node.len ≤ node.len := by cases retention <;> simp [Retention.target]
    have whole (all : retention = .capacity) : retention.target node.len = node.len := by rw [all]; rfl
    simp only [reset, List.map_cons, List.map_nil, total, Act.ends_bind, Act.ends_get, Act.ends_lift_ok]
    by_cases none : retention.target node.len = 0
    · obtain ⟨call, ran⟩ := Ledger.exists_run_release calls
        (Region.run_release_filledTo node.base filled within (rfl : node.layout.size = node.len))
      simp only [none, ↓reduceIte, releaseAll, releaseDownTo, releaseNodes, releaseNode, onSource, Act.ends_bind,
        Act.ends_get, Act.ends_modify, Act.ends_zoom, List.length_nil, Nat.lt_irrefl]
      rw [Act.ends_iff_of_run ran]
      simp only [Act.ends_pure, Act.ends_log]
      refine ⟨trivial, .vacant config _, trivial, trivial, ?_⟩
      intro all
      have := whole all
      omega
    simp only [none, ↓reduceIte, releaseDownTo, releaseNodes, List.length_nil, Nat.zero_lt_one, Act.ends_bind,
      Act.ends_get, Act.ends_modify, Act.ends_pure]
    by_cases same : node.len = retention.target node.len
    · simp only [← same, ↓reduceIte, Act.ends_bind, Act.ends_log, Act.ends_pure]
      have kept := Sole.seated config calls rfl filled within (Nat.zero_le _)
      exact ⟨trivial, kept, trivial, trivial, fun _ => ⟨trivial, trivial⟩⟩
    · simp only [same, ↓reduceIte, Act.ends_bind]
      refine (resizeHead_of_short filled within placed (Nat.pos_of_ne_zero none) (by omega)).mono ?_
      rintro _ _ _ ⟨rfl, shorter, calls', base, len, rfl⟩
      simp only [↓reduceIte, Act.ends_bind, Act.ends_log, Act.ends_pure]
      rw [← len]
      refine ⟨trivial, .seated config calls' base (by omega) (by omega) (Nat.zero_le _), trivial, trivial, ?_⟩
      intro all
      exact (same (whole all).symm).elim

/-! ### Filling the arena -/

/-- Serves requests one after the other. The answer is the list of the blocks, if all were served. -/
def allocEach {σ : Type} (backing : Backing σ) : List Layout → Act (Arena σ) (Option (List Block))
  | [] => return some []
  | layout :: later => do
    match ← alloc backing layout with
    | .ok block => return (← allocEach backing later).map (block :: ·)
    | .error _ => return none

/-- A request that was served is served in the same way, and without the region, by an arena with the same cursor
    whose head is as long as the one that it was served from. -/
theorem Served.again {served other : Arena (Ledger Region)} {block : Block}
    (first : Served base capacity layout arena (.ok block) served) (placed : Region.Placed base capacity)
    (sole : Sole base capacity other) (cursor : other.cursor = arena.cursor)
    (long : served.headLength ≤ other.headLength) :
    ∃ other', (alloc regionBacking layout).run other = ⟨.ok (.ok block), [], other'⟩ ∧ Sole base capacity other' ∧
      other'.cursor = served.cursor ∧ other'.headLength = other.headLength ∧ other'.source = other.source := by
  obtain ⟨node, single, answer, finish⟩ := first.carved
  obtain ⟨based, filled, _, below⟩ := first.sole.of_single single
  have length : served.headLength = node.len := by rw [Chain.headLength, single]
  obtain ⟨node', single', length'⟩ := sole.exists_of_headLength (by omega)
  have base_eq : node'.base = node.base := (sole.of_single single').1.trans based.symm
  have start : node'.start other.cursor layout.align = node.start arena.cursor layout.align := by
    rw [Node.start, Node.start, base_eq, cursor]
  have fits : node'.Fits other.cursor layout := by
    rw [Node.Fits, start]
    omega
  obtain ⟨ran, sole'⟩ := sole.run_alloc_of_fits placed single' fits 1
  rw [Node.carving, start, base_eq] at ran
  injection answer with answer
  subst answer
  refine ⟨_, ran, start ▸ sole', finish.symm, rfl, rfl⟩

/-- Requests that were all served fit into the head as it is then, so an arena that has such a head and the same
    cursor serves them in the same way, and without the region. -/
theorem Sole.allocEach_ends (sole : Sole base capacity arena) (placed : Region.Placed base capacity)
    (requests : List Layout) :
    (allocEach regionBacking requests).Ends arena fun blocks? _ filled =>
      Sole base capacity filled ∧ arena.headLength ≤ filled.headLength ∧
      ∀ blocks, blocks? = some blocks → ∀ other, Sole base capacity other → other.cursor = arena.cursor →
        filled.headLength ≤ other.headLength →
        (allocEach regionBacking requests).Ends other fun again _ refilled =>
          again = some blocks ∧ refilled.source = other.source := by
  induction requests generalizing arena with
  | nil =>
    refine (Act.ends_pure ..).mpr ⟨sole, Nat.le_refl _, ?_⟩
    intro blocks served other _ _ _
    exact (Act.ends_pure ..).mpr ⟨served, rfl⟩
  | cons layout later ih =>
    rw [allocEach, Act.ends_bind]
    by_cases room : arena.Room capacity layout
    · refine (sole.alloc_of_room placed room).mono ?_
      rintro answer _ between first
      obtain ⟨node, _, rfl, _⟩ := first.carved
      simp only [Act.ends_bind]
      refine (ih first.sole).mono ?_
      rintro blocks? _ filled ⟨sole', longer, again⟩
      simp only [Act.ends_pure]
      refine ⟨sole', Nat.le_trans first.longer longer, ?_⟩
      intro blocks served other soleOther cursor long
      obtain ⟨rest, rfl, rfl⟩ := Option.map_eq_some_iff.mp served
      obtain ⟨other', ran, soleOther', cursor', length, source⟩ :=
        first.again placed soleOther cursor (Nat.le_trans longer long)
      rw [Act.ends_iff_of_run ran]
      simp only [Act.ends_bind]
      refine (again rest rfl other' soleOther' cursor' (length.symm ▸ long)).mono ?_
      rintro _ _ refilled ⟨rfl, source'⟩
      exact (Act.ends_pure ..).mpr ⟨rfl, source'.trans source⟩
    · refine (sole.alloc_of_not_room placed room).mono ?_
      rintro _ _ _ ⟨rfl, calls, rfl⟩
      refine (Act.ends_pure ..).mpr ⟨sole.called calls, Nat.le_refl _, ?_⟩
      simp

/-! ### The arena as a bump allocator -/

theorem Sole.keeps (placed : Region.Placed base capacity) (config : Config) :
    Keeps regionBacking fun arena => Sole base capacity arena ∧ arena.config = config where
  sound now := now.1.sound placed
  alloc {arena} layout := by
    rintro ⟨sole, rfl⟩
    by_cases room : arena.Room capacity layout
    · refine (sole.alloc_of_room placed room).mono ?_
      rintro _ _ arena' served
      exact ⟨served.sole, served.config⟩
    · refine (sole.alloc_of_not_room placed room).mono ?_
      rintro _ _ _ ⟨_, calls, rfl⟩
      exact ⟨sole.called calls, rfl⟩
  reset retention := by
    rintro ⟨sole, rfl⟩
    refine (sole.reset_ends placed retention).mono ?_
    rintro _ _ arena' ⟨_, sole', config, _⟩
    exact ⟨sole', config⟩
  moved := by
    rintro _ ⟨nodes, cursor⟩ ⟨sole, same⟩ sound listed
    refine ⟨?_, same⟩
    cases sole with
    | vacant config calls =>
      have start : cursor = 0 := by
        have below := sound.cursor_le
        rw [Chain.headLength, show nodes = [] from listed] at below
        exact Nat.le_zero.mp below
      subst listed start
      exact .vacant config calls
    | seated config calls based filled within =>
      subst listed
      exact .seated config calls based filled within sound.cursor_le

/-- A new arena in an empty region. -/
theorem Sole.prepare_ends (placed : Region.Placed base capacity) (settings : Settings) :
    (prepare regionBacking settings).Ends (ofSource ⟨Region.filledTo base capacity 0, []⟩) fun answer _ arena' =>
      answer = .ok () → Sole base capacity arena' ∧ settings.validate = .ok arena'.config := by
  rw [prepare]
  rcases valid : settings.validate with error | config
  · exact (Act.ends_pure ..).mpr (by simp)
  simp only [Act.ends_bind, Act.ends_modify]
  by_cases none : config.initialCapacity = 0
  · simp only [none, ↓reduceIte, Act.ends_pure]
    exact fun _ => ⟨.vacant config [], trivial⟩
  simp only [none, ↓reduceIte, Act.ends_bind]
  have vacant : Sole base capacity ⟨.empty, config, ⟨Region.filledTo base capacity 0, []⟩⟩ := .vacant config []
  by_cases short : config.initialCapacity ≤ capacity
  · refine (allocateNode_of_vacant placed (Nat.pos_of_ne_zero none) short).mono ?_
    rintro _ _ _ ⟨node, calls, rfl, based, len, rfl⟩
    simp only [Act.ends_bind, Act.ends_modify, Act.ends_pure, ← len]
    exact fun _ => ⟨.seated config calls based (by omega) (by omega) (Nat.zero_le _), trivial⟩
  · refine (vacant.allocateNode_of_long (Nat.lt_of_not_le short)).mono ?_
    rintro _ _ _ ⟨rfl, calls, rfl⟩
    exact (Act.ends_pure ..).mpr (by simp)

/-- The block at the first aligned offset behind the cursor. -/
def nextBlock (base : Nat) (arena : Arena (Ledger Region)) (layout : Layout) : Block :=
  ⟨base + (layout.align.roundUp (base + arena.cursor) - base), layout.size⟩

theorem Sole.alloc_nextBlock (sole : Sole base capacity arena) (placed : Region.Placed base capacity)
    (room : arena.Room capacity layout) :
    (alloc regionBacking layout).Ends arena fun answer _ _ => answer = .ok (arena.nextBlock base layout) := by
  refine (sole.alloc_of_room placed room).mono ?_
  rintro _ _ arena' ⟨sole', _, _, ⟨node, single, rfl, _⟩⟩
  have based := (sole'.of_single single).1
  subst based
  rfl

/-- The arena is a bump allocator from `base` to `base + capacity`. -/
structure Bumps (base capacity : Nat) (arena : Arena (Ledger Region)) : Prop where
  few : arena.nodes.length ≤ 1
  low : arena.nodes = [] → arena.cursor = 0
  based : ∀ node ∈ arena.nodes, node.base = base
  /-- With a node, a request is served from the first aligned offset behind the cursor, if it fits there. -/
  serves : arena.nodes ≠ [] → ∀ layout : Layout, ∃ offset,
    IsLeast {offset | arena.cursor ≤ offset ∧ layout.align.bytes ∣ base + offset} offset ∧
    (alloc regionBacking layout).Ends arena fun answer _ _ =>
      answer = if offset + layout.size ≤ capacity then .ok ⟨base + offset, layout.size⟩
        else .error (.outOfMemory layout.size layout.align.bytes)
  /-- Without one, it is served if the node that it would get fits. -/
  starts : arena.nodes = [] → ∀ layout : Layout, ∃ offset,
    IsLeast {offset | layout.align.bytes ∣ base + offset} offset ∧
    (alloc regionBacking layout).Ends arena fun answer _ _ =>
      ((∃ length, arena.config.nodeLength? 0 layout.footprint = some length ∧ length ≤ capacity) →
        answer = .ok ⟨base + offset, layout.size⟩) ∧
      ((¬ ∃ length, arena.config.nodeLength? 0 layout.footprint = some length ∧ length ≤ capacity) →
        answer = .error (.outOfMemory layout.size layout.align.bytes))
  resets : ∀ retention, (reset regionBacking retention).Ends arena fun kept _ _ => kept = true
  /-- What an empty arena has served, it serves again after a reset in the same way and without a call. -/
  refills : arena.cursor = 0 → ∀ requests, (allocEach regionBacking requests).Ends arena fun blocks? _ filled =>
    ∀ blocks, blocks? = some blocks → (reset regionBacking .capacity).Ends filled fun _ _ cleared =>
      (allocEach regionBacking requests).Ends cleared fun again _ refilled =>
        again = some blocks ∧ refilled.source = filled.source

theorem Sole.bumps (sole : Sole base capacity arena) (placed : Region.Placed base capacity) :
    arena.Bumps base capacity where
  few := by
    cases sole with
    | vacant => exact Nat.zero_le _
    | seated => exact Nat.le_refl _
  low := sole.cursor_eq
  based node member := by
    cases sole with
    | vacant => contradiction
    | seated _ _ based => exact List.mem_singleton.mp member ▸ based
  serves some layout := by
    refine ⟨_, layout.align.isLeast_offset base arena.cursor, ?_⟩
    have room_iff : arena.Room capacity layout ↔
        layout.align.roundUp (base + arena.cursor) - base + layout.size ≤ capacity := by
      cases sole with
      | vacant => contradiction
      | seated _ _ based =>
        subst based
        exact Iff.rfl
    by_cases room : arena.Room capacity layout
    · rw [if_pos (room_iff.mp room)]
      exact sole.alloc_nextBlock placed room
    · rw [if_neg (room_iff.not.mp room)]
      exact (sole.alloc_of_not_room placed room).mono fun _ _ _ refused => refused.1
  starts none layout := by
    have start := sole.cursor_eq none
    have least := layout.align.isLeast_offset base 0
    simp only [Nat.zero_le, true_and] at least
    refine ⟨_, least, ?_⟩
    have room_iff : arena.Room capacity layout ↔
        ∃ length, arena.config.nodeLength? 0 layout.footprint = some length ∧ length ≤ capacity := by
      rw [Room, none]
    rw [← room_iff]
    by_cases room : arena.Room capacity layout
    · refine (sole.alloc_nextBlock placed room).mono ?_
      rintro _ _ _ rfl
      rw [nextBlock, start]
      exact ⟨fun _ => rfl, fun refused => (refused room).elim⟩
    · refine (sole.alloc_of_not_room placed room).mono ?_
      rintro _ _ _ ⟨rfl, _⟩
      exact ⟨fun served => (room served).elim, fun _ => rfl⟩
  resets retention := (sole.reset_ends placed retention).mono fun _ _ _ kept => kept.1
  refills start requests := by
    refine (sole.allocEach_ends placed requests).mono ?_
    rintro _ _ filled ⟨sole', _, again⟩ blocks rfl
    refine (sole'.reset_ends placed .capacity).mono ?_
    rintro _ _ cleared ⟨_, sole'', _, cursor, kept⟩
    obtain ⟨nodes, source⟩ := kept rfl
    have length : cleared.headLength = filled.headLength := by rw [Chain.headLength, Chain.headLength, nodes]
    refine (again blocks rfl cleared sole'' (cursor.trans start.symm) length.ge).mono ?_
    rintro _ _ refilled ⟨rfl, source'⟩
    exact ⟨rfl, source'.trans source⟩

/-- An arena that is the only client of a new region is a bump allocator over it, after any list of operations and with
    any settings and blocks. -/
theorem bumps_after {heap heap' : Heap} {capacity : Nat} {created prepared : Trace} {region : Region}
    {settings : Settings} {arena : Arena (Ledger Region)}
    (made : (Region.create capacity).run heap = ⟨.ok region, created, heap'⟩) (low : heap.limit < Word.limit)
    (ready : (prepare regionBacking settings).run (ofSource ⟨region, []⟩) = ⟨.ok (.ok ()), prepared, arena⟩)
    (memory : Memory) (operations : List Operation) :
    (Workspace.operateAll regionBacking operations).Ends ⟨arena, memory⟩ fun _ _ workspace =>
      settings.validate = .ok workspace.arena.config ∧ workspace.arena.Bumps region.base capacity := by
  obtain ⟨whole, aligned, below, fits⟩ := Region.of_create made
  have placed : Region.Placed region.base capacity := ⟨aligned, Nat.lt_of_le_of_lt below low, fits⟩
  rw [whole, ← Region.filledTo_zero] at ready
  obtain ⟨sole, valid⟩ := (Sole.prepare_ends placed settings).of_run ready rfl
  refine (Workspace.operateAll_ends (Sole.keeps placed arena.config) ⟨sole, rfl⟩ operations).mono ?_
  rintro _ _ workspace ⟨sole', config⟩
  exact ⟨config ▸ valid, sole'.bumps placed⟩

/-- A region of one page with a first node, in which blocks are resized and freed that are not there. -/
theorem heap_bumps_after :
    (Heap.ofSize 65536).limit < Word.limit ∧
      ∃ region created heap prepared arena,
        (Region.create 4096).run (Heap.ofSize 65536) = ⟨.ok region, created, heap⟩ ∧
        (prepare regionBacking (.withInitialCapacity 64)).run (ofSource ⟨region, []⟩) =
          ⟨.ok (.ok ()), prepared, arena⟩ ∧
        (Workspace.operateAll regionBacking
            [.alloc ⟨40, .one, by decide⟩, .alloc ⟨200, .sixteen, by decide⟩, .free ⟨7, 9⟩, .reset (.atMost 100),
              .allocCopy [1, 2, 3], .resize ⟨region.base, 3⟩ 2, .remap ⟨5, 0⟩ 1, .reset .nothing]).Ends ⟨arena, .zero⟩
          fun _ _ workspace => workspace.arena.Bumps region.base 4096 := by
  have low : (Heap.ofSize 65536).limit < Word.limit := by decide
  have made : (Region.create 4096).run (Heap.ofSize 65536) =
      ⟨.ok (Region.ofRange Heap.base 4096), [], ⟨Heap.base + 4096, Heap.base + 65536⟩⟩ := rfl
  refine ⟨low, _, _, _, _, _, made, Act.run_of_value (by decide +kernel), ?_⟩
  refine (bumps_after made low (Act.run_of_value (by decide +kernel)) .zero _).mono ?_
  rintro _ _ workspace ⟨_, bumps⟩
  exact bumps

end Arena
end BumpArena
