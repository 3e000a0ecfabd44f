import BumpArena.Arena.Lifecycle
import BumpArena.Proofs.Courses

/-!
How an arena gives its nodes back, and how it begins. `Arena.Clears` lists what a reset can come to, call by call, and
`Chain.Resets` what it can make of a chain. `Arena.reset_clears` says that nothing else happens: a reset always ends,
never forms a sum that is no word, and leaves exactly the nodes of the new chain out. The same is said of the release of
all nodes, of a new arena (`Arena.Begins`) and of an arena that takes a chain over.
-/
namespace BumpArena

theorem Settings.toSettings_of_validate {settings : Settings} {config : Config}
    (valid : settings.validate = .ok config) : config.toSettings = settings := by
  unfold Settings.validate at valid
  split at valid
  · injection valid with valid
    rw [← valid]
  · contradiction

/-- Settings are turned down for slow growth, and for nothing else. -/
theorem Settings.exists_error_iff {settings : Settings} :
    (∃ error, settings.validate = .error error) ↔ settings.growthPercent < 100 := by
  unfold validate
  split
  · simp only [reduceCtorEq, exists_false, false_iff]
    omega
  · simp only [Except.error.injEq, exists_eq', true_iff]
    omega

namespace Word

theorem sum_of_lt {words : List Nat} (isWord : words.sum < limit) : sum words = .ok words.sum := by
  induction words with
  | nil => rfl
  | cons first rest ih =>
    rw [List.sum_cons] at isWord ⊢
    rw [sum, ih (by omega)]
    exact add_of_lt isWord

end Word

namespace Chain

theorem capacity_eq (chain : Chain) : chain.capacity = (chain.nodes.map (·.len)).sum := by
  rw [capacity]
  induction chain.nodes with
  | nil => rfl
  | cons head older ih => simp [ih]

/-- All nodes of an arena together have fewer bytes than there are words. -/
theorem Sound.capacity_lt {chain : Chain} (sound : chain.Sound) : chain.capacity < Word.limit := by
  have ends : ∀ block ∈ chain.nodes.map Node.block, block.finish ≤ Word.limit - 1 := by
    intro block member
    obtain ⟨node, listed, rfl⟩ := List.mem_map.mp member
    have below := sound.below node listed
    omega
  have total := Block.total_le (List.pairwise_map.mpr sound.spread) ends
  rw [List.map_map] at total
  rw [capacity_eq]
  exact Nat.lt_of_le_of_lt total (by decide)

/-- What a reset makes of a chain, with its answer. -/
inductive Resets (retention : Retention) (chain : Chain) : Bool → Chain → Prop where
  | cleared (none : retention.target chain.capacity = 0) : Resets retention chain true empty
  | kept {newer : List Node} {oldest : Node} (nodes : chain.nodes = newer ++ [oldest])
    (len : oldest.len = retention.target chain.capacity) : Resets retention chain true ⟨[oldest], 0⟩
  | resized {newer : List Node} {oldest node : Node} (nodes : chain.nodes = newer ++ [oldest])
    (other : oldest.len ≠ retention.target chain.capacity) (base : node.base = oldest.base)
    (len : node.len = retention.target chain.capacity) : Resets retention chain true ⟨[node], 0⟩
  | replaced {newer : List Node} {oldest fresh : Node} (nodes : chain.nodes = newer ++ [oldest])
    (other : oldest.len ≠ retention.target chain.capacity)
    (len : fresh.len = retention.target chain.capacity) : Resets retention chain true ⟨[fresh], 0⟩
  | failed {newer : List Node} {oldest : Node} (nodes : chain.nodes = newer ++ [oldest])
    (other : oldest.len ≠ retention.target chain.capacity) : Resets retention chain false empty

end Chain

namespace Arena

variable {σ : Type} {backing : Backing σ} {Out : σ → List Grant → Prop} {arena : Arena σ}

/-- Gives nodes back one after the other. -/
inductive GivesBack (backing : Backing σ) : List Node → σ → Trace → σ → Prop where
  | nil (s : σ) : GivesBack backing [] s [] s
  | cons {node : Node} {older : List Node} {s s' s'' : σ} {called called' : Trace}
    (ran : (backing.release node.base node.layout).run s = ⟨.ok (), called, s'⟩)
    (rest : GivesBack backing older s' called' s'') : GivesBack backing (node :: older) s (called ++ called') s''

/-- The grant of a node goes back wherever it stands among the grants. -/
theorem releaseNode_gives (lends : backing.LendsNodes Out) (arena : Arena σ) (before : List Grant) {after : List Grant}
    (node : Node) (out : Out arena.source (before ++ node.grant :: after)) :
    (releaseNode backing node).Ends arena fun _ called arena' => ∃ source,
      (backing.release node.base node.layout).run arena.source = ⟨.ok (), called, source⟩ ∧
      arena' = { arena with source } ∧ Out source (before ++ after) := by
  rw [releaseNode, onSource, Act.ends_zoom]
  obtain ⟨_, called, source, ran, kept⟩ := lends.release out rfl
  exact ⟨(), called, source, ran, source, ran, rfl, kept⟩

theorem releaseNodes_gives (lends : backing.LendsNodes Out) (keep : Nat) (nodes : List Node)
    (listed : arena.nodes = nodes) (out : Out arena.source (nodes.map Node.grant)) :
    (releaseNodes backing keep nodes).Ends arena fun _ called arena' => ∃ source,
      GivesBack backing (nodes.take (nodes.length - keep)) arena.source called source ∧
      arena' = { arena with nodes := nodes.drop (nodes.length - keep), source } ∧
      Out source ((nodes.drop (nodes.length - keep)).map Node.grant) := by
  induction nodes generalizing arena with
  | nil =>
    rw [List.take_nil, List.drop_nil]
    refine (Act.ends_pure ..).mpr ⟨arena.source, .nil _, ?_, out⟩
    rw [← listed]
  | cons node older ih =>
    rw [releaseNodes]
    split
    · next few =>
      have all : (node :: older).length - keep = 0 := by
        rw [List.length_cons]
        omega
      rw [all, List.take_zero, List.drop_zero]
      refine (Act.ends_pure ..).mpr ⟨arena.source, .nil _, ?_, out⟩
      rw [← listed]
    · next many =>
      have newest : (node :: older).length - keep = older.length - keep + 1 := by
        rw [List.length_cons]
        omega
      rw [newest, List.take_succ_cons, List.drop_succ_cons]
      simp only [Act.ends_bind, Act.ends_modify]
      refine (releaseNode_gives lends { arena with nodes := older } [] node out).mono ?_
      rintro _ called _ ⟨source, ran, rfl, kept⟩
      refine (ih rfl kept).mono ?_
      rintro _ called' arena' ⟨source', rest, rfl, kept⟩
      rw [List.nil_append]
      exact ⟨source', .cons ran rest, rfl, kept⟩

theorem releaseDownTo_gives (lends : backing.LendsNodes Out) (keep : Nat)
    (out : Out arena.source (arena.nodes.map Node.grant)) :
    (releaseDownTo backing keep).Ends arena fun _ called arena' => ∃ source,
      GivesBack backing (arena.nodes.take (arena.nodes.length - keep)) arena.source called source ∧
      arena' = { arena with toChain := ⟨arena.nodes.drop (arena.nodes.length - keep), 0⟩, source } ∧
      Out source ((arena.nodes.drop (arena.nodes.length - keep)).map Node.grant) := by
  simp only [releaseDownTo, Act.ends_bind, Act.ends_get]
  refine (releaseNodes_gives lends keep arena.nodes rfl out).mono ?_
  rintro _ called _ ⟨source, gave, rfl, kept⟩
  rw [Act.ends_modify, List.append_nil]
  exact ⟨source, gave, rfl, kept⟩

theorem releaseAll_gives (lends : backing.LendsNodes Out) (out : Out arena.source (arena.nodes.map Node.grant)) :
    (releaseAll backing).Ends arena fun _ called arena' => ∃ source,
      GivesBack backing arena.nodes arena.source called source ∧
      arena' = { arena with toChain := .empty, source } ∧ Out source [] := by
  have given := releaseDownTo_gives lends 0 out
  rw [Nat.sub_zero, List.take_length, List.drop_length] at given
  exact given

/-- An empty chain needs no backing. -/
theorem Backed.of_empty (out : Out arena.source []) (chain : arena.toChain = .empty) : arena.Backed Out where
  out := by rw [chain]; exact out
  filled := by rw [chain]; exact Chain.sound_empty.filled
  cursor_le := by rw [chain]; exact Chain.sound_empty.cursor_le

/-- After all nodes went back nothing is out. -/
theorem releaseAll_ends (lends : backing.LendsNodes Out) (out : Out arena.source (arena.nodes.map Node.grant)) :
    (releaseAll backing).Ends arena fun _ _ arena' =>
      arena'.toChain = .empty ∧ arena'.config = arena.config ∧ Out arena'.source [] := by
  refine (releaseAll_gives lends out).mono ?_
  rintro _ _ _ ⟨source, _, rfl, kept⟩
  exact ⟨rfl, rfl, kept⟩

/-- The invariant of a chain of one long enough node. -/
theorem Backed.of_single {node : Node} (chain : arena.toChain = ⟨[node], 0⟩) (filled : 0 < node.len)
    (out : Out arena.source (arena.nodes.map Node.grant)) : arena.Backed Out where
  out := out
  filled := by rw [chain]; simpa using filled
  cursor_le := by rw [chain]; exact Nat.zero_le _

/-- What becomes of the oldest node once it was asked to have `target` bytes. The first answer is the one to that
    call, the second one says whether a node is left. -/
inductive Renews (backing : Backing σ) (oldest : Node) (target : Nat) (s : σ) : Bool → Bool → List Node → σ → Prop where
  | resized {node : Node} (base : node.base = oldest.base) (len : node.len = target) :
    Renews backing oldest target s true true [node] s
  | replaced {fresh : Node} {called released : Trace} {s' last : σ}
    (granted : AsksNode backing (some target) s (some fresh) called s')
    (gave : GivesBack backing [oldest] s' released last) : Renews backing oldest target s false true [fresh] last
  | failed {called released : Trace} {s' last : σ} (refused : AsksNode backing (some target) s none called s')
    (gave : GivesBack backing [oldest] s' released last) : Renews backing oldest target s false false [] last

/-- What becomes of the oldest node when it alone is left and `target` bytes are to be kept. -/
inductive Retains (backing : Backing σ) (oldest : Node) (target : Nat) (s : σ) : Bool → List Node → σ → Prop where
  | kept (len : oldest.len = target) : Retains backing oldest target s true [oldest] s
  | renewed {granted kept : Bool} {called : Trace} {s' s'' : σ} {left : List Node} (other : oldest.len ≠ target)
    (asked : AsksHead backing ⟨[oldest], 0⟩ target s granted called s')
    (renews : Renews backing oldest target s' granted kept left s'') : Retains backing oldest target s kept left s''

/-- What a reset can come to. -/
inductive Clears (backing : Backing σ) (retention : Retention) (arena : Arena σ) : Bool → Arena σ → Prop where
  | cleared {called : Trace} {source : σ} (none : retention.target arena.toChain.capacity = 0)
    (gave : GivesBack backing arena.nodes arena.source called source) :
    Clears backing retention arena true { arena with toChain := .empty, source }
  | settled {newer left : List Node} {oldest : Node} {called : Trace} {source source' : σ} {kept : Bool}
    (some : retention.target arena.toChain.capacity ≠ 0) (nodes : arena.nodes = newer ++ [oldest])
    (gave : GivesBack backing newer arena.source called source)
    (retains : Retains backing oldest (retention.target arena.toChain.capacity) source kept left source') :
    Clears backing retention arena kept { arena with toChain := ⟨left, 0⟩, source := source' }

theorem Clears.resets {retention : Retention} {kept : Bool} {arena' : Arena σ}
    (clears : Clears backing retention arena kept arena') :
    arena'.config = arena.config ∧ arena.toChain.Resets retention kept arena'.toChain := by
  cases clears with
  | cleared none => exact ⟨rfl, .cleared none⟩
  | settled _ nodes _ retains =>
    cases retains with
    | kept len => exact ⟨rfl, .kept nodes len⟩
    | renewed other _ renews =>
      cases renews with
      | resized base len => exact ⟨rfl, .resized nodes other base len⟩
      | replaced granted => exact ⟨rfl, .replaced nodes other (Option.some.inj granted.len_eq).symm⟩
      | failed => exact ⟨rfl, .failed nodes other⟩

theorem replaceNode_gives (lends : backing.LendsNodes Out) {retained : Node} (single : arena.toChain = ⟨[retained], 0⟩)
    (out : Out arena.source [retained.grant]) (target : Nat) :
    (replaceNode backing retained target).Ends arena fun replaced _ arena' =>
      ∃ fresh? called source released last, AsksNode backing (some target) arena.source fresh? called source ∧
        GivesBack backing [retained] source released last ∧
        replaced = fresh?.isSome ∧ arena' = { arena with toChain := ⟨fresh?.toList, 0⟩, source := last } ∧
        Out last (fresh?.toList.map Node.grant) := by
  obtain ⟨chain, config, s⟩ := arena
  subst single
  simp only [replaceNode, Act.ends_bind]
  refine (allocateNode_asks lends.lendsBelow_limit _ out target).mono ?_
  rintro fresh? called _ ⟨source, asked, rfl, kept⟩
  rw [Act.ends_modify]
  refine (releaseNode_gives lends _ (fresh?.toList.map Node.grant) retained kept).mono ?_
  rintro _ released _ ⟨last, ran, rfl, kept⟩
  rw [List.append_nil] at kept
  have gave : GivesBack backing [retained] source (released ++ []) last := .cons ran (.nil _)
  rcases fresh? with _ | fresh
  · simp only [Act.ends_bind, Act.ends_log, Act.ends_pure]
    exact ⟨none, _, _, _, _, asked, gave, rfl, rfl, kept⟩
  · simp only [Act.ends_bind, Act.ends_modify, Act.ends_log, Act.ends_pure]
    exact ⟨some fresh, _, _, _, _, asked, gave, rfl, rfl, kept⟩

/-- A reset ends, keeps the invariant and comes to one of the things in `Arena.Clears`. -/
theorem reset_clears (lends : backing.LendsNodes Out) (backed : arena.Backed Out) (retention : Retention) :
    (reset backing retention).Ends arena fun kept _ arena' =>
      arena'.Backed Out ∧ Clears backing retention arena kept arena' := by
  have sound := backed.sound lends
  have total := Word.sum_of_lt (arena.toChain.capacity_eq ▸ sound.capacity_lt)
  simp only [reset, Act.ends_bind, Act.ends_get, total, Act.ends_lift_ok, ← arena.toChain.capacity_eq]
  by_cases none : retention.target arena.toChain.capacity = 0
  · simp only [none, ↓reduceIte, Act.ends_bind]
    refine (releaseAll_gives lends backed.out).mono ?_
    rintro _ _ _ ⟨source, gave, rfl, out⟩
    simp only [Act.ends_log, Act.ends_pure]
    exact ⟨.of_empty out rfl, .cleared none gave⟩
  simp only [none, ↓reduceIte, Act.ends_bind]
  obtain ⟨newer, oldest, nodes⟩ : ∃ newer oldest, arena.nodes = newer ++ [oldest] := by
    rcases List.eq_nil_or_concat' arena.nodes with empty | ⟨newer, oldest, nodes⟩
    · exact (none (by rw [Chain.capacity_eq, empty]; cases retention <;> simp [Retention.target])).elim
    · exact ⟨newer, oldest, nodes⟩
  refine (releaseDownTo_gives lends 1 backed.out).mono ?_
  rintro _ _ _ ⟨source, gave, rfl, out⟩
  have only : arena.nodes.length - 1 = newer.length := by simp [nodes]
  rw [only, nodes, List.take_left] at gave
  rw [only, nodes, List.drop_left] at out ⊢
  have positive : 0 < retention.target arena.toChain.capacity := Nat.pos_of_ne_zero none
  simp only [Act.ends_get]
  by_cases same : oldest.len = retention.target arena.toChain.capacity
  · simp only [same, ↓reduceIte, Act.ends_bind, Act.ends_log, Act.ends_pure]
    exact ⟨.of_single rfl (same ▸ positive) out, .settled none nodes gave (.kept same)⟩
  simp only [same, ↓reduceIte, Act.ends_bind]
  refine (resizeHead_asks lends.lendsBelow_limit out _).mono ?_
  rintro granted _ asked ⟨called, source', asks, out, made⟩
  cases granted with
  | true =>
    obtain ⟨head, node, older, single, base, len, _, rfl⟩ := made
    obtain ⟨rfl, rfl⟩ := List.cons.inj single
    simp only [↓reduceIte, Act.ends_bind, Act.ends_log, Act.ends_pure]
    exact ⟨.of_single rfl (len ▸ positive) out, .settled none nodes gave (.renewed same asks (.resized base len))⟩
  | false =>
    obtain ⟨_, rfl⟩ := made
    simp only [Bool.false_eq_true, ↓reduceIte]
    refine (replaceNode_gives lends rfl out _).mono ?_
    rintro _ _ _ ⟨fresh?, _, _, _, last, asked, gave', rfl, rfl, out⟩
    rcases fresh? with _ | fresh
    · exact ⟨.of_empty out rfl, .settled none nodes gave (.renewed same asks (.failed asked gave'))⟩
    · have len := Option.some.inj asked.len_eq
      exact ⟨.of_single rfl (len ▸ positive) out, .settled none nodes gave (.renewed same asks (.replaced asked gave'))⟩

theorem reset_ends (lends : backing.LendsNodes Out) (backed : arena.Backed Out) (retention : Retention) :
    (reset backing retention).Ends arena fun kept _ arena' =>
      arena'.Backed Out ∧ arena'.config = arena.config ∧ arena.toChain.Resets retention kept arena'.toChain :=
  (reset_clears lends backed retention).mono fun _ _ _ cleared => ⟨cleared.1, cleared.2.resets⟩

/-! ### How an arena begins -/

theorem Backed.of_ofSource {s : σ} (out : Out s []) : (ofSource s).Backed Out := .of_empty out rfl

/-- What making a new arena ready can come to. -/
inductive Begins (backing : Backing σ) (settings : Settings) (arena : Arena σ) :
    Except ArenaError Unit → Arena σ → Prop where
  | invalid {error : ArenaError} (invalid : settings.validate = .error error) :
    Begins backing settings arena (.error error) arena
  | bare {config : Config} (valid : settings.validate = .ok config) (none : settings.initialCapacity = 0) :
    Begins backing settings arena (.ok ()) { arena with config }
  | granted {config : Config} {fresh : Node} {called : Trace} {source : σ} (valid : settings.validate = .ok config)
    (filled : settings.initialCapacity ≠ 0)
    (asked : AsksNode backing (some settings.initialCapacity) arena.source (some fresh) called source) :
    Begins backing settings arena (.ok ()) { arena with nodes := fresh :: arena.nodes, config, source }
  | refused {config : Config} {called : Trace} {source : σ} (valid : settings.validate = .ok config)
    (filled : settings.initialCapacity ≠ 0)
    (asked : AsksNode backing (some settings.initialCapacity) arena.source none called source) :
    Begins backing settings arena (.error (.outOfMemory settings.initialCapacity nodeAlignment.bytes))
      { arena with config, source }

theorem prepare_begins (lends : backing.LendsNodes Out) (out : Out arena.source []) (empty : arena.toChain = .empty)
    (settings : Settings) :
    (prepare backing settings).Ends arena fun answer _ arena' =>
      arena'.Backed Out ∧ Begins backing settings arena answer arena' := by
  obtain ⟨chain, config, s⟩ := arena
  subst empty
  rw [prepare]
  rcases valid : settings.validate with error | config
  · exact (Act.ends_pure ..).mpr ⟨.of_empty out rfl, .invalid valid⟩
  have same : config.initialCapacity = settings.initialCapacity := by
    rw [← Settings.toSettings_of_validate valid]
  simp only [Act.ends_bind, Act.ends_modify, same]
  by_cases none : settings.initialCapacity = 0
  · simp only [none, ↓reduceIte, Act.ends_pure]
    exact ⟨.of_empty out rfl, .bare valid none⟩
  simp only [none, ↓reduceIte, Act.ends_bind]
  refine (allocateNode_asks lends.lendsBelow_limit { toChain := .empty, config, source := s } out _).mono ?_
  rintro fresh? _ _ ⟨source, asked, rfl, kept⟩
  rcases fresh? with _ | fresh
  · exact (Act.ends_pure ..).mpr ⟨.of_empty kept rfl, .refused valid none asked⟩
  · have len := Option.some.inj asked.len_eq
    simp only [Act.ends_bind, Act.ends_modify, Act.ends_pure]
    exact ⟨.of_single rfl (by omega) kept, .granted valid none asked⟩

theorem Begins.error_iff {settings : Settings} {answer : Except ArenaError Unit} {arena' : Arena σ}
    (begins : Begins backing settings arena answer arena') :
    (∃ error, answer = .error error) ↔ settings.growthPercent < 100 ∨ settings.initialCapacity ≠ 0 ∧
      ∃ called source, AsksNode backing (some settings.initialCapacity) arena.source none called source := by
  rw [← Settings.exists_error_iff]
  cases begins with
  | invalid invalid => exact ⟨fun _ => .inl ⟨_, invalid⟩, fun _ => ⟨_, rfl⟩⟩
  | bare valid none => simp [valid, none]
  | granted valid _ asked =>
    simp only [valid, reduceCtorEq, exists_false, false_or, false_iff]
    rintro ⟨_, _, _, refused⟩
    exact absurd (asked.unique refused).1 (by simp)
  | refused _ filled asked => exact ⟨fun _ => .inr ⟨filled, _, _, asked⟩, fun _ => ⟨_, rfl⟩⟩

/-- A new arena is ready unless its settings are out of range or its first node was refused; then it holds
    nothing. -/
theorem prepare_ends (lends : backing.LendsNodes Out) (out : Out arena.source []) (empty : arena.toChain = .empty)
    (settings : Settings) :
    (prepare backing settings).Ends arena fun answer _ arena' =>
      arena'.Backed Out ∧
      match answer with
      | .ok _ => settings.validate = .ok arena'.config ∧ arena'.cursor = 0 ∧
          arena'.nodes.map (·.len) = if settings.initialCapacity = 0 then [] else [settings.initialCapacity]
      | .error _ => arena'.toChain = .empty := by
  refine (prepare_begins lends out empty settings).mono ?_
  rintro answer _ arena' ⟨backed, begins⟩
  refine ⟨backed, ?_⟩
  cases begins with
  | invalid => exact empty
  | bare valid none =>
    rw [if_pos none]
    exact ⟨valid, by rw [empty]; rfl, by rw [empty]; rfl⟩
  | granted valid filled asked =>
    rw [if_neg filled, empty]
    exact ⟨valid, rfl, by rw [Option.some.inj asked.len_eq]; rfl⟩
  | refused => exact empty

/-- An arena that takes a chain over keeps it, or gives it back if the settings are out of range. -/
theorem adopt_ends (lends : backing.LendsNodes Out) (backed : arena.Backed Out) (settings : Settings) :
    (adopt backing settings).Ends arena fun answer _ arena' =>
      arena'.Backed Out ∧ ((∃ error, answer = .error error) ↔ settings.growthPercent < 100) ∧
      match answer with
      | .ok _ => settings.validate = .ok arena'.config ∧ arena'.toChain = arena.toChain
      | .error _ => arena'.toChain = .empty := by
  rw [adopt, ← Settings.exists_error_iff]
  rcases valid : settings.validate with error | config
  · simp only [Act.ends_bind]
    refine (releaseAll_ends lends backed.out).mono ?_
    rintro _ _ released ⟨chain, _, out⟩
    exact (Act.ends_pure ..).mpr ⟨.of_empty out chain, by simp, chain⟩
  · simp only [Act.ends_bind, Act.ends_modify, Act.ends_pure]
    exact ⟨⟨backed.out, backed.filled, backed.cursor_le⟩, by simp, trivial, trivial⟩

end Arena
end BumpArena
