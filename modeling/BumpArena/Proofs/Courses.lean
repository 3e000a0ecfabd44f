import BumpArena.Proofs.Ledger
import BumpArena.Proofs.Serving

/-!
How a request goes, call by call. An arena that has no room for a request asks its backing for a longer head
(`Arena.AsksHead`) and then for a fresh node (`Arena.AsksNode`), each at most once, and `Arena.Course` lists what can
come of it: the answer, the trace and the arena at the end. `Arena.exists_course` says that every request takes one of
these courses in two rounds. For that the nodes need not be apart; it is enough that they end below `Word.limit`.
-/
namespace BumpArena

namespace Backing

variable {σ : Type} {backing : Backing σ} {Out : σ → List Grant → Prop}

/-- What a request relies on: calls for nodes end, and all nodes that are out end at `limit` or before. -/
structure LendsBelow (backing : Backing σ) (limit : Nat) (Out : σ → List Grant → Prop) : Prop where
  below : ∀ {s grants}, Out s grants → ∀ grant ∈ grants, grant.block.finish ≤ limit
  allocate : ∀ {s grants layout}, Out s grants → layout.align = nodeAlignment →
    (backing.allocate layout).Ends s fun answer _ s' =>
      match answer with
      | .ok block => Out s' (layout.grant block.addr :: grants)
      | .error _ => Out s' grants
  resizeInPlace : ∀ {s before after layout addr} (newSize : Nat),
    Out s (before ++ layout.grant addr :: after) → layout.align = nodeAlignment →
    (backing.resizeInPlace addr layout newSize).Ends s fun granted _ s' =>
      Out s' (before ++ (if granted then (layout.grant addr).resized newSize else layout.grant addr) :: after)

theorem LendsNodes.lendsBelow (lends : backing.LendsNodes Out) {limit : Nat}
    (below : ∀ {s grants}, Out s grants → ∀ grant ∈ grants, grant.block.finish ≤ limit) :
    backing.LendsBelow limit Out :=
  ⟨below, lends.allocate, lends.resizeInPlace⟩

theorem LendsNodes.lendsBelow_limit (lends : backing.LendsNodes Out) : backing.LendsBelow (Word.limit - 1) Out :=
  lends.lendsBelow fun out grant member => Nat.le_sub_one_of_lt (lends.below out grant member)

end Backing

/-- A journal is no matter for where the nodes lie. -/
theorem Ledger.lendsBelow {σ : Type} {inner : Backing σ} {Out : σ → List Grant → Prop} {limit : Nat}
    (lends : inner.LendsBelow limit Out) : (backing inner).LendsBelow limit fun ledger => Out ledger.inner where
  below := lends.below
  allocate {ledger grants layout} out asked := by
    obtain ⟨answer, trace, s', ran, kept⟩ := lends.allocate out asked
    exact ⟨answer, trace, _, run_allocate ledger.calls ran, kept⟩
  resizeInPlace {ledger before after layout addr} newSize out asked := by
    obtain ⟨granted, trace, s', ran, kept⟩ := lends.resizeInPlace newSize out asked
    exact ⟨granted, trace, _, run_resizeInPlace ledger.calls ran, kept⟩

/-- The place for a block of this layout after `cursor` has words for its address and its end. -/
def Node.Places (node : Node) (cursor : Nat) (layout : Layout) : Prop :=
  node.base + node.start cursor layout.align < Word.limit ∧ node.start cursor layout.align + layout.size < Word.limit

namespace Node

variable {node : Node} {cursor : Nat} {layout : Layout}

theorem place_of_places (placed : node.Places cursor layout) (room : node.base + cursor < Word.limit) :
    node.place cursor layout =
      .ok (some ⟨node.start cursor layout.align, node.start cursor layout.align + layout.size⟩) :=
  (place_eq layout room).trans (congrArg Except.ok (if_pos placed))

theorem place_of_not_places (outside : ¬ node.Places cursor layout) (room : node.base + cursor < Word.limit) :
    node.place cursor layout = .ok none :=
  (place_eq layout room).trans (congrArg Except.ok (if_neg outside))

end Node

namespace Chain

/-- Where a block of this layout would end in the head. -/
def reach (chain : Chain) (layout : Layout) : Nat :=
  match chain.nodes with
  | [] => 0
  | head :: _ => head.start chain.cursor layout.align + layout.size

theorem reach_eq {chain : Chain} {head : Node} {older : List Node} (nodes : chain.nodes = head :: older)
    (layout : Layout) : chain.reach layout = head.start chain.cursor layout.align + layout.size := by
  rw [reach, nodes]

/-- The head has no room for the request. -/
def Full (chain : Chain) (layout : Layout) : Prop :=
  ∀ head older, chain.nodes = head :: older → ¬ head.Fits chain.cursor layout

end Chain

namespace Arena

variable {σ : Type} {backing : Backing σ} {Out : σ → List Grant → Prop} {limit : Nat} {arena : Arena σ}
  {layout : Layout}

/-- Asks for a head of `length` bytes. There is no call without a head, or if the length has no layout. -/
inductive AsksHead (backing : Backing σ) (chain : Chain) (length : Nat) (s : σ) : Bool → Trace → σ → Prop where
  | headless (empty : chain.nodes = []) : AsksHead backing chain length s false [] s
  | unsized (long : Layout.ofSize? length nodeAlignment = none) : AsksHead backing chain length s false [] s
  | asked {head : Node} {older : List Node} {granted : Bool} {called : Trace} {s' : σ}
    (nodes : chain.nodes = head :: older) (sized : (Layout.ofSize? length nodeAlignment).isSome)
    (ran : (backing.resizeInPlace head.base head.layout length).run s = ⟨.ok granted, called, s'⟩) :
    AsksHead backing chain length s granted called s'

/-- Asks for a node. There is no call without a length, or if the length has no layout. -/
inductive AsksNode (backing : Backing σ) (length? : Option Nat) (s : σ) : Option Node → Trace → σ → Prop where
  | overflows (long : length? = none) : AsksNode backing length? s none [] s
  | unsized {length : Nat} (wanted : length? = some length) (long : Layout.ofSize? length nodeAlignment = none) :
    AsksNode backing length? s none [] s
  | refused {length : Nat} {layout : Layout} {refusal : Refusal} {called : Trace} {s' : σ}
    (wanted : length? = some length) (sized : Layout.ofSize? length nodeAlignment = some layout)
    (ran : (backing.allocate layout).run s = ⟨.ok (.error refusal), called, s'⟩) :
    AsksNode backing length? s none (called ++ [.log (.nodeRefused refusal)]) s'
  | granted {length : Nat} {fresh : Node} {len : Nat} {called : Trace} {s' : σ} (wanted : length? = some length)
    (sized : Layout.ofSize? length nodeAlignment = some fresh.layout)
    (ran : (backing.allocate fresh.layout).run s = ⟨.ok (.ok ⟨fresh.base, len⟩), called, s'⟩) :
    AsksNode backing length? s (some fresh) called s'

/-- The head has no room for the request and gets no longer. -/
structure Stuck (backing : Backing σ) (layout : Layout) (arena : Arena σ) (called : Trace) (source : σ) : Prop where
  full : arena.toChain.Full layout
  placed : ∀ head older, arena.nodes = head :: older → head.Places arena.cursor layout
  asked : AsksHead backing arena.toChain (arena.toChain.reach layout) arena.source false called source

/-- The length of the node that is asked for when the head has no room for the request. -/
def wanted? (arena : Arena σ) (layout : Layout) : Option Nat :=
  arena.config.nodeLength? arena.headLength layout.footprint

/-- What a request can come to. -/
inductive Course (backing : Backing σ) (layout : Layout) (arena : Arena σ) :
    Except ArenaError Block → Trace → Arena σ → Prop where
  | fits {head : Node} {older : List Node} (nodes : arena.nodes = head :: older)
    (fits : head.Fits arena.cursor layout) :
    Course backing layout arena (.ok (head.carving arena.cursor layout)) []
      { arena with cursor := head.start arena.cursor layout.align + layout.size }
  | unplaced {head : Node} {older : List Node} (nodes : arena.nodes = head :: older)
    (outside : ¬ head.Places arena.cursor layout) :
    Course backing layout arena (.error (.outOfMemory layout.size layout.align.bytes)) [] arena
  | grown {head longer : Node} {older : List Node} {called : Trace} {source : σ}
    (nodes : arena.nodes = head :: older) (full : ¬ head.Fits arena.cursor layout)
    (asked : AsksHead backing arena.toChain (arena.toChain.reach layout) arena.source true called source)
    (base : longer.base = head.base) (len : longer.len = arena.toChain.reach layout) :
    Course backing layout arena (.ok (head.carving arena.cursor layout))
      (called ++ [.log (.headResized head.len longer.len)])
      { arena with nodes := longer :: older, cursor := longer.len, source }
  | linked {fresh : Node} {called called' : Trace} {source source' : σ}
    (stuck : Stuck backing layout arena called source)
    (asked : AsksNode backing (arena.wanted? layout) source (some fresh) called' source') :
    Course backing layout arena (.ok (fresh.carving 0 layout))
      (called ++ (called' ++ [.log (.nodeLinked fresh.len (arena.nodes.length + 1))]))
      { arena with
        nodes := fresh :: arena.nodes
        cursor := fresh.start 0 layout.align + layout.size
        source := source' }
  | refused {called called' : Trace} {source source' : σ} (stuck : Stuck backing layout arena called source)
    (asked : AsksNode backing (arena.wanted? layout) source none called' source') :
    Course backing layout arena (.error (.outOfMemory layout.size layout.align.bytes)) (called ++ called')
      { arena with source := source' }

/-- The answer to a request for a head. -/
theorem AsksHead.unique {chain : Chain} {length : Nat} {s s' s'' : σ} {granted granted' : Bool} {called called' : Trace}
    (asks : AsksHead backing chain length s granted called s')
    (also : AsksHead backing chain length s granted' called' s'') :
    granted' = granted ∧ called' = called ∧ s'' = s' := by
  cases asks with
  | headless empty =>
    cases also with
    | headless | unsized => exact ⟨rfl, rfl, rfl⟩
    | asked nodes => simp [empty] at nodes
  | unsized long =>
    cases also with
    | headless | unsized => exact ⟨rfl, rfl, rfl⟩
    | asked _ sized => simp [long] at sized
  | asked nodes sized ran =>
    cases also with
    | headless empty => simp [empty] at nodes
    | unsized long => simp [long] at sized
    | asked nodes' _ ran' =>
      obtain ⟨rfl, rfl⟩ := List.cons.inj (nodes.symm.trans nodes')
      rw [ran] at ran'
      injection ran' with value traces states
      injection value with value
      exact ⟨value.symm, traces.symm, states.symm⟩

/-- A node has the length that was asked for. -/
theorem AsksNode.len_eq {length? : Option Nat} {s s' : σ} {fresh : Node} {called : Trace}
    (asks : AsksNode backing length? s (some fresh) called s') : length? = some fresh.len := by
  cases asks with
  | granted wanted sized => rw [wanted, (Layout.ofSize?_eq_some_iff.mp sized).1.symm, Node.layout]

/-- The answer to a request for a node. -/
theorem AsksNode.unique {length? : Option Nat} {s s' s'' : σ} {node? node?' : Option Node} {called called' : Trace}
    (asks : AsksNode backing length? s node? called s') (also : AsksNode backing length? s node?' called' s'') :
    node?' = node? ∧ called' = called ∧ s'' = s' := by
  cases asks with
  | overflows long =>
    cases also with
    | overflows | unsized => exact ⟨rfl, rfl, rfl⟩
    | refused wanted | granted wanted => simp [long] at wanted
  | unsized wanted long =>
    cases also with
    | overflows | unsized => exact ⟨rfl, rfl, rfl⟩
    | refused wanted' sized | granted wanted' sized =>
      obtain rfl := Option.some.inj (wanted.symm.trans wanted')
      simp [long] at sized
  | refused wanted sized ran =>
    cases also with
    | overflows long => simp [long] at wanted
    | unsized wanted' long =>
      obtain rfl := Option.some.inj (wanted.symm.trans wanted')
      simp [long] at sized
    | refused wanted' sized' ran' =>
      obtain rfl := Option.some.inj (wanted.symm.trans wanted')
      obtain rfl := Option.some.inj (sized.symm.trans sized')
      rw [ran] at ran'
      injection ran' with value traces states
      injection value with value
      injection value with value
      exact ⟨rfl, by rw [traces, value], states.symm⟩
    | granted wanted' sized' ran' =>
      obtain rfl := Option.some.inj (wanted.symm.trans wanted')
      obtain rfl := Option.some.inj (sized.symm.trans sized')
      simp [ran] at ran'
  | @granted _ fresh len _ _ wanted sized ran =>
    cases also with
    | overflows long => simp [long] at wanted
    | unsized wanted' long =>
      obtain rfl := Option.some.inj (wanted.symm.trans wanted')
      simp [long] at sized
    | refused wanted' sized' ran' =>
      obtain rfl := Option.some.inj (wanted.symm.trans wanted')
      obtain rfl := Option.some.inj (sized.symm.trans sized')
      simp [ran] at ran'
    | @granted _ fresh' len' _ _ wanted' sized' ran' =>
      obtain rfl := Option.some.inj (wanted.symm.trans wanted')
      have layouts : fresh.layout = fresh'.layout := Option.some.inj (sized.symm.trans sized')
      rw [← layouts, ran] at ran'
      injection ran' with value traces states
      injection value with value
      injection value with value
      injection value with base
      have same : fresh' = fresh := by
        rw [Node.mk.injEq]
        exact ⟨base.symm, (congrArg Layout.size layouts).symm⟩
      exact ⟨congrArg some same, traces.symm, states.symm⟩

theorem Backed.nodes_le (backed : arena.Backed Out) (lends : backing.LendsBelow limit Out) :
    ∀ node ∈ arena.nodes, node.base + node.len ≤ limit :=
  fun node listed => lends.below backed.out node.grant (List.mem_map_of_mem listed)

theorem Backed.room (backed : arena.Backed Out) (lends : backing.LendsBelow limit Out) {head : Node} {older : List Node}
    (nodes : arena.nodes = head :: older) : arena.cursor ≤ head.len ∧ head.base + head.len ≤ limit := by
  have cursor_le := backed.cursor_le
  rw [Chain.headLength, nodes] at cursor_le
  exact ⟨cursor_le, backed.nodes_le lends head (by simp [nodes])⟩

/-! ### Calls -/

/-- Asking for another head length changes that length alone, or nothing. -/
theorem resizeHead_asks (lends : backing.LendsBelow limit Out) (out : Out arena.source (arena.nodes.map Node.grant))
    (length : Nat) :
    (resizeHead backing length).Ends arena fun granted trace arena' => ∃ called source,
      AsksHead backing arena.toChain length arena.source granted called source ∧
      Out source (arena'.nodes.map Node.grant) ∧
      if granted then ∃ head longer older, arena.nodes = head :: older ∧ longer.base = head.base ∧
          longer.len = length ∧ trace = called ++ [.log (.headResized head.len longer.len)] ∧
          arena' = { arena with nodes := longer :: older, source }
      else trace = called ∧ arena' = { arena with source } := by
  simp only [resizeHead, Act.ends_bind, Act.ends_get]
  rcases nodes : arena.nodes with _ | ⟨head, older⟩
  · exact (Act.ends_pure ..).mpr ⟨[], arena.source, .headless nodes, nodes ▸ out, rfl, rfl⟩
  rcases sized : Layout.ofSize? length nodeAlignment with _ | ⟨size, align, fits⟩
  · simp only [Option.isNone_none, ↓reduceIte, Act.ends_pure]
    exact ⟨[], arena.source, .unsized sized, out, rfl, rfl⟩
  obtain ⟨rfl, rfl⟩ := Layout.ofSize?_eq_some_iff.mp sized
  simp only [Option.isNone_some, Bool.false_eq_true, ↓reduceIte, onSource, Act.ends_bind, Act.ends_zoom]
  rw [nodes] at out
  have first : Out arena.source ([] ++ head.layout.grant head.base :: older.map Node.grant) := out
  obtain ⟨granted, called, source, ran, kept⟩ := lends.resizeInPlace size first rfl
  have asks : AsksHead backing arena.toChain size arena.source granted called source :=
    .asked nodes (by rw [sized]; rfl) ran
  refine ⟨granted, called, source, ran, ?_⟩
  cases granted with
  | false =>
    simp only [Bool.false_eq_true, ↓reduceIte, Act.ends_pure, List.append_nil, nodes]
    exact ⟨called, source, asks, kept, rfl, rfl⟩
  | true =>
    simp only [↓reduceIte, Act.ends_bind, Act.ends_log, Node.ofLength, fits, ↓reduceDIte, Act.ends_lift_ok,
      Act.ends_modify, Act.ends_pure, List.append_nil]
    exact ⟨called, source, asks, kept, head, ⟨head.base, size, fits⟩, older, rfl, rfl, rfl, rfl, rfl⟩

/-- Asking for a node leaves the chain as it is. -/
theorem allocateNode_asks (lends : backing.LendsBelow limit Out) (arena : Arena σ) {grants : List Grant}
    (out : Out arena.source grants) (length : Nat) :
    (allocateNode backing length).Ends arena fun node? trace arena' => ∃ source,
      AsksNode backing (some length) arena.source node? trace source ∧ arena' = { arena with source } ∧
      Out source (node?.toList.map Node.grant ++ grants) := by
  unfold allocateNode
  rcases sized : Layout.ofSize? length nodeAlignment with _ | ⟨size, align, fits⟩
  · exact (Act.ends_pure ..).mpr ⟨arena.source, .unsized rfl sized, rfl, out⟩
  obtain ⟨rfl, rfl⟩ := Layout.ofSize?_eq_some_iff.mp sized
  simp only [onSource, Act.ends_bind, Act.ends_zoom]
  obtain ⟨answer, called, source, ran, kept⟩ :=
    lends.allocate out (rfl : (⟨size, nodeAlignment, fits⟩ : Layout).align = _)
  refine ⟨answer, called, source, ran, ?_⟩
  rcases answer with refusal | ⟨base, len⟩
  · simp only [Act.ends_bind, Act.ends_log, Act.ends_pure, List.append_nil]
    exact ⟨source, .refused rfl sized ran, rfl, kept⟩
  · simp only [Act.ends_bind, Node.ofLength, fits, ↓reduceDIte, Act.ends_lift_ok, Act.ends_pure, List.append_nil]
    exact ⟨source, .granted rfl sized ran, rfl, kept⟩

theorem linkNode_asks (lends : backing.LendsBelow limit Out) (arena : Arena σ)
    (out : Out arena.source (arena.nodes.map Node.grant)) (previous footprint : Nat) :
    (linkNode backing previous footprint).Ends arena fun linked trace arena' => ∃ node? called source,
      AsksNode backing (arena.config.nodeLength? previous footprint) arena.source node? called source ∧
      Out source (arena'.nodes.map Node.grant) ∧
      match node? with
      | some fresh => linked = true ∧ trace = called ++ [.log (.nodeLinked fresh.len (arena.nodes.length + 1))] ∧
          arena' = { arena with nodes := fresh :: arena.nodes, cursor := 0, source }
      | none => linked = false ∧ trace = called ∧ arena' = { arena with source } := by
  simp only [linkNode, Act.ends_bind, Act.ends_get]
  rcases sized : arena.config.nodeLength? previous footprint with _ | length
  · exact (Act.ends_pure ..).mpr ⟨none, [], arena.source, .overflows rfl, out, rfl, rfl, rfl⟩
  simp only [Act.ends_bind]
  refine (allocateNode_asks lends arena out length).mono ?_
  rintro node? called _ ⟨source, asks, rfl, kept⟩
  rcases node? with _ | fresh
  · simp only [Act.ends_pure, List.append_nil]
    exact ⟨none, called, source, asks, kept, trivial, rfl, rfl⟩
  · have len : fresh.len = length := Option.some.inj asks.len_eq.symm
    simp only [Act.ends_bind, Act.ends_modify, Act.ends_get, Act.ends_log, Act.ends_pure, List.append_nil]
    exact ⟨some fresh, called, source, asks, kept, trivial, by simp [len], rfl⟩

/-! ### Entries in a journal -/

section

variable {inner : Backing σ} {chain : Chain} {called : Trace} {ledger ledger' : Ledger σ}

/-- Asking for a head makes one call and enters it, or none, and then it is refused. -/
theorem AsksHead.calls_cases {length : Nat} {granted : Bool}
    (asks : AsksHead (Ledger.backing inner) chain length ledger granted called ledger') :
    (granted = false ∧ ledger' = ledger ∧ (chain.nodes = [] ∨ Layout.ofSize? length nodeAlignment = none)) ∨
      ∃ head older, chain.nodes = head :: older ∧ (Layout.ofSize? length nodeAlignment).isSome ∧
        ledger'.calls = .resized head.grant length granted :: ledger.calls := by
  cases asks with
  | headless empty => exact .inl ⟨rfl, rfl, .inl empty⟩
  | unsized long => exact .inl ⟨rfl, rfl, .inr long⟩
  | @asked head older _ _ _ nodes sized ran =>
    exact .inr ⟨head, older, nodes, sized, Ledger.calls_of_run_resizeInPlace ran⟩

/-- Asking for a node makes one call and enters it, or none, and then it is refused. -/
theorem AsksNode.calls_cases {length? : Option Nat} {node? : Option Node}
    (asks : AsksNode (Ledger.backing inner) length? ledger node? called ledger') :
    (node? = none ∧ ledger' = ledger ∧ ∀ length, length? = some length → Layout.ofSize? length nodeAlignment = none) ∨
      ∃ length layout, length? = some length ∧ Layout.ofSize? length nodeAlignment = some layout ∧
        ((node? = none ∧ ledger'.calls = .refused layout :: ledger.calls) ∨
          ∃ fresh, node? = some fresh ∧ fresh.layout = layout ∧
            ledger'.calls = .granted fresh.grant :: ledger.calls) := by
  cases asks with
  | overflows long => exact .inl ⟨rfl, rfl, by simp [long]⟩
  | unsized wanted long => exact .inl ⟨rfl, rfl, by simpa [wanted] using long⟩
  | @refused length layout refusal _ _ wanted sized ran =>
    exact .inr ⟨length, layout, wanted, sized, .inl ⟨rfl, Ledger.calls_of_run_allocate ran⟩⟩
  | @granted length fresh len _ _ wanted sized ran =>
    exact .inr ⟨length, fresh.layout, wanted, sized, .inr ⟨fresh, rfl, rfl, Ledger.calls_of_run_allocate ran⟩⟩

theorem AsksHead.suffix {length : Nat} {granted : Bool}
    (asks : AsksHead (Ledger.backing inner) chain length ledger granted called ledger') :
    ledger.calls <:+ ledger'.calls := by
  rcases asks.calls_cases with ⟨_, rfl, _⟩ | ⟨head, older, _, _, calls⟩
  · exact List.suffix_rfl
  · rw [calls]
    exact List.suffix_cons ..

theorem AsksNode.suffix {length? : Option Nat} {node? : Option Node}
    (asks : AsksNode (Ledger.backing inner) length? ledger node? called ledger') : ledger.calls <:+ ledger'.calls := by
  rcases asks.calls_cases with ⟨_, rfl, _⟩ | ⟨_, asked, _, _, ⟨_, calls⟩ | ⟨fresh, _, _, calls⟩⟩
  · exact List.suffix_rfl
  · rw [calls]
    exact List.suffix_cons ..
  · rw [calls]
    exact List.suffix_cons ..

/-- The journal of a request has at most one entry for a head and, after it, at most one for a node. -/
theorem Course.calls_eq {arena arena' : Arena (Ledger σ)} {answer : Except ArenaError Block} {trace : Trace}
    (course : Course (Ledger.backing inner) layout arena answer trace arena') :
    ∃ resizes allocations, arena'.source.calls = allocations ++ (resizes ++ arena.source.calls) ∧
      (resizes = [] ∨ ∃ grant newSize granted, resizes = [.resized grant newSize granted]) ∧
      (allocations = [] ∨ ∃ asked answered, allocations = [.ofAnswer asked answered]) := by
  have heads {length : Nat} {granted : Bool} {called : Trace} {ledger ledger' : Ledger σ}
      (asks : AsksHead (Ledger.backing inner) arena.toChain length ledger granted called ledger') :
      ∃ resizes, ledger'.calls = resizes ++ ledger.calls ∧
        (resizes = [] ∨ ∃ grant newSize granted, resizes = [.resized grant newSize granted]) := by
    rcases asks.calls_cases with ⟨_, rfl, _⟩ | ⟨head, older, _, _, calls⟩
    · exact ⟨[], rfl, .inl rfl⟩
    · exact ⟨[_], calls, .inr ⟨_, _, _, rfl⟩⟩
  have nodes {length? : Option Nat} {node? : Option Node} {called : Trace} {ledger ledger' : Ledger σ}
      (asks : AsksNode (Ledger.backing inner) length? ledger node? called ledger') :
      ∃ allocations, ledger'.calls = allocations ++ ledger.calls ∧
        (allocations = [] ∨ ∃ asked answered, allocations = [.ofAnswer asked answered]) := by
    rcases asks.calls_cases with ⟨_, rfl, _⟩ | ⟨_, asked, _, _, ⟨_, calls⟩ | ⟨fresh, _, rfl, calls⟩⟩
    · exact ⟨[], rfl, .inl rfl⟩
    · exact ⟨[_], calls, .inr ⟨asked, .error (.ofLayout asked), rfl⟩⟩
    · exact ⟨[_], calls, .inr ⟨fresh.layout, .ok fresh.block, rfl⟩⟩
  cases course with
  | fits | unplaced => exact ⟨[], [], rfl, .inl rfl, .inl rfl⟩
  | grown _ _ asked =>
    obtain ⟨resizes, calls, few⟩ := heads asked
    exact ⟨resizes, [], calls, few, .inl rfl⟩
  | linked stuck asked | refused stuck asked =>
    obtain ⟨resizes, calls, few⟩ := heads stuck.asked
    obtain ⟨allocations, calls', few'⟩ := nodes asked
    exact ⟨resizes, allocations, calls ▸ calls', few, few'⟩

end

/-! ### Rounds -/

/-- What a round comes to. After one that asks for another, the request fits into the head. -/
private def Turns (backing : Backing σ) (layout : Layout) (arena : Arena σ) (round : Round) (trace : Trace)
    (arena' : Arena σ) : Prop :=
  match round with
  | .served block => Course backing layout arena (.ok block) trace arena'
  | .refused => Course backing layout arena (.error (.outOfMemory layout.size layout.align.bytes)) trace arena'
  | .again => ∃ head older, arena'.nodes = head :: older ∧ head.base + head.len < Word.limit ∧
      head.Fits arena'.cursor layout ∧
      Course backing layout arena (.ok (head.carving arena'.cursor layout)) trace
        { arena' with cursor := head.start arena'.cursor layout.align + layout.size }

private theorem turns_of_stuck (lends : backing.LendsBelow limit Out) (isWord : limit < Word.limit)
    (backed : arena.Backed Out) {called : Trace} {source : σ} (stuck : Stuck backing layout arena called source)
    (out : Out source (arena.nodes.map Node.grant)) :
    (do if ← linkNode backing arena.headLength layout.footprint then return Round.again else return .refused).Ends
      { arena with source } fun round trace arena' =>
        arena'.Backed Out ∧ Turns backing layout arena round (called ++ trace) arena' := by
  rw [Act.ends_bind]
  refine (linkNode_asks lends { arena with source } out arena.headLength layout.footprint).mono ?_
  rintro linked _ _ ⟨node?, called', source', asks, kept, made⟩
  rcases node? with _ | fresh
  · obtain ⟨rfl, rfl, rfl⟩ := made
    simp only [Bool.false_eq_true, ↓reduceIte, Act.ends_pure, List.append_nil]
    exact ⟨⟨kept, backed.filled, backed.cursor_le⟩, .refused stuck asks⟩
  · obtain ⟨rfl, rfl, rfl⟩ := made
    simp only [↓reduceIte, Act.ends_pure, List.append_nil]
    have long : layout.footprint ≤ fresh.len := by
      have := Config.le_of_nodeLength? asks.len_eq
      omega
    have below : fresh.base + fresh.len ≤ limit := lends.below kept fresh.grant List.mem_cons_self
    have filled : ∀ node ∈ fresh :: arena.nodes, 0 < node.len :=
      List.forall_mem_cons.mpr ⟨Nat.lt_of_lt_of_le layout.footprint_pos long, backed.filled⟩
    exact ⟨⟨kept, filled, Nat.zero_le _⟩, fresh, arena.nodes, rfl, by omega, Node.fits_of_footprint_le long,
      .linked stuck asks⟩

private theorem round_turns (lends : backing.LendsBelow limit Out) (isWord : limit < Word.limit)
    (backed : arena.Backed Out) (layout : Layout) :
    (round backing layout).Ends arena fun round trace arena' =>
      arena'.Backed Out ∧ Turns backing layout arena round trace arena' := by
  by_cases fitting : ∃ head older, arena.nodes = head :: older ∧ head.Fits arena.cursor layout
  · obtain ⟨head, older, nodes, fits⟩ := fitting
    obtain ⟨cursor_le, below⟩ := backed.room lends nodes
    exact (Act.ends_iff_of_run (run_round_of_fits nodes cursor_le (by omega) fits)).mpr
      ⟨backed.carved nodes fits, .fits nodes fits⟩
  have full : arena.toChain.Full layout := fun head older nodes fits => fitting ⟨head, older, nodes, fits⟩
  simp only [round, Act.ends_bind, Act.ends_get]
  rcases nodes : arena.nodes with _ | ⟨head, older⟩
  · have stuck : Stuck backing layout arena [] arena.source :=
      ⟨full, by simp [nodes], .headless nodes⟩
    have length : arena.headLength = 0 := by simp [Chain.headLength, nodes]
    exact length ▸ turns_of_stuck lends isWord backed stuck backed.out
  have length : arena.headLength = head.len := by simp [Chain.headLength, nodes]
  have reach := Chain.reach_eq nodes layout
  obtain ⟨cursor_le, below⟩ := backed.room lends nodes
  have inside : head.base + arena.cursor < Word.limit := by omega
  by_cases placed : head.Places arena.cursor layout
  · have tight := full head older nodes
    rw [Node.Fits, ← reach] at tight
    simp only [Act.ends_bind, Node.place_of_places placed inside, Act.ends_lift_ok, ← reach, tight, ↓reduceIte]
    refine (resizeHead_asks lends backed.out _).mono ?_
    rintro granted called _ ⟨_, source, asks, kept, made⟩
    cases granted with
    | false =>
      obtain ⟨rfl, rfl⟩ := made
      have stuck : Stuck backing layout arena called source := by
        refine ⟨full, ?_, asks⟩
        intro first behind listed
        obtain ⟨rfl, rfl⟩ := List.cons.inj (nodes.symm.trans listed)
        exact placed
      simp only [Bool.false_eq_true, ↓reduceIte, List.nil_append]
      exact length ▸ turns_of_stuck lends isWord backed stuck kept
    | true =>
      obtain ⟨first, longer, behind, listed, base, len, rfl, rfl⟩ := made
      obtain ⟨rfl, rfl⟩ := List.cons.inj (nodes.symm.trans listed)
      have start : longer.start arena.cursor layout.align = head.start arena.cursor layout.align := by
        rw [Node.start, Node.start, base]
      have low : longer.base + longer.len ≤ limit := lends.below kept longer.grant List.mem_cons_self
      have course : Course backing layout arena (.ok (head.carving arena.cursor layout)) _ _ :=
        .grown nodes (full head older nodes) asks base len
      have carving : longer.carving arena.cursor layout = head.carving arena.cursor layout := by
        rw [Node.carving, Node.carving, base, start]
      have filled : ∀ node ∈ longer :: older, 0 < node.len := by
        have all := backed.filled
        rw [nodes] at all
        obtain ⟨_, behind⟩ := List.forall_mem_cons.mp all
        exact List.forall_mem_cons.mpr ⟨by omega, behind⟩
      have within : arena.cursor ≤ longer.len := by omega
      simp only [↓reduceIte, Act.ends_pure, List.nil_append, List.append_nil]
      refine ⟨⟨kept, filled, within⟩, longer, older, rfl, by omega, ?_, ?_⟩
      · rw [Node.Fits, start, len, reach]
      · simp only [carving, start, ← reach, ← len]
        exact course
  · simp only [Node.place_of_not_places placed inside, Act.ends_bind, Act.ends_lift_ok, Act.ends_pure]
    exact ⟨backed, .unplaced nodes placed⟩

/-- Every request takes one of its courses in two rounds, and more rounds would make no difference. -/
theorem exists_course (lends : backing.LendsBelow limit Out) (isWord : limit < Word.limit) (backed : arena.Backed Out)
    (layout : Layout) :
    ∃ answer trace arena', arena'.Backed Out ∧ Course backing layout arena answer trace arena' ∧
      ∀ rounds, (allocWithin backing layout (rounds + 2)).run arena = ⟨.ok answer, trace, arena'⟩ := by
  obtain ⟨round, trace, arena', ran, backed', turns⟩ := round_turns lends isWord backed layout
  rcases round with block | _ | _
  · refine ⟨_, _, _, backed', turns, fun rounds => ?_⟩
    rw [allocWithin, Act.run_bind_of_ok ran]
    simp
  · refine ⟨_, _, _, backed', turns, fun rounds => ?_⟩
    rw [allocWithin, Act.run_bind_of_ok ran]
    simp
  · obtain ⟨head, older, nodes, below, fits, course⟩ := turns
    refine ⟨_, _, _, backed'.carved nodes fits, course, fun rounds => ?_⟩
    rw [allocWithin, Act.run_bind_of_ok ran]
    simp only [run_allocWithin_of_room nodes (backed'.room lends nodes).1 below fits, Outcome.after_mk, List.append_nil]

theorem alloc_course (lends : backing.LendsBelow limit Out) (isWord : limit < Word.limit) (backed : arena.Backed Out)
    (layout : Layout) :
    (alloc backing layout).Ends arena fun answer trace arena' =>
      arena'.Backed Out ∧ Course backing layout arena answer trace arena' := by
  obtain ⟨answer, trace, arena', backed', course, ran⟩ := exists_course lends isWord backed layout
  exact ⟨answer, trace, arena', ran 0, backed', course⟩

theorem Course.config_eq {arena' : Arena σ} {answer : Except ArenaError Block} {trace : Trace}
    (course : Course backing layout arena answer trace arena') : arena'.config = arena.config := by
  cases course with
  | fits | unplaced | grown | linked | refused => rfl

/-- A served request carves its block from a head that has room for it. -/
theorem Course.exists_roomy {arena' : Arena σ} {block : Block} {trace : Trace}
    (course : Course backing layout arena (.ok block) trace arena') :
    ∃ roomy, arena.toChain.MakesRoom arena.config layout roomy ∧ roomy.Carves layout block arena'.toChain := by
  cases course with
  | @fits head older nodes room =>
    have chain : arena.toChain = ⟨head :: older, arena.cursor⟩ := by rw [← nodes]
    refine ⟨arena.toChain, ?_, Chain.carves_of_fits nodes room⟩
    rw [chain]
    exact .fits room
  | @grown head longer older _ _ nodes full asked base len =>
    have chain : arena.toChain = ⟨head :: older, arena.cursor⟩ := by rw [← nodes]
    have start : longer.start arena.cursor layout.align = head.start arena.cursor layout.align := by
      rw [Node.start, Node.start, base]
    have carving : longer.carving arena.cursor layout = head.carving arena.cursor layout := by
      rw [Node.carving, Node.carving, base, start]
    rw [Chain.reach_eq nodes] at len
    have carves : Chain.Carves layout ⟨longer :: older, arena.cursor⟩ (longer.carving arena.cursor layout)
        ⟨longer :: older, longer.start arena.cursor layout.align + layout.size⟩ := .head (by rw [Node.Fits, start, len])
    rw [carving, start, ← len] at carves
    refine ⟨_, ?_, carves⟩
    rw [chain]
    exact .grown full base len
  | linked stuck asked =>
    have long := Config.le_of_nodeLength? asked.len_eq
    exact ⟨_, .linked stuck.full asked.len_eq, .head (Node.fits_of_footprint_le (by omega))⟩

/-- A refused request leaves the chain as it was. -/
theorem Course.of_error {arena' : Arena σ} {error : ArenaError} {trace : Trace}
    (course : Course backing layout arena (.error error) trace arena') :
    error = .outOfMemory layout.size layout.align.bytes ∧ arena'.toChain = arena.toChain := by
  cases course with
  | unplaced | refused => exact ⟨rfl, rfl⟩

/-- Every request ends, over any backing that keeps its promise. -/
theorem alloc_ends (lends : backing.LendsNodes Out) (backed : arena.Backed Out) (layout : Layout) :
    (alloc backing layout).Ends arena fun answer _ arena' =>
      arena'.Backed Out ∧ arena'.config = arena.config ∧
      match answer with
      | .ok block => ∃ roomy, arena.toChain.MakesRoom arena.config layout roomy ∧
          roomy.Carves layout block arena'.toChain
      | .error error => error = .outOfMemory layout.size layout.align.bytes ∧ arena'.toChain = arena.toChain := by
  refine (alloc_course lends.lendsBelow_limit (by decide) backed layout).mono ?_
  rintro (error | block) _ arena' ⟨backed', course⟩
  · exact ⟨backed', course.config_eq, course.of_error⟩
  · exact ⟨backed', course.config_eq, course.exists_roomy⟩

end Arena
end BumpArena
