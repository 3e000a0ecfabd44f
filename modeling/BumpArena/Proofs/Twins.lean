import BumpArena.Proofs.Mirroring
import BumpArena.Proofs.Operations
import BumpArena.Proofs.Topmost

/-!
Two arenas whose nodes lie at different places. Their chains are alike (`Chain.Alike`) if they have nodes of the same
lengths and the same cursor, and two blocks are at the same place (`Chain.SamePlace`) if they have the same length and
one seat. Then an operation comes to the same in both arenas, as long as their backings give the same answers
(`Does.twins`). This rests on two facts. Nodes lie at multiples of their alignment, so the padding before a block
depends on the cursor alone; and a block with bytes is at the top exactly if its seat says so.
-/
namespace BumpArena

/-- The promise of a backing whose blocks all lie at multiples of the alignment of a node and end that far before
    `Word.limit`. -/
structure Backing.LendsEvenly {σ : Type} (backing : Backing σ) (Out : σ → List Grant → Prop) : Prop extends
    Obeys backing (fun layout => layout.align = nodeAlignment) Out where
  aligned : ∀ {s grants}, Out s grants → ∀ grant ∈ grants, nodeAlignment.bytes ∣ grant.block.addr
  finish_le : ∀ {s grants}, Out s grants → ∀ grant ∈ grants, grant.block.finish + nodeAlignment.bytes ≤ Word.limit

/-- An arena asks for blocks that are aligned as nodes are, so it is enough that every block is aligned as it was asked
    for. -/
theorem Backing.LendsNodes.lendsEvenly {σ : Type} {backing : Backing σ} {Out : σ → List Grant → Prop}
    (lends : backing.LendsNodes Out)
    (aligned : ∀ {s grants}, Out s grants → ∀ grant ∈ grants, grant.align.bytes ∣ grant.block.addr)
    (finish_le : ∀ {s grants}, Out s grants → ∀ grant ∈ grants,
      grant.block.finish + nodeAlignment.bytes ≤ Word.limit) :
    backing.LendsEvenly fun s grants => Out s grants ∧ ∀ grant ∈ grants, grant.align = nodeAlignment where
  spread out := lends.spread out.1
  below out := lends.below out.1
  aligned out grant listed := out.2 grant listed ▸ aligned out.1 grant listed
  finish_le out := finish_le out.1
  allocate := by
    rintro s grants layout ⟨out, even⟩ asked
    refine (lends.allocate out asked).mono ?_
    rintro (refusal | block) _ s' kept
    · exact ⟨kept, even⟩
    · exact ⟨kept, List.forall_mem_cons.mpr ⟨asked, even⟩⟩
  resizeInPlace := by
    rintro s before after layout addr newSize ⟨out, even⟩ asked
    refine (lends.resizeInPlace newSize out asked).mono ?_
    intro granted _ s' kept
    refine ⟨kept, ?_⟩
    obtain ⟨front, behind⟩ := List.forall_mem_append.mp even
    obtain ⟨_, behind⟩ := List.forall_mem_cons.mp behind
    refine List.forall_mem_append.mpr ⟨front, List.forall_mem_cons.mpr ⟨?_, behind⟩⟩
    cases granted with
    | true => exact asked
    | false => exact asked
  release := by
    rintro s before after layout addr ⟨out, even⟩ asked
    refine (lends.release out asked).mono ?_
    intro _ _ s' kept
    obtain ⟨front, behind⟩ := List.forall_mem_append.mp even
    exact ⟨kept, List.forall_mem_append.mpr ⟨front, (List.forall_mem_cons.mp behind).2⟩⟩

theorem Ledger.lendsEvenly {σ : Type} {inner : Backing σ} {Out : σ → List Grant → Prop}
    (lends : inner.LendsEvenly Out) :
    (backing inner).LendsEvenly (Lent Out) where
  toObeys := lendsNodes lends.toObeys
  aligned lent := lends.aligned lent.out
  finish_le lent := lends.finish_le lent.out

/-! ### Chains -/

namespace Chain

/-- The nodes of the chain lie as even backings lay them. -/
structure Regular (chain : Chain) : Prop extends chain.Sound where
  aligned : ∀ node ∈ chain.nodes, nodeAlignment.bytes ∣ node.base
  finish_le : ∀ node ∈ chain.nodes, node.base + node.len + nodeAlignment.bytes ≤ Word.limit

/-- The chains have equally many nodes of the same lengths and the same cursor. -/
structure Alike (chain chain' : Chain) : Prop where
  cursor : chain'.cursor = chain.cursor
  lengths : chain'.nodes.map Node.len = chain.nodes.map Node.len

/-- The blocks have the same length and lie at the same place of the two chains. -/
def SamePlace (chain chain' : Chain) (block block' : Block) : Prop :=
  block'.len = block.len ∧ ∃ seat, chain.Seats seat block ∧ chain'.Seats seat block'

variable {chain chain' : Chain} {head head' : Node} {older older' : List Node} {layout : Layout} {block block' : Block}
  {seat : Seat}

/-- The padding before a block depends on the cursor alone. -/
theorem Regular.start_eq (regular : chain.Regular) {node : Node} (listed : node ∈ chain.nodes) {align : Alignment}
    (small : align.bytes ≤ nodeAlignment.bytes) (cursor : Nat) : node.start cursor align = align.roundUp cursor := by
  have divides : align.bytes ∣ node.base :=
    Nat.dvd_trans (Alignment.bytes_dvd_of_le small) (regular.aligned node listed)
  rw [Node.start, Alignment.roundUp_add divides, Nat.add_sub_cancel_left]

theorem Regular.places (regular : chain.Regular) (nodes : chain.nodes = head :: older)
    (small : layout.align.bytes ≤ nodeAlignment.bytes) : head.Places chain.cursor layout := by
  have below := regular.finish_le head (by simp [nodes])
  obtain ⟨cursor_le, _⟩ := regular.head_room nodes
  constructor
  · -- The last multiple below the limit is no nearer to it than the alignment.
    have last : layout.align.bytes ∣ Word.limit - nodeAlignment.bytes :=
      Nat.dvd_sub layout.align.bytes_dvd_limit (Alignment.bytes_dvd_of_le small)
    have rounded : layout.align.roundUp (head.base + chain.cursor) ≤ Word.limit - nodeAlignment.bytes :=
      Alignment.roundUp_le last (by omega)
    have positive := nodeAlignment.bytes_pos
    have isWord : 0 < Word.limit := by decide
    rw [Node.base_add_start]
    omega
  · have start := head.start_lt chain.cursor layout.align
    have inNode := head.fits
    have inLayout := layout.fits
    have whole : Word.limit = Word.half + Word.half := by decide
    omega

namespace Alike

theorem symm (alike : chain.Alike chain') : chain'.Alike chain := ⟨alike.cursor.symm, alike.lengths.symm⟩

theorem length_eq (alike : chain.Alike chain') : chain'.nodes.length = chain.nodes.length :=
  Node.length_eq_of_lens alike.lengths

theorem exists_nodes (alike : chain.Alike chain') (nodes : chain.nodes = head :: older) :
    ∃ head' older', chain'.nodes = head' :: older' ∧ head'.len = head.len ∧
      older'.map Node.len = older.map Node.len := by
  have lengths := alike.lengths
  rw [nodes] at lengths
  rcases nodes' : chain'.nodes with _ | ⟨head', older'⟩
  · simp [nodes'] at lengths
  · rw [nodes'] at lengths
    obtain ⟨len, rest⟩ := List.cons.inj lengths
    exact ⟨head', older', rfl, len, rest⟩

theorem nodes_nil (alike : chain.Alike chain') (empty : chain.nodes = []) : chain'.nodes = [] := by
  have none := alike.length_eq
  rw [empty] at none
  exact List.length_eq_zero_iff.mp none

theorem headLength_eq (alike : chain.Alike chain') : chain'.headLength = chain.headLength := by
  rcases nodes : chain.nodes with _ | ⟨head, older⟩
  · rw [headLength, headLength, nodes, alike.nodes_nil nodes]
  · obtain ⟨head', older', nodes', len, _⟩ := alike.exists_nodes nodes
    rw [headLength, headLength, nodes, nodes']
    exact len

theorem capacity_eq (alike : chain.Alike chain') : chain'.capacity = chain.capacity := by
  rw [Chain.capacity_eq, Chain.capacity_eq]
  exact congrArg List.sum alike.lengths

section

variable (alike : chain.Alike chain') (regular : chain.Regular) (regular' : chain'.Regular)
  (small : layout.align.bytes ≤ nodeAlignment.bytes)
include alike regular regular' small

theorem start_eq (nodes : chain.nodes = head :: older) (nodes' : chain'.nodes = head' :: older') :
    head'.start chain'.cursor layout.align = head.start chain.cursor layout.align := by
  have listed : head ∈ chain.nodes := by simp [nodes]
  have listed' : head' ∈ chain'.nodes := by simp [nodes']
  rw [regular.start_eq listed small, regular'.start_eq listed' small, alike.cursor]

theorem fits_iff (nodes : chain.nodes = head :: older) (nodes' : chain'.nodes = head' :: older') :
    head'.Fits chain'.cursor layout ↔ head.Fits chain.cursor layout := by
  obtain ⟨_, _, listed, len, _⟩ := alike.exists_nodes nodes
  obtain ⟨rfl, rfl⟩ := List.cons.inj (nodes'.symm.trans listed)
  rw [Node.Fits, Node.Fits, alike.start_eq regular regular' small nodes nodes', len]

theorem reach_eq : chain'.reach layout = chain.reach layout := by
  rcases nodes : chain.nodes with _ | ⟨head, older⟩
  · rw [reach, reach, nodes, alike.nodes_nil nodes]
  · obtain ⟨head', older', nodes', _⟩ := alike.exists_nodes nodes
    rw [Chain.reach_eq nodes, Chain.reach_eq nodes', alike.start_eq regular regular' small nodes nodes']

end

end Alike

/-! ### Blocks -/

theorem SamePlace.imp {after after' : Chain} (same : chain.SamePlace chain' block block')
    (stays : ∀ seat other, chain.Seats seat other → after.Seats seat other)
    (stays' : ∀ seat other, chain'.Seats seat other → after'.Seats seat other) :
    after.SamePlace after' block block' := by
  obtain ⟨len, seat, seats, seats'⟩ := same
  exact ⟨len, seat, stays seat block seats, stays' seat block' seats'⟩

/-- Blocks that are carved from the heads at the same offset. -/
theorem samePlace_of_head (nodes : chain.nodes = head :: older) (nodes' : chain'.nodes = head' :: older')
    (lengths : older'.map Node.len = older.map Node.len) {start start' size : Nat} (same : start' = start)
    (room : start + size ≤ head.len) (len : head'.len = head.len) :
    chain.SamePlace chain' ⟨head.base + start, size⟩ ⟨head'.base + start', size⟩ := by
  subst same
  have home := Node.length_eq_of_lens lengths
  exact ⟨rfl, ⟨older.length, start'⟩, ⟨[], head, older, nodes, rfl, rfl, room⟩,
    ⟨[], head', older', nodes', home, rfl, by rw [len]; exact room⟩⟩

/-- A block with bytes is at the top exactly if its seat is in the head and it ends at the cursor. -/
theorem tops_iff_of_seats (sound : chain.Sound) (seats : chain.Seats seat block) (bytes : 0 < block.len) :
    chain.Tops block ↔ seat.home + 1 = chain.nodes.length ∧ seat.offset + block.len = chain.cursor := by
  let lease : Lease := ⟨0, ⟨block, .one⟩, seat⟩
  have placed : chain.Seats lease.seat lease.block := seats
  -- A block with bytes is never taken for one that it only touches.
  have straight : ¬ lease.Strays chain := fun strays => Nat.ne_of_gt bytes strays.2.1
  exact (Lease.tops_iff sound placed).trans (or_iff_left straight)

theorem SamePlace.tops_iff (same : chain.SamePlace chain' block block') (alike : chain.Alike chain')
    (sound : chain.Sound)
    (sound' : chain'.Sound) (bytes : 0 < block.len) : chain'.Tops block' ↔ chain.Tops block := by
  obtain ⟨len, seat, seats, seats'⟩ := same
  rw [tops_iff_of_seats sound seats bytes, tops_iff_of_seats sound' seats' (len ▸ bytes), alike.length_eq, alike.cursor,
    len]

/-- A resize comes to the same in both chains. -/
theorem Resizes.alike {newSize : Nat} {granted granted' : Bool} {after after' : Chain}
    (resizes : chain.Resizes block newSize granted after) (resizes' : chain'.Resizes block' newSize granted' after')
    (alike : chain.Alike chain') (sound : chain.Sound) (sound' : chain'.Sound)
    (same : chain.SamePlace chain' block block') (bytes : 0 < block.len) :
    granted' = granted ∧ after.Alike after' ∧
      (granted → after.SamePlace after' { block with len := newSize } { block' with len := newSize }) := by
  have tops := same.tops_iff alike sound sound' bytes
  obtain ⟨len, seat, seats, seats'⟩ := same
  have fits : chain'.cursor - block'.len + newSize ≤ chain'.headLength ↔
      chain.cursor - block.len + newSize ≤ chain.headLength := by
    rw [alike.cursor, len, alike.headLength_eq]
  have settled : granted' = granted ∧ after.Alike after' := by
    cases resizes with
    | moved top room =>
      cases resizes' with
      | moved => exact ⟨rfl, by rw [alike.cursor, len], alike.lengths⟩
      | refused _ long => exact (long (fits.mpr room)).elim
      | elsewhere below => exact (below (tops.mpr top)).elim
    | refused top long =>
      cases resizes' with
      | moved _ room => exact (long (fits.mp room)).elim
      | refused => exact ⟨rfl, alike⟩
      | elsewhere below => exact (below (tops.mpr top)).elim
    | elsewhere below =>
      cases resizes' with
      | moved top => exact (below (tops.mp top)).elim
      | refused top => exact (below (tops.mp top)).elim
      | elsewhere => exact ⟨by rw [len], alike⟩
  obtain ⟨rfl, alike'⟩ := settled
  refine ⟨rfl, alike', fun yes => ⟨rfl, seat, ?_, ?_⟩⟩
  · have stays := resizes.seats sound seats yes
    rwa [reseat, if_neg (by omega)] at stays
  · have stays := resizes'.seats sound' seats' yes
    rwa [reseat, if_neg (by omega)] at stays

end Chain

/-- The answers are the same, with blocks at the same places. -/
inductive Answer.Alike (chain chain' : Chain) : Answer → Answer → Prop where
  | served {block block' : Block} (same : chain.SamePlace chain' block block') :
    Alike chain chain' (.served (.ok block)) (.served (.ok block'))
  | refused (error : ArenaError) : Alike chain chain' (.served (.error error)) (.served (.error error))
  | moved {block? block?' : Option Block} (same : Option.Rel (chain.SamePlace chain') block? block?') :
    Alike chain chain' (.moved block?) (.moved block?')
  | flag (granted : Bool) : Alike chain chain' (.flag granted) (.flag granted)
  | done : Alike chain chain' .done .done

/-! ### Requests -/

namespace Arena

variable {σ τ : Type} {inner : Backing σ} {inner' : Backing τ} {layout : Layout}

theorem Backed.regular {backing : Backing σ} {Out : σ → List Grant → Prop} {arena : Arena σ}
    (lends : backing.LendsEvenly Out) (backed : arena.Backed Out) : arena.toChain.Regular where
  toSound := backed.sound lends.toObeys
  aligned node listed := lends.aligned backed.out node.grant (List.mem_map_of_mem listed)
  finish_le node listed := lends.finish_le backed.out node.grant (List.mem_map_of_mem listed)

/-- The arenas differ in addresses only, and so do the calls that they have made. -/
structure Twins (arena : Arena (Ledger σ)) (arena' : Arena (Ledger τ)) : Prop where
  alike : arena.toChain.Alike arena'.toChain
  config : arena'.config = arena.config
  mirrors : Ledger.Mirrors arena.source.calls arena'.source.calls (pairs arena.nodes arena'.nodes)

/-- How a request goes on once a longer head was asked for. -/
inductive Proceeds (backing : Backing σ) (layout : Layout) (arena : Arena σ) (source : σ) :
    Bool → Except ArenaError Block → Arena σ → Prop where
  | grown {head longer : Node} {older : List Node} (nodes : arena.nodes = head :: older)
    (base : longer.base = head.base)
    (len : longer.len = arena.toChain.reach layout) :
    Proceeds backing layout arena source true (.ok (head.carving arena.cursor layout))
      { arena with nodes := longer :: older, cursor := longer.len, source }
  | linked {fresh : Node} {called : Trace} {source' : σ}
    (asked : AsksNode backing (arena.wanted? layout) source (some fresh) called source') :
    Proceeds backing layout arena source false (.ok (fresh.carving 0 layout))
      { arena with
        nodes := fresh :: arena.nodes
        cursor := fresh.start 0 layout.align + layout.size
        source := source' }
  | refused {called : Trace} {source' : σ}
    (asked : AsksNode backing (arena.wanted? layout) source none called source') :
    Proceeds backing layout arena source false (.error (.outOfMemory layout.size layout.align.bytes))
      { arena with source := source' }

/-- A request finds room in the head, or it asks for a longer head and goes on from there. -/
theorem Course.fits_or_proceeds {backing : Backing σ} {arena after : Arena σ} {answer : Except ArenaError Block}
    {trace : Trace} (course : Course backing layout arena answer trace after)
    (placed : ∀ head older, arena.nodes = head :: older → head.Places arena.cursor layout) :
    (∃ head older, arena.nodes = head :: older ∧ head.Fits arena.cursor layout ∧
      answer = .ok (head.carving arena.cursor layout) ∧
      after = { arena with cursor := head.start arena.cursor layout.align + layout.size }) ∨
    arena.toChain.Full layout ∧ ∃ granted called source,
      AsksHead backing arena.toChain (arena.toChain.reach layout) arena.source granted called source ∧
      Proceeds backing layout arena source granted answer after := by
  cases course with
  | @fits head older nodes room => exact .inl ⟨head, older, nodes, room, rfl, rfl⟩
  | unplaced nodes outside => exact (outside (placed _ _ nodes)).elim
  | @grown head longer older called source nodes full asked base len =>
    refine .inr ⟨?_, true, called, source, asked, .grown nodes base len⟩
    intro first behind listed
    obtain ⟨rfl, rfl⟩ := List.cons.inj (nodes.symm.trans listed)
    exact full
  | linked stuck asked => exact .inr ⟨stuck.full, false, _, _, stuck.asked, .linked asked⟩
  | refused stuck asked => exact .inr ⟨stuck.full, false, _, _, stuck.asked, .refused asked⟩

section

variable {arena after : Arena (Ledger σ)} {arena' after' : Arena (Ledger τ)} {answer answer' : Except ArenaError Block}
  {trace trace' : Trace}

theorem Course.suffix (course : Course (Ledger.backing inner) layout arena answer trace after) :
    arena.source.calls <:+ after.source.calls := by
  obtain ⟨resizes, allocations, calls, _⟩ := course.calls_eq
  rw [calls, ← List.append_assoc]
  exact List.suffix_append ..

theorem Proceeds.suffix {source : Ledger σ} {granted : Bool}
    (proceeds : Proceeds (Ledger.backing inner) layout arena source granted answer after) :
    source.calls <:+ after.source.calls := by
  cases proceeds with
  | grown => exact List.suffix_rfl
  | linked asked | refused asked => exact asked.suffix

section

variable (twins : arena.Twins arena') (regular : arena.toChain.Regular) (regular' : arena'.toChain.Regular)
  (small : layout.align.bytes ≤ nodeAlignment.bytes)
include twins regular regular' small

theorem Twins.fits {head head' : Node} {older older' : List Node} (nodes : arena.nodes = head :: older)
    (nodes' : arena'.nodes = head' :: older') (room : head.Fits arena.cursor layout) :
    Twins { arena with cursor := head.start arena.cursor layout.align + layout.size }
        { arena' with cursor := head'.start arena'.cursor layout.align + layout.size } ∧
      arena.toChain.SamePlace arena'.toChain (head.carving arena.cursor layout)
        (head'.carving arena'.cursor layout) := by
  obtain ⟨_, _, listed, len, lengths⟩ := twins.alike.exists_nodes nodes
  obtain ⟨rfl, rfl⟩ := List.cons.inj (nodes'.symm.trans listed)
  have start := twins.alike.start_eq regular regular' small nodes nodes'
  refine ⟨⟨⟨?_, twins.alike.lengths⟩, twins.config, twins.mirrors⟩, ?_⟩
  · dsimp only
    rw [start]
  · exact Chain.samePlace_of_head nodes nodes' lengths start room len

theorem Twins.grown {head head' longer longer' : Node} {older older' : List Node} {source : Ledger σ}
    {source' : Ledger τ}
    (nodes : arena.nodes = head :: older) (nodes' : arena'.nodes = head' :: older') (base : longer.base = head.base)
    (base' : longer'.base = head'.base) (len : longer.len = arena.toChain.reach layout)
    (len' : longer'.len = arena'.toChain.reach layout)
    (mirrors : Ledger.Mirrors source.calls source'.calls
      ((head.grant.resized (arena.toChain.reach layout), head'.grant.resized (arena.toChain.reach layout)) ::
        pairs older older')) :
    Twins { arena with nodes := longer :: older, cursor := longer.len, source }
        { arena' with nodes := longer' :: older', cursor := longer'.len, source := source' } ∧
      Chain.SamePlace ⟨longer :: older, longer.len⟩ ⟨longer' :: older', longer'.len⟩ (head.carving arena.cursor layout)
        (head'.carving arena'.cursor layout) := by
  obtain ⟨_, _, listed, _, lengths⟩ := twins.alike.exists_nodes nodes
  obtain ⟨rfl, rfl⟩ := List.cons.inj (nodes'.symm.trans listed)
  have start := twins.alike.start_eq regular regular' small nodes nodes'
  rw [twins.alike.reach_eq regular regular' small] at len'
  have same : longer'.len = longer.len := len'.trans len.symm
  rw [Node.grant_resized base len, Node.grant_resized base' len'] at mirrors
  refine ⟨⟨⟨same, ?_⟩, twins.config, mirrors⟩, ?_⟩
  · rw [List.map_cons, List.map_cons, same, lengths]
  · rw [Node.carving, Node.carving, ← base, ← base']
    refine Chain.samePlace_of_head rfl rfl lengths start ?_ same
    rw [len, Chain.reach_eq nodes]

end

theorem Twins.linked {fresh fresh' : Node} {source : Ledger σ} {source' : Ledger τ} (twins : arena.Twins arena')
    (room : fresh.Fits 0 layout) (start : fresh'.start 0 layout.align = fresh.start 0 layout.align)
    (len : fresh'.len = fresh.len)
    (mirrors : Ledger.Mirrors source.calls source'.calls
      ((fresh.grant, fresh'.grant) :: pairs arena.nodes arena'.nodes)) :
    let chain : Chain := ⟨fresh :: arena.nodes, fresh.start 0 layout.align + layout.size⟩
    let chain' : Chain := ⟨fresh' :: arena'.nodes, fresh'.start 0 layout.align + layout.size⟩
    Twins { arena with toChain := chain, source } { arena' with toChain := chain', source := source' } ∧
      chain.SamePlace chain' (fresh.carving 0 layout) (fresh'.carving 0 layout) := by
  refine ⟨⟨⟨?_, ?_⟩, twins.config, mirrors⟩, ?_⟩
  · dsimp only
    rw [start]
  · rw [List.map_cons, List.map_cons, len, twins.alike.lengths]
  · exact Chain.samePlace_of_head rfl rfl twins.alike.lengths start room len

/-- Twins serve a request at the same place, or neither of them does. -/
theorem Course.twins (course : Course (Ledger.backing inner) layout arena answer trace after)
    (course' : Course (Ledger.backing inner') layout arena' answer' trace' after') (twins : arena.Twins arena')
    (regular : arena.toChain.Regular) (regular' : arena'.toChain.Regular) (later : after.toChain.Regular)
    (later' : after'.toChain.Regular) (small : layout.align.bytes ≤ nodeAlignment.bytes)
    (concur : Ledger.Concur after.source.calls after'.source.calls) :
    after.Twins after' ∧ Answer.Alike after.toChain after'.toChain (.served answer) (.served answer') := by
  have placed head older (nodes : arena.nodes = head :: older) := regular.places nodes small
  have placed' head older (nodes : arena'.nodes = head :: older) := regular'.places nodes small
  rcases course.fits_or_proceeds placed with
    ⟨head, older, nodes, room, rfl, rfl⟩ | ⟨full, granted, _, source, asks, proceeds⟩
  · obtain ⟨head', older', nodes', _⟩ := twins.alike.exists_nodes nodes
    have room' := (twins.alike.fits_iff regular regular' small nodes nodes').mpr room
    rcases course'.fits_or_proceeds placed' with ⟨_, _, listed, _, rfl, rfl⟩ | ⟨full, _⟩
    · obtain ⟨rfl, rfl⟩ := List.cons.inj (nodes'.symm.trans listed)
      obtain ⟨twins', same⟩ := twins.fits regular regular' small nodes nodes' room
      exact ⟨twins', .served same⟩
    · exact absurd room' (full head' older' nodes')
  rcases course'.fits_or_proceeds placed' with
    ⟨head', _, nodes', room', _⟩ | ⟨_, granted', _, source', asks', proceeds'⟩
  · obtain ⟨head, older, nodes, _⟩ := twins.alike.symm.exists_nodes nodes'
    exact absurd ((twins.alike.fits_iff regular regular' small nodes nodes').mp room') (full head older nodes)
  -- Both heads are full, so both are asked to get longer, by the same length.
  rw [twins.alike.reach_eq regular regular' small] at asks'
  have wanted : arena'.wanted? layout = arena.wanted? layout := by
    rw [wanted?, wanted?, twins.config, twins.alike.headLength_eq]
  obtain ⟨rfl, mirrors⟩ := asks.mirrors asks' twins.alike.lengths twins.mirrors
    (concur.of_suffix proceeds.suffix proceeds'.suffix)
  cases proceeds with
  | grown nodes base len =>
    cases proceeds' with
    | grown nodes' base' len' =>
      obtain ⟨_, _, _, _, listed, listed', mirrors⟩ := mirrors
      obtain ⟨rfl, rfl⟩ := List.cons.inj (nodes.symm.trans listed)
      obtain ⟨rfl, rfl⟩ := List.cons.inj (nodes'.symm.trans listed')
      obtain ⟨twins', same⟩ := twins.grown regular regular' small nodes nodes' base base' len len' mirrors
      exact ⟨twins', .served same⟩
  | @linked fresh _ _ asked =>
    cases proceeds' with
    | @linked fresh' _ _ asked' =>
      obtain ⟨len, mirrors⟩ := asked.mirrors (wanted ▸ asked') mirrors concur
      have start : fresh'.start 0 layout.align = fresh.start 0 layout.align := by
        rw [later.start_eq List.mem_cons_self small, later'.start_eq List.mem_cons_self small]
      have long := Config.le_of_nodeLength? asked.len_eq
      obtain ⟨twins', same⟩ := twins.linked (Node.fits_of_footprint_le (by omega)) start (Option.some.inj len) mirrors
      exact ⟨twins', .served same⟩
    | refused asked' =>
      obtain ⟨lengths, _⟩ := asked.mirrors (wanted ▸ asked') mirrors concur
      contradiction
  | refused asked =>
    cases proceeds' with
    | linked asked' =>
      obtain ⟨lengths, _⟩ := asked.mirrors (wanted ▸ asked') mirrors concur
      contradiction
    | refused asked' =>
      obtain ⟨_, mirrors⟩ := asked.mirrors (wanted ▸ asked') mirrors concur
      exact ⟨⟨twins.alike, twins.config, mirrors⟩, .refused _⟩

end

/-! ### Resets -/

section

variable {oldest oldest' : Node} {left left' : List Node} {target : Nat} {ledger later : Ledger σ}
  {ledger' later' : Ledger τ} {granted kept kept' : Bool}

theorem Renews.suffix (renews : Renews (Ledger.backing inner) oldest target ledger granted kept left later) :
    ledger.calls <:+ later.calls := by
  cases renews with
  | resized => exact List.suffix_rfl
  | replaced asked gave | failed asked gave => exact asked.suffix.trans gave.suffix

theorem Retains.suffix (retains : Retains (Ledger.backing inner) oldest target ledger kept left later) :
    ledger.calls <:+ later.calls := by
  cases retains with
  | kept => exact List.suffix_rfl
  | renewed _ asked renews => exact asked.suffix.trans renews.suffix

/-- Oldest nodes of the same length come to the same in a reset to the same target. -/
theorem Retains.mirrors (retains : Retains (Ledger.backing inner) oldest target ledger kept left later)
    (retains' : Retains (Ledger.backing inner') oldest' target ledger' kept' left' later')
    (len : oldest'.len = oldest.len)
    (mirrors : Ledger.Mirrors ledger.calls ledger'.calls (pairs [oldest] [oldest']))
    (concur : Ledger.Concur later.calls later'.calls) :
    kept' = kept ∧ left'.map Node.len = left.map Node.len ∧
      Ledger.Mirrors later.calls later'.calls (pairs left left') := by
  have lengths : [oldest'].map Node.len = [oldest].map Node.len := congrArg (fun length => [length]) len
  cases retains with
  | kept same =>
    cases retains' with
    | kept => exact ⟨rfl, lengths, mirrors⟩
    | renewed other => exact (other (len.trans same)).elim
  | @renewed granted _ _ s _ _ other asked renews =>
    cases retains' with
    | kept same => exact (other (len.symm.trans same)).elim
    | @renewed granted' _ _ s' _ _ _ asked' renews' =>
      obtain ⟨rfl, mirrors⟩ :=
        asked.mirrors asked' lengths mirrors (concur.of_suffix renews.suffix renews'.suffix)
      cases renews with
      | @resized node base length =>
        cases renews' with
        | @resized node' base' length' =>
          obtain ⟨_, _, _, _, listed, listed', mirrors⟩ := mirrors
          obtain ⟨rfl, rfl⟩ := List.cons.inj listed
          obtain ⟨rfl, rfl⟩ := List.cons.inj listed'
          rw [Node.grant_resized base length, Node.grant_resized base' length'] at mirrors
          exact ⟨rfl, congrArg (fun length => [length]) (length'.trans length.symm), mirrors⟩
      | replaced granted gave =>
        cases renews' with
        | replaced granted' gave' =>
          obtain ⟨fresh, mirrors⟩ := granted.mirrors granted' mirrors (concur.of_suffix gave.suffix gave'.suffix)
          exact ⟨rfl, congrArg Option.toList fresh, gave.mirrors gave' lengths mirrors⟩
        | failed refused' gave' =>
          obtain ⟨fresh, _⟩ := granted.mirrors refused' mirrors (concur.of_suffix gave.suffix gave'.suffix)
          contradiction
      | failed refused gave =>
        cases renews' with
        | replaced granted' gave' =>
          obtain ⟨fresh, _⟩ := refused.mirrors granted' mirrors (concur.of_suffix gave.suffix gave'.suffix)
          contradiction
        | failed refused' gave' =>
          obtain ⟨_, mirrors⟩ := refused.mirrors refused' mirrors (concur.of_suffix gave.suffix gave'.suffix)
          exact ⟨rfl, rfl, gave.mirrors gave' lengths mirrors⟩

end

section

variable {arena after : Arena (Ledger σ)} {arena' after' : Arena (Ledger τ)} {retention : Retention} {kept kept' : Bool}

theorem Clears.suffix (clears : Clears (Ledger.backing inner) retention arena kept after) :
    arena.source.calls <:+ after.source.calls := by
  cases clears with
  | cleared _ gave => exact gave.suffix
  | settled _ _ gave retains => exact gave.suffix.trans retains.suffix

theorem Clears.twins (clears : Clears (Ledger.backing inner) retention arena kept after)
    (clears' : Clears (Ledger.backing inner') retention arena' kept' after') (twins : arena.Twins arena')
    (concur : Ledger.Concur after.source.calls after'.source.calls) : kept' = kept ∧ after.Twins after' := by
  have target : retention.target arena'.toChain.capacity = retention.target arena.toChain.capacity := by
    rw [twins.alike.capacity_eq]
  cases clears with
  | cleared none gave =>
    cases clears' with
    | cleared _ gave' =>
      have all :
          Ledger.Mirrors arena.source.calls arena'.source.calls ([] ++ (pairs arena.nodes arena'.nodes ++ [])) := by
        rw [List.nil_append, List.append_nil]
        exact twins.mirrors
      exact ⟨rfl, ⟨rfl, rfl⟩, twins.config, gave.mirrors gave' twins.alike.lengths all⟩
    | settled some => exact (some (target.trans none)).elim
  | settled some nodes gave retains =>
    cases clears' with
    | cleared none => exact (some (target.symm.trans none)).elim
    | settled _ nodes' gave' retains' =>
      -- All but the oldest nodes go back in pairs, and then the oldest pair alone is left.
      have lengths := twins.alike.lengths
      have mirrors := twins.mirrors
      rw [nodes, nodes', List.map_append, List.map_append] at lengths
      obtain ⟨rest, last⟩ := List.append_inj' lengths rfl
      rw [nodes, nodes', pairs_append rest, ← List.nil_append (_ ++ _)] at mirrors
      have single := gave.mirrors gave' rest mirrors
      rw [target] at retains'
      obtain ⟨rfl, left, mirrors⟩ := retains.mirrors retains' (List.cons.inj last).1 single concur
      exact ⟨rfl, ⟨rfl, left⟩, twins.config, mirrors⟩

end

/-! ### Operations -/

section

variable {arena after : Arena (Ledger σ)} {arena' after' : Arena (Ledger τ)}

/-- Twins are both made ready, or fail alike. -/
theorem Begins.twins {settings : Settings} {answer answer' : Except ArenaError Unit}
    (begins : Begins (Ledger.backing inner) settings arena answer after)
    (begins' : Begins (Ledger.backing inner') settings arena' answer' after') (twins : arena.Twins arena')
    (concur : Ledger.Concur after.source.calls after'.source.calls) : answer' = answer ∧ after.Twins after' := by
  cases begins with
  | invalid error =>
    cases begins' with
    | invalid error' =>
      obtain rfl := Except.error.inj (error.symm.trans error')
      exact ⟨rfl, twins⟩
    | bare valid | granted valid | refused valid => simp [error] at valid
  | bare valid none =>
    cases begins' with
    | invalid error => simp [error] at valid
    | bare valid' =>
      obtain rfl := Except.ok.inj (valid.symm.trans valid')
      exact ⟨rfl, ⟨twins.alike.cursor, twins.alike.lengths⟩, rfl, twins.mirrors⟩
    | granted _ filled | refused _ filled => exact (filled none).elim
  | granted valid filled asked =>
    cases begins' with
    | invalid error => simp [error] at valid
    | bare _ none => exact (filled none).elim
    | granted valid' _ asked' =>
      obtain rfl := Except.ok.inj (valid.symm.trans valid')
      obtain ⟨len, mirrors⟩ := asked.mirrors asked' twins.mirrors concur
      refine ⟨rfl, ⟨twins.alike.cursor, ?_⟩, rfl, mirrors⟩
      rw [List.map_cons, List.map_cons, Option.some.inj len, twins.alike.lengths]
    | refused _ _ refused' =>
      obtain ⟨len, _⟩ := asked.mirrors refused' twins.mirrors concur
      contradiction
  | refused valid filled refused =>
    cases begins' with
    | invalid error => simp [error] at valid
    | bare _ none => exact (filled none).elim
    | granted _ _ asked' =>
      obtain ⟨len, _⟩ := refused.mirrors asked' twins.mirrors concur
      contradiction
    | refused valid' _ refused' =>
      obtain rfl := Except.ok.inj (valid.symm.trans valid')
      obtain ⟨_, mirrors⟩ := refused.mirrors refused' twins.mirrors concur
      exact ⟨rfl, ⟨twins.alike.cursor, twins.alike.lengths⟩, rfl, mirrors⟩

end

end Arena

/-- The operations ask the same, and name blocks with bytes at the same place. No block is asked for that has to be
    aligned more than a node. -/
inductive Operation.Alike (chain chain' : Chain) : Operation → Operation → Prop where
  | alloc {layout : Layout} (small : layout.align.bytes ≤ nodeAlignment.bytes) :
    Alike chain chain' (.alloc layout) (.alloc layout)
  | allocCopy (bytes : List UInt8) : Alike chain chain' (.allocCopy bytes) (.allocCopy bytes)
  | resize {block block' : Block} (same : chain.SamePlace chain' block block') (filled : 0 < block.len)
    (newSize : Nat) :
    Alike chain chain' (.resize block newSize) (.resize block' newSize)
  | remap {block block' : Block} (same : chain.SamePlace chain' block block') (filled : 0 < block.len) (newSize : Nat) :
    Alike chain chain' (.remap block newSize) (.remap block' newSize)
  | free {block block' : Block} (same : chain.SamePlace chain' block block') (filled : 0 < block.len) :
    Alike chain chain' (.free block) (.free block')
  | reset (retention : Retention) : Alike chain chain' (.reset retention) (.reset retention)

/-- The block that a client has after the operation, if the operation was about one. -/
def Operation.returned : Operation → Answer → Option Block
  | .alloc _, .served answer => answer.toOption
  | .allocCopy _, .served answer => answer.toOption
  | .resize block newSize, .flag granted => some ((block.remapped newSize granted).getD block)
  | .remap block _, .moved block? => some (block?.getD block)
  | _, _ => none

namespace Arena

variable {σ τ : Type} {inner : Backing σ} {inner' : Backing τ} {arena after : Arena (Ledger σ)}
  {arena' after' : Arena (Ledger τ)} {operation operation' : Operation} {answer answer' : Answer}

theorem Does.suffix (does : Does (Ledger.backing inner) arena operation answer after) :
    arena.source.calls <:+ after.source.calls := by
  cases does with
  | alloc course | allocCopy _ course => exact course.suffix
  | overlong | resize | remap | free => exact List.suffix_rfl
  | reset clears => exact clears.suffix

/-- Blocks keep their seats but in a reset. -/
theorem Does.seats {backing : Backing σ} {arena after : Arena σ} (does : Does backing arena operation answer after)
    (sound : arena.toChain.Sound) (keeps : ∀ retention, operation ≠ .reset retention) (seat : Seat) (block : Block)
    (seats : arena.toChain.Seats seat block) : after.toChain.Seats seat block := by
  have carved {layout : Layout} {answer : Except ArenaError Block} {trace : Trace}
      (course : Course backing layout arena answer trace after) : after.toChain.Seats seat block := by
    rcases answer with error | served
    · rw [course.of_error.2]
      exact seats
    · obtain ⟨roomy, made, carves⟩ := course.exists_roomy
      exact carves.seats.2 seat block (made.seats seats)
  cases does with
  | alloc course | allocCopy _ course => exact carved course
  | overlong => exact seats
  | resize resizes | remap resizes | free resizes => exact seats.of_nodes_eq (resizes.keeps sound).2
  | reset => exact (keeps _ rfl).elim

theorem Twins.resized {block block' : Block} {newSize : Nat} {granted granted' : Bool} {chain chain' : Chain}
    (twins : arena.Twins arena') (resizes : arena.toChain.Resizes block newSize granted chain)
    (resizes' : arena'.toChain.Resizes block' newSize granted' chain') (sound : arena.toChain.Sound)
    (sound' : arena'.toChain.Sound) (same : arena.toChain.SamePlace arena'.toChain block block')
    (filled : 0 < block.len) :
    granted' = granted ∧ Twins { arena with toChain := chain } { arena' with toChain := chain' } ∧
      Option.Rel (chain.SamePlace chain') (block.remapped newSize granted) (block'.remapped newSize granted') ∧
      chain.SamePlace chain' ((block.remapped newSize granted).getD block)
        ((block'.remapped newSize granted').getD block') := by
  obtain ⟨rfl, alike, moved⟩ := resizes.alike resizes' twins.alike sound sound' same filled
  have nodes := (resizes.keeps sound).2
  have nodes' := (resizes'.keeps sound').2
  have mirrors := twins.mirrors
  rw [← nodes, ← nodes'] at mirrors
  refine ⟨rfl, ⟨alike, twins.config, mirrors⟩, ?_⟩
  cases granted' with
  | true => exact ⟨.some (moved rfl), moved rfl⟩
  | false =>
    have stays := same.imp (fun _ _ seats => seats.of_nodes_eq nodes) (fun _ _ seats => seats.of_nodes_eq nodes')
    exact ⟨.none, stays⟩

/-- An operation comes to the same in twins. -/
theorem Does.twins (does : Does (Ledger.backing inner) arena operation answer after)
    (does' : Does (Ledger.backing inner') arena' operation' answer' after')
    (alike : operation.Alike arena.toChain arena'.toChain operation') (twins : arena.Twins arena')
    (regular : arena.toChain.Regular) (regular' : arena'.toChain.Regular) (later : after.toChain.Regular)
    (later' : after'.toChain.Regular) (concur : Ledger.Concur after.source.calls after'.source.calls) :
    after.Twins after' ∧ Answer.Alike after.toChain after'.toChain answer answer' ∧
      Option.Rel (after.toChain.SamePlace after'.toChain) (operation.returned answer)
        (operation'.returned answer') := by
  have served {answer answer' : Except ArenaError Block}
      (alike : Answer.Alike after.toChain after'.toChain (.served answer) (.served answer')) :
      Option.Rel (after.toChain.SamePlace after'.toChain) answer.toOption answer'.toOption := by
    cases alike with
    | served same => exact .some same
    | refused => exact .none
  cases alike with
  | alloc small =>
    cases does with
    | alloc course =>
      cases does' with
      | alloc course' =>
        obtain ⟨twins', same⟩ := course.twins course' twins regular regular' later later' small concur
        exact ⟨twins', same, served same⟩
  | allocCopy bytes =>
    have small : Alignment.one.bytes ≤ nodeAlignment.bytes := by decide
    cases does with
    | allocCopy sized course =>
      cases does' with
      | allocCopy sized' course' =>
        obtain rfl := Option.some.inj (sized.symm.trans sized')
        rw [← (Layout.ofSize?_eq_some_iff.mp sized).2] at small
        obtain ⟨twins', same⟩ := course.twins course' twins regular regular' later later' small concur
        exact ⟨twins', same, served same⟩
      | overlong long => simp [sized] at long
    | overlong long =>
      cases does' with
      | allocCopy sized => simp [long] at sized
      | overlong => exact ⟨twins, .refused _, .none⟩
  | resize same filled newSize =>
    cases does with
    | resize resizes =>
      cases does' with
      | resize resizes' =>
        obtain ⟨rfl, twins', _, stays⟩ := twins.resized resizes resizes' regular.toSound regular'.toSound same filled
        exact ⟨twins', .flag _, .some stays⟩
  | remap same filled newSize =>
    cases does with
    | @remap _ _ granted _ resizes =>
      cases does' with
      | remap resizes' =>
        obtain ⟨rfl, twins', moved, stays⟩ :=
          twins.resized resizes resizes' regular.toSound regular'.toSound same filled
        exact ⟨twins', .moved moved, .some stays⟩
  | free same filled =>
    cases does with
    | free resizes =>
      cases does' with
      | free resizes' =>
        obtain ⟨rfl, twins', _⟩ := twins.resized resizes resizes' regular.toSound regular'.toSound same filled
        exact ⟨twins', .done, .none⟩
  | reset retention =>
    cases does with
    | reset clears =>
      cases does' with
      | reset clears' =>
        obtain ⟨rfl, twins'⟩ := clears.twins clears' twins concur
        exact ⟨twins', .flag _, .none⟩

end Arena
end BumpArena
