import Mathlib.Data.List.Forall2
import Mathlib.Logic.Function.Basic
import BumpArena.Proofs.Placing
import BumpArena.Proofs.Twins

/-!
A patron of an arena never looks at an address: it names its blocks, and asks only for operations on those that have
bytes. Two such patrons with the same wishes cannot tell where the backings put the nodes. As long as calls at the
same place in the two journals get the same answer, both get the same answers, with blocks at the same places. After
every wish the chains have nodes of the same lengths and the same cursor, and the journals mirror each other
(`Patron.serves_alike`).
-/
namespace BumpArena

/-- What a patron asks for. -/
inductive Wish where
  | alloc (name : Nat) (layout : Layout)
  | allocCopy (name : Nat) (bytes : List UInt8)
  | resize (name newSize : Nat)
  | remap (name newSize : Nat)
  | free (name : Nat)
  | reset (retention : Retention)
  deriving DecidableEq

namespace Wish

/-- No block is asked for that has to be aligned more than a node. -/
def Small : Wish → Prop
  | .alloc _ layout => layout.align.bytes ≤ nodeAlignment.bytes
  | _ => True

instance (wish : Wish) : Decidable wish.Small :=
  match wish with
  | .alloc _ layout => inferInstanceAs (Decidable (layout.align.bytes ≤ nodeAlignment.bytes))
  | .allocCopy _ _ | .resize _ _ | .remap _ _ | .free _ | .reset _ => isTrue trivial

/-- The name of the block that the wish is about. -/
def name? : Wish → Option Nat
  | .alloc name _ | .allocCopy name _ | .resize name _ | .remap name _ | .free name => some name
  | .reset _ => none

/-- What the wish comes to. A wish about a block that there is not, or that has no bytes, comes to nothing. -/
def operation? (held : Nat → Option Block) : Wish → Option Operation
  | .alloc _ layout => some (.alloc layout)
  | .allocCopy _ bytes => some (.allocCopy bytes)
  | .resize name newSize => ((held name).filter fun block => 0 < block.len).map (.resize · newSize)
  | .remap name newSize => ((held name).filter fun block => 0 < block.len).map (.remap · newSize)
  | .free name => ((held name).filter fun block => 0 < block.len).map .free
  | .reset retention => some (.reset retention)

/-- The blocks after the wish. A reset ends all of them. -/
def keep (wish : Wish) (held : Nat → Option Block) (returned : Option Block) : Nat → Option Block :=
  match wish.name? with
  | some name => Function.update held name returned
  | none => fun _ => none

end Wish

/-- What the patron sees of a wish: the answer, if it came to an operation, and the chain afterwards. -/
structure Notice where
  answer? : Option Answer
  chain : Chain

/-- An arena, the memory, and the blocks of the patron by their names. -/
structure Patron (σ : Type) extends Workspace σ where
  held : Nat → Option Block

namespace Patron

variable {σ τ α : Type}

def ofSource (s : σ) (memory : Memory) : Patron σ := ⟨⟨Arena.ofSource s, memory⟩, fun _ => none⟩

def onWorkspace (act : Act (Workspace σ) α) : Act (Patron σ) α :=
  act.zoom Patron.toWorkspace fun patron workspace => { patron with toWorkspace := workspace }

def attend (backing : Backing σ) (wish : Wish) : Act (Patron σ) Notice := do
  let patron ← get
  match wish.operation? patron.held with
  | none => return ⟨none, patron.arena.toChain⟩
  | some operation =>
    let answer ← onWorkspace (Workspace.operate backing operation)
    modify fun patron => { patron with held := wish.keep patron.held (operation.returned answer) }
    return ⟨some answer, (← get).arena.toChain⟩

def attendAll (backing : Backing σ) : List Wish → Act (Patron σ) (List Notice)
  | [] => return []
  | wish :: later => do
    let notice ← attend backing wish
    return notice :: (← attendAll backing later)

/-- Makes the arena ready, and then attends to one wish after the other. -/
def serve (backing : Backing σ) (settings : Settings) (wishes : List Wish) :
    Act (Patron σ) (Except ArenaError (List Notice)) := do
  match ← onWorkspace (Workspace.onArena (Arena.prepare backing settings)) with
  | .ok () => return .ok (← attendAll backing wishes)
  | .error error => return .error error

/-! ### One wish -/

/-- What a wish can come to. -/
inductive Attends (backing : Backing σ) (patron : Patron σ) (wish : Wish) : Notice → Patron σ → Prop where
  | idle (nothing : wish.operation? patron.held = none) :
    Attends backing patron wish ⟨none, patron.arena.toChain⟩ patron
  | done {operation : Operation} {answer : Answer} {workspace : Workspace σ}
    (asked : wish.operation? patron.held = some operation)
    (does : Arena.Does backing patron.arena operation answer workspace.arena) :
    Attends backing patron wish ⟨some answer, workspace.arena.toChain⟩
      { toWorkspace := workspace, held := wish.keep patron.held (operation.returned answer) }

theorem attend_attends {backing : Backing σ} {Out : σ → List Grant → Prop} {patron : Patron σ}
    (lends : backing.LendsNodes Out) (backed : patron.arena.Backed Out) (wish : Wish) :
    (attend backing wish).Ends patron fun notice _ patron' =>
      patron'.arena.Backed Out ∧ Attends backing patron wish notice patron' := by
  simp only [attend, Act.ends_bind, Act.ends_get]
  rcases asked : wish.operation? patron.held with _ | operation
  · simp only [Act.ends_pure]
    exact ⟨backed, .idle asked⟩
  · simp only [onWorkspace, Act.ends_bind, Act.ends_zoom, Act.ends_modify, Act.ends_get, Act.ends_pure]
    refine (Workspace.operate_does lends backed operation).mono ?_
    rintro answer _ workspace ⟨backed', does⟩
    exact ⟨backed', .done asked does⟩

variable {inner : Backing σ} {inner' : Backing τ}

theorem Attends.suffix {patron patron' : Patron (Ledger σ)} {wish : Wish} {notice : Notice}
    (attends : Attends (Ledger.backing inner) patron wish notice patron') :
    patron.arena.source.calls <:+ patron'.arena.source.calls := by
  cases attends with
  | idle => exact List.suffix_rfl
  | done _ does => exact does.suffix

/-- The arenas are twins, and blocks of the same name are at the same place. -/
structure Twins (patron : Patron (Ledger σ)) (patron' : Patron (Ledger τ)) : Prop where
  arena : patron.arena.Twins patron'.arena
  held : ∀ name,
    Option.Rel (patron.arena.toChain.SamePlace patron'.arena.toChain) (patron.held name) (patron'.held name)

end Patron

/-- The same answer, and the same chain but for addresses. -/
structure Notice.Alike (notice notice' : Notice) : Prop where
  chain : notice.chain.Alike notice'.chain
  answer : Option.Rel (Answer.Alike notice.chain notice'.chain) notice.answer? notice'.answer?

namespace Wish

variable {chain chain' : Chain} {held held' : Nat → Option Block} {wish : Wish}

/-- Only a reset is about no block. -/
theorem operation?_ne_reset {name : Nat} (about : wish.name? = some name) {operation : Operation}
    (asked : wish.operation? held = some operation) (retention : Retention) : operation ≠ .reset retention := by
  rintro rfl
  cases wish with
  | reset => simp [name?] at about
  | alloc | allocCopy | resize | remap | free => simp [operation?] at asked

/-- What relates the blocks afterwards: it relates those that come back and, but for a reset, all the others. -/
theorem keep_rel {related : Block → Block → Prop} {returned returned' : Option Block}
    (back : Option.Rel related returned returned')
    (others : ∀ mentioned, wish.name? = some mentioned → ∀ name, Option.Rel related (held name) (held' name))
    (name : Nat) : Option.Rel related (wish.keep held returned name) (wish.keep held' returned' name) := by
  rcases about : wish.name? with _ | mentioned
  · simp only [keep, about]
    exact .none
  · simp only [keep, about]
    by_cases same : name = mentioned
    · subst same
      rw [Function.update_self, Function.update_self]
      exact back
    · rw [Function.update_of_ne same, Function.update_of_ne same]
      exact others mentioned about name

theorem operation?_alike (small : wish.Small)
    (same : ∀ name, Option.Rel (chain.SamePlace chain') (held name) (held' name)) :
    Option.Rel (Operation.Alike chain chain') (wish.operation? held) (wish.operation? held') := by
  have named {operation : Block → Operation} {block? block?' : Option Block}
      (related : Option.Rel (chain.SamePlace chain') block? block?') (alike : ∀ {block block' : Block},
        chain.SamePlace chain' block block' → 0 < block.len → (operation block).Alike chain chain' (operation block')) :
      Option.Rel (Operation.Alike chain chain') ((block?.filter fun block => 0 < block.len).map operation)
        ((block?'.filter fun block => 0 < block.len).map operation) := by
    cases related with
    | none => exact .none
    | @some block block' seated =>
      simp only [Option.filter, seated.1]
      by_cases filled : 0 < block.len
      · simp only [filled, decide_true, ↓reduceIte, Option.map_some]
        exact .some (alike seated filled)
      · simp only [filled, decide_false, Bool.false_eq_true, ↓reduceIte, Option.map_none]
        exact .none
  cases wish with
  | alloc name layout => exact .some (.alloc small)
  | allocCopy name bytes => exact .some (.allocCopy bytes)
  | resize name newSize => exact named (same name) fun seated filled => .resize seated filled newSize
  | remap name newSize => exact named (same name) fun seated filled => .remap seated filled newSize
  | free name => exact named (same name) .free
  | reset retention => exact .some (.reset retention)

end Wish

namespace Patron

variable {σ τ : Type} {inner : Backing σ} {inner' : Backing τ} {patron next : Patron (Ledger σ)}
  {patron' next' : Patron (Ledger τ)} {wish : Wish} {notice notice' : Notice}

/-- A block that the wish is not about keeps its place. -/
theorem Attends.seats (attends : Attends (Ledger.backing inner) patron wish notice next)
    (sound : patron.arena.toChain.Sound) {name : Nat} (about : wish.name? = some name) (seat : Seat) (block : Block)
    (seats : patron.arena.toChain.Seats seat block) : next.arena.toChain.Seats seat block := by
  cases attends with
  | idle => exact seats
  | done asked does => exact does.seats sound (Wish.operation?_ne_reset about asked) seat block seats

theorem Attends.twins (attends : Attends (Ledger.backing inner) patron wish notice next)
    (attends' : Attends (Ledger.backing inner') patron' wish notice' next') (small : wish.Small)
    (twins : patron.Twins patron') (regular : patron.arena.toChain.Regular) (regular' : patron'.arena.toChain.Regular)
    (later : next.arena.toChain.Regular) (later' : next'.arena.toChain.Regular)
    (concur : Ledger.Concur next.arena.source.calls next'.arena.source.calls) :
    notice.Alike notice' ∧ next.Twins next' := by
  have stays (mentioned : Nat) (about : wish.name? = some mentioned) (name : Nat) :
      Option.Rel (next.arena.toChain.SamePlace next'.arena.toChain) (patron.held name) (patron'.held name) := by
    have related := twins.held name
    generalize patron.held name = block?, patron'.held name = block?' at related ⊢
    cases related with
    | none => exact .none
    | some same => exact .some (same.imp (attends.seats regular.toSound about) (attends'.seats regular'.toSound about))
  have alike := Wish.operation?_alike small twins.held
  cases attends with
  | idle nothing =>
    cases attends' with
    | idle => exact ⟨⟨twins.arena.alike, .none⟩, twins⟩
    | done asked =>
      rw [nothing, asked] at alike
      nomatch alike
  | done asked does =>
    cases attends' with
    | idle nothing =>
      rw [nothing, asked] at alike
      nomatch alike
    | done asked' does' =>
      rw [asked, asked'] at alike
      cases alike with
      | some alike =>
        obtain ⟨arena, answer, returned⟩ := does.twins does' alike twins.arena regular regular' later later' concur
        exact ⟨⟨arena.alike, .some answer⟩, arena, Wish.keep_rel returned stays⟩

/-! ### All wishes -/

/-- What the wishes can come to, one after the other. The arena keeps its invariant all the while. -/
inductive AttendsAll (backing : Backing σ) (Out : σ → List Grant → Prop) :
    List Wish → Patron σ → List Notice → Patron σ → Prop where
  | nil (patron : Patron σ) : AttendsAll backing Out [] patron [] patron
  | cons {wish : Wish} {later : List Wish} {patron next last : Patron σ} {notice : Notice} {notices : List Notice}
    (attends : Attends backing patron wish notice next) (backed : next.arena.Backed Out)
    (rest : AttendsAll backing Out later next notices last) :
    AttendsAll backing Out (wish :: later) patron (notice :: notices) last

theorem attendAll_attends {backing : Backing σ} {Out : σ → List Grant → Prop} {patron : Patron σ}
    (lends : backing.LendsNodes Out) (backed : patron.arena.Backed Out) (wishes : List Wish) :
    (attendAll backing wishes).Ends patron fun notices _ last => AttendsAll backing Out wishes patron notices last := by
  induction wishes generalizing patron with
  | nil => exact (Act.ends_pure ..).mpr (.nil patron)
  | cons wish later ih =>
    rw [attendAll, Act.ends_bind]
    refine (attend_attends lends backed wish).mono ?_
    rintro notice _ next ⟨backed', attends⟩
    rw [Act.ends_bind]
    refine (ih backed').mono ?_
    intro notices _ last rest
    exact (Act.ends_pure ..).mpr (.cons attends backed' rest)

/-- What a run can come to: the arena is not made ready, or it attends to all wishes. -/
inductive Serves (backing : Backing σ) (Out : σ → List Grant → Prop) (settings : Settings) (wishes : List Wish)
    (patron : Patron σ) : Except ArenaError (List Notice) → Patron σ → Prop where
  | refused {error : ArenaError} {arena : Arena σ}
    (begins : Arena.Begins backing settings patron.arena (.error error) arena) :
    Serves backing Out settings wishes patron (.error error) { patron with arena }
  | served {arena : Arena σ} {notices : List Notice} {last : Patron σ}
    (begins : Arena.Begins backing settings patron.arena (.ok ()) arena) (backed : arena.Backed Out)
    (all : AttendsAll backing Out wishes { patron with arena } notices last) :
    Serves backing Out settings wishes patron (.ok notices) last

theorem serve_serves {backing : Backing σ} {Out : σ → List Grant → Prop} (lends : backing.LendsNodes Out) {s : σ}
    (out : Out s []) (memory : Memory) (settings : Settings) (wishes : List Wish) :
    (serve backing settings wishes).Ends (ofSource s memory) fun result _ last =>
      Serves backing Out settings wishes (ofSource s memory) result last := by
  simp only [serve, onWorkspace, Workspace.onArena, Act.ends_bind, Act.ends_zoom]
  refine (Arena.prepare_begins lends out rfl settings).mono ?_
  rintro (error | _) _ arena ⟨backed, begins⟩
  · exact (Act.ends_pure ..).mpr (.refused begins)
  · simp only [Act.ends_bind, Act.ends_pure]
    exact (attendAll_attends lends backed wishes).mono fun _ _ _ all => .served begins backed all

section

variable {Out : Ledger σ → List Grant → Prop} {Out' : Ledger τ → List Grant → Prop} {wishes : List Wish}
  {notices notices' : List Notice} {last : Patron (Ledger σ)} {last' : Patron (Ledger τ)}

theorem AttendsAll.suffix (all : AttendsAll (Ledger.backing inner) Out wishes patron notices last) :
    patron.arena.source.calls <:+ last.arena.source.calls := by
  induction all with
  | nil => exact List.suffix_rfl
  | cons attends _ _ ih => exact attends.suffix.trans ih

theorem AttendsAll.twins (lends : (Ledger.backing inner).LendsEvenly Out)
    (lends' : (Ledger.backing inner').LendsEvenly Out')
    (all : AttendsAll (Ledger.backing inner) Out wishes patron notices last)
    (all' : AttendsAll (Ledger.backing inner') Out' wishes patron' notices' last') (small : ∀ wish ∈ wishes, wish.Small)
    (twins : patron.Twins patron') (backed : patron.arena.Backed Out) (backed' : patron'.arena.Backed Out')
    (concur : Ledger.Concur last.arena.source.calls last'.arena.source.calls) :
    List.Forall₂ Notice.Alike notices notices' ∧ last.Twins last' := by
  induction all generalizing patron' notices' with
  | nil =>
    cases all' with
    | nil => exact ⟨.nil, twins⟩
  | cons attends next rest ih =>
    cases all' with
    | cons attends' next' rest' =>
      obtain ⟨first, others⟩ := List.forall_mem_cons.mp small
      obtain ⟨alike, between⟩ := attends.twins attends' first twins (backed.regular lends) (backed'.regular lends')
        (next.regular lends) (next'.regular lends') (concur.of_suffix rest.suffix rest'.suffix)
      obtain ⟨later, ended⟩ := ih rest' others between next next' concur
      exact ⟨.cons alike later, ended⟩

end

/-- A patron does not see where the backing puts the nodes. Two backings lay their blocks evenly and give the same
    answer to calls at the same place in their journals. Then two runs of the same wishes end with the same answers,
    blocks at the same places, and chains that are alike after every wish; and the journals mirror each other, node by
    node. -/
theorem serves_alike {Out : σ → List Grant → Prop} {Out' : τ → List Grant → Prop} (lends : inner.LendsEvenly Out)
    (lends' : inner'.LendsEvenly Out') {s : σ} {s' : τ} (out : Out s []) (out' : Out' s' []) (memory memory' : Memory)
    (settings : Settings) (wishes : List Wish) (small : ∀ wish ∈ wishes, wish.Small) :
    (serve (Ledger.backing inner) settings wishes).Ends (ofSource ⟨s, []⟩ memory) fun result _ last =>
      (serve (Ledger.backing inner') settings wishes).Ends (ofSource ⟨s', []⟩ memory') fun result' _ last' =>
        Ledger.Concur last.arena.source.calls last'.arena.source.calls →
          (match result, result' with
            | .ok notices, .ok notices' => List.Forall₂ Notice.Alike notices notices'
            | .error error, .error error' => error' = error
            | _, _ => False) ∧
          last.arena.Twins last'.arena := by
  have journal := Ledger.lendsEvenly lends
  have journal' := Ledger.lendsEvenly lends'
  refine (serve_serves journal.toObeys (Ledger.lent_nil out) memory settings wishes).mono ?_
  intro result _ last serves
  refine (serve_serves journal'.toObeys (Ledger.lent_nil out') memory' settings wishes).mono ?_
  intro result' _ last' serves' concur
  have start : (Arena.ofSource (⟨s, []⟩ : Ledger σ)).Twins (Arena.ofSource (⟨s', []⟩ : Ledger τ)) :=
    ⟨⟨rfl, rfl⟩, rfl, .nil⟩
  cases serves with
  | refused begins =>
    cases serves' with
    | refused begins' =>
      obtain ⟨same, twins⟩ := begins.twins begins' start concur
      exact ⟨Except.error.inj same, twins⟩
    | served begins' _ all' =>
      obtain ⟨same, _⟩ := begins.twins begins' start (concur.of_suffix List.suffix_rfl all'.suffix)
      contradiction
  | served begins backed all =>
    cases serves' with
    | refused begins' =>
      obtain ⟨same, _⟩ := begins.twins begins' start (concur.of_suffix all.suffix List.suffix_rfl)
      contradiction
    | served begins' backed' all' =>
      obtain ⟨_, twins⟩ := begins.twins begins' start (concur.of_suffix all.suffix all'.suffix)
      obtain ⟨alike, ended⟩ := all.twins journal journal' all' small ⟨twins, fun _ => .none⟩ backed backed' concur
      exact ⟨alike, ended.arena⟩

/-- A node is linked behind the first one, a block on top and one below it are resized, and a reset replaces both
    nodes. -/
def rounds : List Wish :=
  [.alloc 0 ⟨40, .one, by decide⟩, .allocCopy 1 [1, 2, 3], .resize 1 8, .alloc 2 ⟨300, .sixteen, by decide⟩,
    .remap 0 10, .free 2, .reset .capacity, .alloc 3 ⟨100, .sixteen, by decide⟩]

/-- Two heaps in different places. -/
theorem heap_serves_alike :
    ∃ Out : Heap → List Grant → Prop, ∃ heap heap' : Heap, heap.next ≠ heap'.next ∧
      Heap.backing.LendsEvenly Out ∧ Out heap [] ∧ Out heap' [] ∧ (∀ wish ∈ rounds, wish.Small) ∧
      (serve (Ledger.backing Heap.backing) (.withInitialCapacity 64) rounds).Ends (ofSource ⟨heap, []⟩ .zero)
        fun _ _ last =>
          (serve (Ledger.backing Heap.backing) (.withInitialCapacity 64) rounds).Ends (ofSource ⟨heap', []⟩ .zero)
            fun _ _ last' => Ledger.Concur last.arena.source.calls last'.arena.source.calls ∧
              last.arena.Twins last'.arena := by
  have lends : Heap.backing.LendsEvenly fun heap grants =>
      heap.Low grants ∧ ∀ grant ∈ grants, grant.align = nodeAlignment := by
    refine Heap.lendsNodes_low.lendsEvenly (fun low => low.aligned) ?_
    intro heap grants low grant listed
    have below := low.finish_le grant listed
    have room : Heap.ceiling + nodeAlignment.bytes ≤ Word.limit := by decide
    omega
  have low : (Heap.ofSize 4096).Low [] := Heap.low_ofSize (by decide)
  have low' : Heap.Low ⟨Heap.base + 4096, Heap.base + 9000⟩ [] :=
    ⟨⟨by decide, .nil, by simp, by simp, by simp⟩, by decide, by simp⟩
  have small : ∀ wish ∈ rounds, wish.Small := by decide
  have answers :
      ((serve (Ledger.backing Heap.backing) (.withInitialCapacity 64) rounds).run
        (ofSource ⟨⟨Heap.base + 4096, Heap.base + 9000⟩, []⟩ .zero)).state.arena.source.calls.map Call.answer? =
      ((serve (Ledger.backing Heap.backing) (.withInitialCapacity 64) rounds).run
        (ofSource ⟨Heap.ofSize 4096, []⟩ .zero)).state.arena.source.calls.map Call.answer? := by
    decide +kernel
  obtain ⟨result, trace, last, ran, result', trace', last', ran', alike⟩ :=
    serves_alike lends lends ⟨low, by simp⟩ ⟨low', by simp⟩ .zero .zero (.withInitialCapacity 64) rounds small
  rw [ran, ran'] at answers
  have concur := Ledger.Concur.of_answers_eq answers
  refine ⟨_, _, _, by decide, lends, ⟨low, by simp⟩, ⟨low', by simp⟩, small, ?_⟩
  exact ⟨result, trace, last, ran, result', trace', last', ran', concur, (alike concur).2⟩

end Patron
end BumpArena
