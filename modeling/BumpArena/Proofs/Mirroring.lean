import BumpArena.Proofs.Clearing

/-!
Two journals side by side. Calls at the same place in them get the same answer (`Ledger.Concur`), and the journals
mirror each other (`Ledger.Mirrors`) if they list the same calls with the same sizes, each for the block that the same
earlier call has granted. The calls that an arena makes keep this: for a longer head, for a fresh node and for the
release of nodes it asks two backings alike as long as its two chains have nodes of the same lengths.
-/
namespace BumpArena

/-! ### Journals -/

/-- Whether the call was granted, if it asks for something. -/
def Call.answer? : Call → Option Bool
  | granted _ => some true
  | refused _ => some false
  | resized _ _ answer => some answer
  | released _ => none

namespace Ledger

/-- The answer to the call before which there were `i` others. -/
def answerAt (calls : List Call) (i : Nat) : Option Bool := calls.reverse[i]?.bind Call.answer?

/-- No two calls at the same place got different answers. -/
def Concur (calls calls' : List Call) : Prop :=
  ∀ i answer answer', answerAt calls i = some answer → answerAt calls' i = some answer' → answer = answer'

/-- Later calls do not change the places of earlier ones. -/
theorem answerAt_of_suffix {earlier calls : List Call} (suffix : earlier <:+ calls) {i : Nat} {answer : Bool}
    (answered : answerAt earlier i = some answer) : answerAt calls i = some answer := by
  obtain ⟨later, rfl⟩ := suffix
  obtain ⟨call, found, _⟩ := Option.bind_eq_some_iff.mp answered
  have listed : i < earlier.reverse.length := (List.getElem?_eq_some_iff.mp found).1
  rw [answerAt, List.reverse_append, List.getElem?_append_left listed]
  exact answered

theorem answerAt_cons (call : Call) (earlier : List Call) :
    answerAt (call :: earlier) earlier.length = call.answer? := by
  simp [answerAt]

namespace Concur

variable {calls calls' earlier earlier' : List Call}

theorem of_suffix (concur : Concur calls calls') (suffix : earlier <:+ calls) (suffix' : earlier' <:+ calls') :
    Concur earlier earlier' := by
  intro i answer answer' answered answered'
  exact concur i answer answer' (answerAt_of_suffix suffix answered) (answerAt_of_suffix suffix' answered')

/-- The newest calls got the same answer if equally many came before them. -/
theorem answer_eq {call call' : Call} (concur : Concur (call :: earlier) (call' :: earlier'))
    (length : earlier'.length = earlier.length) {answer answer' : Bool} (answered : call.answer? = some answer)
    (answered' : call'.answer? = some answer') : answer' = answer := by
  refine (concur earlier.length answer answer' ?_ ?_).symm
  · rw [answerAt_cons, answered]
  · rw [← length, answerAt_cons, answered']

/-- Journals with the same answers in the same order. -/
theorem of_answers_eq (same : calls'.map Call.answer? = calls.map Call.answer?) : Concur calls calls' := by
  intro i answer answer' answered answered'
  have listed (calls : List Call) : answerAt calls i = (calls.map Call.answer?).reverse[i]?.join := by
    rw [answerAt, ← List.map_reverse, List.getElem?_map]
    cases calls.reverse[i]? with
    | none => rfl
    | some call => rfl
  rw [listed] at answered answered'
  rw [same, answered] at answered'
  exact Option.some.inj answered'

end Concur

/-- The journals list the same calls, with the same sizes and answers. The pairs are the blocks that are out, each with
    the one that the same call has granted; a call for a block is a call for the other one of its pair. -/
inductive Mirrors : List Call → List Call → List (Grant × Grant) → Prop where
  | nil : Mirrors [] [] []
  | granted {calls calls' : List Call} {pairs : List (Grant × Grant)} (mirrors : Mirrors calls calls' pairs)
    (layout : Layout) (addr addr' : Nat) :
    Mirrors (.granted (layout.grant addr) :: calls) (.granted (layout.grant addr') :: calls')
      ((layout.grant addr, layout.grant addr') :: pairs)
  | refused {calls calls' : List Call} {pairs : List (Grant × Grant)} (mirrors : Mirrors calls calls' pairs)
    (layout : Layout) : Mirrors (.refused layout :: calls) (.refused layout :: calls') pairs
  | resized {calls calls' : List Call} {before after : List (Grant × Grant)} {layout : Layout} {addr addr' : Nat}
    (mirrors : Mirrors calls calls' (before ++ (layout.grant addr, layout.grant addr') :: after)) (newSize : Nat) :
    Mirrors (.resized (layout.grant addr) newSize true :: calls) (.resized (layout.grant addr') newSize true :: calls')
      (before ++ ((layout.grant addr).resized newSize, (layout.grant addr').resized newSize) :: after)
  | kept {calls calls' : List Call} {before after : List (Grant × Grant)} {layout : Layout} {addr addr' : Nat}
    (mirrors : Mirrors calls calls' (before ++ (layout.grant addr, layout.grant addr') :: after)) (newSize : Nat) :
    Mirrors (.resized (layout.grant addr) newSize false :: calls)
      (.resized (layout.grant addr') newSize false :: calls')
      (before ++ (layout.grant addr, layout.grant addr') :: after)
  | released {calls calls' : List Call} {before after : List (Grant × Grant)} {layout : Layout} {addr addr' : Nat}
    (mirrors : Mirrors calls calls' (before ++ (layout.grant addr, layout.grant addr') :: after)) :
    Mirrors (.released (layout.grant addr) :: calls) (.released (layout.grant addr') :: calls') (before ++ after)

theorem Mirrors.length_eq {calls calls' : List Call} {pairs : List (Grant × Grant)}
    (mirrors : Mirrors calls calls' pairs) : calls'.length = calls.length := by
  induction mirrors with
  | nil => rfl
  | granted _ _ _ _ ih | refused _ _ ih | resized _ _ ih | kept _ _ ih | released _ ih =>
    rw [List.length_cons, List.length_cons, ih]

end Ledger

/-- Nodes of the same length have the same layout. -/
theorem Node.grant_eq_of_len {node node' : Node} (len : node'.len = node.len) :
    node'.grant = node.layout.grant node'.base := by
  obtain ⟨base, length, fits⟩ := node
  obtain ⟨base', length', fits'⟩ := node'
  subst len
  rfl

theorem Node.length_eq_of_lens {nodes nodes' : List Node} (lengths : nodes'.map Node.len = nodes.map Node.len) :
    nodes'.length = nodes.length := by
  have counted := congrArg List.length lengths
  rwa [List.length_map, List.length_map] at counted

/-- The grant of a node after its length was changed. -/
theorem Node.grant_resized {node other : Node} {length : Nat} (base : other.base = node.base)
    (len : other.len = length) :
    node.grant.resized length = other.grant := by
  simp only [Grant.resized, grant, Layout.grant, layout, base, len]

namespace Arena

variable {σ τ : Type} {inner : Backing σ} {inner' : Backing τ}

/-! ### Calls -/

/-- The grants of the nodes of two chains, node by node. -/
def pairs (nodes nodes' : List Node) : List (Grant × Grant) := (nodes.map Node.grant).zip (nodes'.map Node.grant)

theorem pairs_cons {nodes nodes' older older' : List Node} {head head' : Node} (listed : nodes = head :: older)
    (listed' : nodes' = head' :: older') : pairs nodes nodes' = (head.grant, head'.grant) :: pairs older older' := by
  rw [listed, listed']
  rfl

theorem pairs_append {newer newer' older older' : List Node} (lengths : newer'.map Node.len = newer.map Node.len) :
    pairs (newer ++ older) (newer' ++ older') = pairs newer newer' ++ pairs older older' := by
  rw [pairs, pairs, pairs, List.map_append, List.map_append]
  exact List.zip_append (by rw [List.length_map, List.length_map, Node.length_eq_of_lens lengths])

section

variable {ledger later : Ledger σ} {ledger' later' : Ledger τ} {called called' : Trace}
  {listed : List (Grant × Grant)}

/-- Heads of the same length are asked to get the same length, and both do or neither. -/
theorem AsksHead.mirrors {chain chain' : Chain} {length : Nat} {granted granted' : Bool}
    (asks : AsksHead (Ledger.backing inner) chain length ledger granted called later)
    (asks' : AsksHead (Ledger.backing inner') chain' length ledger' granted' called' later')
    (lengths : chain'.nodes.map Node.len = chain.nodes.map Node.len)
    (mirrors : Ledger.Mirrors ledger.calls ledger'.calls (pairs chain.nodes chain'.nodes))
    (concur : Ledger.Concur later.calls later'.calls) :
    granted' = granted ∧
      if granted then ∃ head older head' older', chain.nodes = head :: older ∧ chain'.nodes = head' :: older' ∧
        Ledger.Mirrors later.calls later'.calls
          ((head.grant.resized length, head'.grant.resized length) :: pairs older older')
      else Ledger.Mirrors later.calls later'.calls (pairs chain.nodes chain'.nodes) := by
  rcases asks.calls_cases with ⟨rfl, rfl, silent⟩ | ⟨head, older, nodes, sized, entry⟩
  · rcases asks'.calls_cases with ⟨rfl, rfl, _⟩ | ⟨head', older', nodes', sized', _⟩
    · exact ⟨rfl, mirrors⟩
    · rcases silent with empty | long
      · simp [empty, nodes'] at lengths
      · simp [long] at sized'
  · rcases asks'.calls_cases with ⟨rfl, rfl, silent⟩ | ⟨head', older', nodes', _, entry'⟩
    · rcases silent with empty | long
      · simp [empty, nodes] at lengths
      · simp [long] at sized
    · -- Equally many calls came before, so the two answers are at the same place.
      rw [entry, entry'] at concur ⊢
      obtain rfl : granted' = granted := concur.answer_eq mirrors.length_eq rfl rfl
      refine ⟨rfl, ?_⟩
      have len : head'.len = head.len := by
        rw [nodes, nodes'] at lengths
        exact (List.cons.inj lengths).1
      rw [pairs_cons nodes nodes', Node.grant_eq_of_len len] at mirrors
      rw [pairs_cons nodes nodes', Node.grant_eq_of_len len]
      have first : Ledger.Mirrors ledger.calls ledger'.calls
          ([] ++ (head.layout.grant head.base, head.layout.grant head'.base) :: pairs older older') := mirrors
      cases granted' with
      | false => exact first.kept length
      | true =>
        refine ⟨head, older, head', older', nodes, nodes', ?_⟩
        rw [Node.grant_eq_of_len len]
        exact first.resized length

/-- Nodes of the same length are asked for, and both are granted or neither. -/
theorem AsksNode.mirrors {length? : Option Nat} {node? node?' : Option Node}
    (asks : AsksNode (Ledger.backing inner) length? ledger node? called later)
    (asks' : AsksNode (Ledger.backing inner') length? ledger' node?' called' later')
    (mirrors : Ledger.Mirrors ledger.calls ledger'.calls listed)
    (concur : Ledger.Concur later.calls later'.calls) :
    node?'.map Node.len = node?.map Node.len ∧
      Ledger.Mirrors later.calls later'.calls (pairs node?.toList node?'.toList ++ listed) := by
  rcases asks.calls_cases with ⟨rfl, rfl, silent⟩ | ⟨length, layout, wanted, sized, made⟩
  · rcases asks'.calls_cases with ⟨rfl, rfl, _⟩ | ⟨length, _, wanted', sized', _⟩
    · exact ⟨rfl, mirrors⟩
    · simp [silent length wanted'] at sized'
  · rcases asks'.calls_cases with ⟨rfl, rfl, silent⟩ | ⟨length', layout', wanted', sized', made'⟩
    · simp [silent length wanted] at sized
    · obtain rfl := Option.some.inj (wanted.symm.trans wanted')
      obtain rfl := Option.some.inj (sized.symm.trans sized')
      rcases made with ⟨rfl, entry⟩ | ⟨fresh, rfl, rfl, entry⟩
      · rcases made' with ⟨rfl, entry'⟩ | ⟨fresh', rfl, _, entry'⟩
        · rw [entry, entry']
          exact ⟨rfl, .refused mirrors layout⟩
        · rw [entry, entry'] at concur
          exact absurd (concur.answer_eq mirrors.length_eq rfl rfl) (by decide)
      · rcases made' with ⟨rfl, entry'⟩ | ⟨fresh', rfl, same, entry'⟩
        · rw [entry, entry'] at concur
          exact absurd (concur.answer_eq mirrors.length_eq rfl rfl) (by decide)
        · have len : fresh'.len = fresh.len := congrArg Layout.size same
          have entered : Ledger.Mirrors later.calls later'.calls ((fresh.grant, fresh'.grant) :: listed) := by
            rw [entry, entry', Node.grant_eq_of_len len]
            exact .granted mirrors fresh.layout fresh.base fresh'.base
          exact ⟨congrArg some len, entered⟩

theorem GivesBack.suffix {nodes : List Node} (gives : GivesBack (Ledger.backing inner) nodes ledger called later) :
    ledger.calls <:+ later.calls := by
  induction gives with
  | nil => exact List.suffix_rfl
  | cons ran _ ih =>
    rw [Ledger.calls_of_run_release ran] at ih
    exact (List.suffix_cons ..).trans ih

/-- Nodes go back in pairs. -/
theorem GivesBack.mirrors {nodes nodes' : List Node} {before after : List (Grant × Grant)}
    (gives : GivesBack (Ledger.backing inner) nodes ledger called later)
    (gives' : GivesBack (Ledger.backing inner') nodes' ledger' called' later')
    (lengths : nodes'.map Node.len = nodes.map Node.len)
    (mirrors : Ledger.Mirrors ledger.calls ledger'.calls (before ++ (pairs nodes nodes' ++ after))) :
    Ledger.Mirrors later.calls later'.calls (before ++ after) := by
  induction gives generalizing nodes' ledger' called' with
  | nil =>
    obtain rfl : nodes' = [] := List.map_eq_nil_iff.mp lengths
    cases gives' with
    | nil => exact mirrors
  | @cons node _ _ _ _ _ _ ran rest ih =>
    cases gives' with
    | nil => contradiction
    | @cons node' _ _ _ _ _ _ ran' rest' =>
      obtain ⟨len, lengths⟩ := List.cons.inj lengths
      have released : node'.layout.grant node'.base = node.layout.grant node'.base := Node.grant_eq_of_len len
      refine ih rest' lengths ?_
      rw [pairs_cons rfl rfl, Node.grant_eq_of_len len, List.cons_append] at mirrors
      rw [Ledger.calls_of_run_release ran, Ledger.calls_of_run_release ran', released]
      exact mirrors.released

end

end Arena
end BumpArena
