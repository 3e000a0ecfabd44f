import BumpArena.Proofs.Blocks
import BumpArena.Region.SpanMap

/-!
Spans as sets of numbers. A map covers the numbers of its spans (`SpanMap.Covers`), and its spans keep a distance
from each other (`SpanMap.Spaced`): none if they only share no number, one if no two of them touch. What an
operation does to a map is said by what it does to these two. Putting a span in merged keeps the distance of one
whatever the span touches (`Spaced.insertMerged`), and a map whose spans keep it is known from the numbers that it
covers (`Spaced.eq_of_covers`).
-/
namespace BumpArena

namespace Span

instance : Membership Nat Span := ⟨fun span number => span.start ≤ number ∧ number < span.stop⟩

theorem mem_iff {span : Span} {number : Nat} :
    number ∈ span ↔ span.start ≤ number ∧ number < span.start + span.len := Iff.rfl

@[simp] theorem mem_mk {start len number : Nat} :
    number ∈ (⟨start, len⟩ : Span) ↔ start ≤ number ∧ number < start + len := Iff.rfl

@[simp] theorem stop_mk (start len : Nat) : (⟨start, len⟩ : Span).stop = start + len := rfl

/-- At least `distance` numbers lie between the spans. -/
def Clear (distance : Nat) (a b : Span) : Prop := a.stop + distance ≤ b.start ∨ b.stop + distance ≤ a.start

/-- The span lies inside another one. -/
def Within (a b : Span) : Prop := b.start ≤ a.start ∧ a.stop ≤ b.stop

variable {a b inner : Span} {distance : Nat}

theorem Clear.symm (clear : a.Clear distance b) : b.Clear distance a := Or.symm clear

theorem Clear.within (clear : a.Clear distance b) (within : inner.Within b) : a.Clear distance inner := by
  unfold Clear Within at *
  omega

theorem Clear.not_mem (clear : a.Clear distance b) {number : Nat} (inside : number ∈ a) : number ∉ b := by
  intro inside'
  rw [mem_iff] at inside inside'
  unfold Clear stop at clear
  omega

theorem not_mem_of_empty (none : a.len = 0) (number : Nat) : number ∉ a := by
  rw [mem_iff]
  omega

theorem Within.antisymm (within : a.Within b) (within' : b.Within a) : a = b := by
  obtain ⟨start, len⟩ := a
  obtain ⟨start', len'⟩ := b
  unfold Within stop at *
  dsimp only at *
  rw [mk.injEq]
  omega

/-- Spans without a common number are clear of each other. -/
theorem clear_of_not_mem (filled : 0 < a.len) (filled' : 0 < b.len) (apart : ∀ number ∈ a, number ∉ b) :
    a.Clear 0 b := by
  by_contra overlap
  unfold Clear stop at overlap
  have common := apart (max a.start b.start)
  rw [mem_iff, mem_iff] at common
  omega

end Span

namespace SpanMap

theorem mem_insert {map : SpanMap} {span other : Span} :
    other ∈ (map.insert span).spans ↔ other = span ∨ other ∈ map.spans ∧ other.start ≠ span.start := by
  obtain ⟨start, len⟩ := other
  rw [← find?_eq_some_iff, ← find?_eq_some_iff, find?_insert, Span.mk.injEq]
  by_cases same : span.start = start
  · simp [same, eq_comm]
  · simp [same, Ne.symm same]

theorem mem_erase {map : SpanMap} {start : Nat} {other : Span} :
    other ∈ (map.erase start).spans ↔ other ∈ map.spans ∧ other.start ≠ start := by
  simp [erase, List.mem_filter]

/-- Two spans of a map that start at the same number are one. -/
theorem eq_of_start {map : SpanMap} {a b : Span} (listed : a ∈ map.spans) (listed' : b ∈ map.spans)
    (same : a.start = b.start) : a = b := by
  obtain ⟨start, len⟩ := a
  obtain ⟨start', len'⟩ := b
  obtain rfl : start = start' := same
  have found := find?_eq_some_iff.mpr listed
  rw [find?_eq_some_iff.mpr listed'] at found
  injection found with found
  rw [found]

/-- Putting a span in takes the one with the same start out. -/
theorem insert_erase (map : SpanMap) (span : Span) : (map.erase span.start).insert span = map.insert span := by
  apply ext_find?
  intro start
  rw [find?_insert, find?_insert, find?_erase]
  by_cases here : span.start = start
  · simp [here]
  · simp [here]

/-- Taking a span out leaves the others. -/
theorem erase_perm {map : SpanMap} {span : Span} {others : List Span} (parts : map.spans.Perm (span :: others)) :
    (map.erase span.start).spans.Perm others := by
  have starts : map.spans.Pairwise fun a b => a.start ≠ b.start := map.sorted.imp Nat.ne_of_lt
  have different := (List.pairwise_cons.mp ((parts.pairwise_iff Ne.symm).mp starts)).1
  have stay : others.filter (·.start != span.start) = others := by
    rw [List.filter_eq_self]
    intro other member
    exact bne_iff_ne.mpr (different other member).symm
  have kept := parts.filter (·.start != span.start)
  rwa [List.filter_cons_of_neg (by simp), stay] at kept

theorem nodup (map : SpanMap) : map.spans.Nodup := by
  refine map.sorted.imp ?_
  rintro span _ before rfl
  exact Nat.lt_irrefl _ before

theorem insert_perm (map : SpanMap) (span : Span) :
    (map.insert span).spans.Perm (span :: (map.erase span.start).spans) := by
  have fresh : span ∉ (map.erase span.start).spans := fun listed => (mem_erase.mp listed).2 rfl
  refine (List.perm_ext_iff_of_nodup (nodup _) (List.nodup_cons.mpr ⟨fresh, nodup _⟩)).mpr ?_
  intro other
  rw [mem_insert, List.mem_cons, mem_erase]

theorem erase_eq_self_iff {map : SpanMap} {start : Nat} : map.erase start = map ↔ map.find? start = none := by
  constructor
  · intro same
    rw [← same, find?_erase, if_pos rfl]
  · intro absent
    apply ext_find?
    intro other
    rw [find?_erase]
    split
    · next here => rw [← here, absent]
    · rfl

/-- A span that starts where no other one does is put in besides the others. -/
theorem insert_perm_of_absent {map : SpanMap} {span : Span} (absent : map.find? span.start = none) :
    (map.insert span).spans.Perm (span :: map.spans) := by
  have perm := map.insert_perm span
  rwa [erase_eq_self_iff.mpr absent] at perm

theorem perm_cons_erase {map : SpanMap} {span : Span} (listed : span ∈ map.spans) :
    map.spans.Perm (span :: (map.erase span.start).spans) := by
  have parts := List.perm_cons_erase listed
  exact parts.trans ((erase_perm parts).symm.cons span)

theorem total_eq (map : SpanMap) : map.total = (map.spans.map (·.len)).sum := by
  rw [total]
  induction map.spans with
  | nil => rfl
  | cons span rest ih => simp [ih]

/-- The number lies in a span of the map. -/
def Covers (map : SpanMap) (number : Nat) : Prop := ∃ span ∈ map.spans, number ∈ span

/-- The spans have numbers, and between any two of them lie at least so many others. -/
structure Spaced (distance : Nat) (map : SpanMap) : Prop where
  filled : ∀ span ∈ map.spans, 0 < span.len
  clear : ∀ a ∈ map.spans, ∀ b ∈ map.spans, a.start ≠ b.start → a.Clear distance b

theorem not_covers_empty (number : Nat) : ¬ empty.Covers number := by
  simp [Covers, empty]

theorem spaced_empty (distance : Nat) : empty.Spaced distance := ⟨by simp [empty], by simp [empty]⟩

variable {map map' : SpanMap} {distance : Nat} {span span' : Span}

theorem Spaced.pairwise (spaced : map.Spaced distance) : map.spans.Pairwise (Span.Clear distance) := by
  refine map.sorted.imp_of_mem ?_
  intro a b listed listed' low
  exact spaced.clear a listed b listed' (Nat.ne_of_lt low)

theorem Spaced.erase (spaced : map.Spaced distance) (start : Nat) : (map.erase start).Spaced distance where
  filled other listed := spaced.filled other (mem_erase.mp listed).1
  clear a listed b listed' different := spaced.clear a (mem_erase.mp listed).1 b (mem_erase.mp listed').1 different

/-- The other spans keep their distance from a span of the map that is taken out. -/
theorem Spaced.clear_of_erase (spaced : map.Spaced distance) (listed : span ∈ map.spans) :
    ∀ other ∈ (map.erase span.start).spans, other.Clear distance span := by
  intro other left
  obtain ⟨listed', different⟩ := mem_erase.mp left
  exact spaced.clear other listed' span listed different

theorem Spaced.covers_erase (spaced : map.Spaced distance) (listed : span ∈ map.spans) (number : Nat) :
    (map.erase span.start).Covers number ↔ map.Covers number ∧ number ∉ span := by
  constructor
  · rintro ⟨other, left, inside⟩
    have apart := (spaced.clear_of_erase listed other left).not_mem inside
    exact ⟨⟨other, (mem_erase.mp left).1, inside⟩, apart⟩
  · rintro ⟨⟨other, listed', inside⟩, outside⟩
    refine ⟨other, mem_erase.mpr ⟨listed', ?_⟩, inside⟩
    intro same
    rw [eq_of_start listed' listed same] at inside
    exact outside inside

/-- A span that keeps its distance can be put in, and then its numbers are covered too. -/
theorem Spaced.insert (spaced : map.Spaced distance) (filled : 0 < span.len)
    (clear : ∀ other ∈ map.spans, other.Clear distance span) :
    (map.insert span).Spaced distance ∧
      ∀ number, (map.insert span).Covers number ↔ number ∈ span ∨ map.Covers number := by
  have different : ∀ other ∈ map.spans, other.start ≠ span.start := by
    intro other listed same
    have apart := clear other listed
    have bytes := spaced.filled other listed
    unfold Span.Clear Span.stop at apart
    omega
  refine ⟨⟨?_, ?_⟩, ?_⟩
  · intro other listed
    rcases mem_insert.mp listed with rfl | ⟨listed, _⟩
    · exact filled
    · exact spaced.filled other listed
  · intro a listed b listed' apart
    rcases mem_insert.mp listed with rfl | ⟨old, _⟩
    · rcases mem_insert.mp listed' with rfl | ⟨old', _⟩
      · exact (apart rfl).elim
      · exact (clear b old').symm
    · rcases mem_insert.mp listed' with rfl | ⟨old', _⟩
      · exact clear a old
      · exact spaced.clear a old b old' apart
  · intro number
    constructor
    · rintro ⟨other, listed, inside⟩
      rcases mem_insert.mp listed with rfl | ⟨listed, _⟩
      · exact .inl inside
      · exact .inr ⟨other, listed, inside⟩
    · rintro (inside | ⟨other, listed, inside⟩)
      · exact ⟨span, mem_insert.mpr (.inl rfl), inside⟩
      · exact ⟨other, mem_insert.mpr (.inr ⟨listed, different other listed⟩), inside⟩

theorem Spaced.insertNonempty (spaced : map.Spaced distance) (clear : ∀ other ∈ map.spans, other.Clear distance span) :
    (map.insertNonempty span).Spaced distance ∧
      ∀ number, (map.insertNonempty span).Covers number ↔ number ∈ span ∨ map.Covers number := by
  unfold SpanMap.insertNonempty
  split
  · next none =>
    refine ⟨spaced, ?_⟩
    intro number
    simp [Span.not_mem_of_empty none number]
  · next some => exact spaced.insert (Nat.pos_of_ne_zero some) clear

theorem mem_of_mem_insertNonempty {other : Span} (listed : other ∈ (map.insertNonempty span).spans) :
    other = span ∨ other ∈ map.spans := by
  unfold SpanMap.insertNonempty at listed
  split at listed
  · exact .inr listed
  · exact (mem_insert.mp listed).imp_right And.left

/-- A span of numbers that are not covered meets no span of the map. -/
theorem Spaced.clear_of_not_covers (spaced : map.Spaced distance) (filled : 0 < span.len)
    (fresh : ∀ number ∈ span, ¬ map.Covers number) : ∀ other ∈ map.spans, other.Clear 0 span := by
  intro other listed
  apply Span.clear_of_not_mem (spaced.filled other listed) filled
  intro number inside inside'
  exact fresh number inside' ⟨other, listed, inside⟩

/-- A span of the map gets another length. -/
theorem Spaced.resized (spaced : map.Spaced 0) {start old new : Nat} (listed : ⟨start, old⟩ ∈ map.spans)
    (filled : 0 < new)
    (fresh : ∀ number, start + old ≤ number → number < start + new → ¬ map.Covers number) :
    (map.insert ⟨start, new⟩).Spaced 0 ∧
      ∀ number, (map.insert ⟨start, new⟩).Covers number ↔
        number ∈ (⟨start, new⟩ : Span) ∨ map.Covers number ∧ number ∉ (⟨start, old⟩ : Span) := by
  have others := spaced.covers_erase listed
  have clear : ∀ other ∈ (map.erase start).spans, other.Clear 0 ⟨start, new⟩ := by
    apply (spaced.erase start).clear_of_not_covers filled
    intro number inside covered
    obtain ⟨covered, outside⟩ := (others number).mp covered
    rw [Span.mem_mk] at inside outside
    exact fresh number (by omega) (by omega) covered
  obtain ⟨spaced', covers⟩ := (spaced.erase start).insert filled clear
  rw [insert_erase map ⟨start, new⟩] at spaced' covers
  refine ⟨spaced', ?_⟩
  intro number
  rw [covers number, others number]

/-- A block is cut out of a span of the map; what is left of the span before and behind it stays. -/
theorem Spaced.cut (spaced : map.Spaced 1) {block : Span} (listed : span ∈ map.spans) (within : block.Within span)
    (filled : 0 < block.len) {left : SpanMap}
    (parts : left = ((map.erase span.start).insertNonempty ⟨span.start, block.start - span.start⟩).insertNonempty
      ⟨block.stop, span.stop - block.stop⟩) :
    left.Spaced 1 ∧ ∀ number, left.Covers number ↔ map.Covers number ∧ number ∉ block := by
  subst parts
  have others := spaced.clear_of_erase listed
  obtain ⟨first, last⟩ := within
  have before : Span.Within ⟨span.start, block.start - span.start⟩ span := by
    unfold Span.Within Span.stop at *
    dsimp only
    omega
  have behind : Span.Within ⟨block.stop, span.stop - block.stop⟩ span := by
    unfold Span.Within Span.stop at *
    dsimp only
    omega
  obtain ⟨spaced', covers⟩ :=
    (spaced.erase span.start).insertNonempty fun other kept => (others other kept).within before
  have clear : ∀ other ∈ ((map.erase span.start).insertNonempty ⟨span.start, block.start - span.start⟩).spans,
      other.Clear 1 ⟨block.stop, span.stop - block.stop⟩ := by
    intro other kept
    rcases mem_of_mem_insertNonempty kept with rfl | kept
    · -- The block itself keeps its two sides from each other.
      left
      rw [Span.stop_mk]
      show _ ≤ block.start + block.len
      omega
    · exact (others other kept).within behind
  obtain ⟨spaced'', covers'⟩ := spaced'.insertNonempty clear
  refine ⟨spaced'', ?_⟩
  intro number
  rw [covers' number, covers number, spaced.covers_erase listed, Span.mem_mk, Span.mem_mk, Span.mem_iff, Span.mem_iff]
  by_cases inside : number ∈ span
  · have covered : map.Covers number := ⟨span, listed, inside⟩
    rw [Span.mem_iff] at inside
    simp only [covered, true_and]
    unfold Span.stop at *
    omega
  · rw [Span.mem_iff] at inside
    unfold Span.stop at *
    constructor
    · rintro (impossible | impossible | ⟨covered, _⟩)
      · omega
      · omega
      · exact ⟨covered, by omega⟩
    · rintro ⟨covered, _⟩
      exact .inr (.inr ⟨covered, inside⟩)

/-! ### Spans put in merged -/

/-- The last span before a number is in the map, and no other one starts in between. -/
private theorem below?_eq_some {start : Nat} (found : map.below? start = some span) :
    span ∈ map.spans ∧ span.start < start ∧ ∀ other ∈ map.spans, other.start < start → other.start ≤ span.start := by
  rw [below?, List.getLast?_eq_some_iff] at found
  obtain ⟨before, parts⟩ := found
  have listed : span ∈ map.spans.filter (·.start < start) := by simp [parts]
  obtain ⟨member, low⟩ := List.mem_filter.mp listed
  have sorted := map.sorted.filter (fun s => decide (s.start < start))
  rw [parts] at sorted
  refine ⟨member, by simpa using low, ?_⟩
  intro other listed' low'
  have among : other ∈ before ++ [span] := by
    rw [← parts]
    exact List.mem_filter.mpr ⟨listed', by simpa using low'⟩
  rcases List.mem_append.mp among with earlier | last
  · exact Nat.le_of_lt ((List.pairwise_append.mp sorted).2.2 other earlier span (by simp))
  · rw [List.mem_singleton.mp last]

private theorem below?_eq_none {start : Nat} (found : map.below? start = none) :
    ∀ other ∈ map.spans, start ≤ other.start := by
  rw [below?, List.getLast?_eq_none_iff, List.filter_eq_nil_iff] at found
  intro other listed
  have high := found other listed
  simpa using high

/-- A span that was joined with some of the map: it is clear of those that are left, and nothing that was covered
    is lost. -/
private structure Joined (map : SpanMap) (span : Span) (map' : SpanMap) (span' : Span) : Prop where
  spaced : map'.Spaced 1
  filled : 0 < span'.len
  clear : ∀ other ∈ map'.spans, other.Clear 0 span'
  covers : ∀ number, number ∈ span' ∨ map'.Covers number ↔ number ∈ span ∨ map.Covers number

/-- Joining a span with one of the map that ends where it starts, or the other way round. -/
private theorem Spaced.joined {neighbour : Span} (spaced : map.Spaced 1)
    (clear : ∀ other ∈ map.spans, other.Clear 0 span) (filled : 0 < span.len) (listed : neighbour ∈ map.spans)
    (touches : neighbour.stop = span.start ∧ span'.start = neighbour.start ∨
      span.stop = neighbour.start ∧ span'.start = span.start)
    (len : span'.len = span.len + neighbour.len) : Joined map span (map.erase neighbour.start) span' := by
  have bytes := spaced.filled neighbour listed
  refine ⟨spaced.erase _, by omega, ?_, ?_⟩
  · intro other left
    have near := spaced.clear_of_erase listed other left
    have apart := clear other (mem_erase.mp left).1
    have some := spaced.filled other (mem_erase.mp left).1
    unfold Span.Clear Span.stop at *
    omega
  · intro number
    have taken : number ∈ span' ↔ number ∈ span ∨ number ∈ neighbour := by
      rw [Span.mem_iff, Span.mem_iff, Span.mem_iff]
      unfold Span.stop at touches
      omega
    rw [spaced.covers_erase listed, taken]
    constructor
    · rintro ((inside | inside) | ⟨covered, _⟩)
      · exact .inl inside
      · exact .inr ⟨neighbour, listed, inside⟩
      · exact .inr covered
    · by_cases inside : number ∈ neighbour
      · exact fun _ => .inl (.inr inside)
      · rintro (within | covered)
        · exact .inl (.inl within)
        · exact .inr ⟨covered, inside⟩

private theorem Spaced.unjoined (spaced : map.Spaced 1) (clear : ∀ other ∈ map.spans, other.Clear 0 span)
    (filled : 0 < span.len) : Joined map span map span :=
  ⟨spaced, filled, clear, fun _ => Iff.rfl⟩

/-- After a join with the span below, none that is left ends where the joined one starts. -/
private theorem Spaced.joinBelow (spaced : map.Spaced 1) (filled : 0 < span.len)
    (clear : ∀ other ∈ map.spans, other.Clear 0 span) :
    Joined map span (map.joinBelow span).1 (map.joinBelow span).2 ∧
      ∀ other ∈ (map.joinBelow span).1.spans, other.stop ≠ (map.joinBelow span).2.start := by
  unfold SpanMap.joinBelow
  split
  · next before found =>
    obtain ⟨listed, low, last⟩ := below?_eq_some found
    split
    · next touches =>
      refine ⟨spaced.joined clear filled listed (.inl ⟨touches, rfl⟩) (Nat.add_comm ..), ?_⟩
      intro other left ends
      have apart := spaced.clear_of_erase listed other left
      have bytes := spaced.filled before listed
      unfold Span.Clear at apart
      unfold Span.stop at *
      dsimp only at ends
      omega
    · next gap =>
      refine ⟨spaced.unjoined clear filled, ?_⟩
      intro other listed' ends
      have bytes := spaced.filled other listed'
      have before_le := last other listed'
      unfold Span.stop at *
      dsimp only at ends
      by_cases same : other.start = before.start
      · rw [eq_of_start listed' listed same] at ends
        exact gap ends
      · have apart := spaced.clear other listed' before listed same
        unfold Span.Clear Span.stop at apart
        omega
  · next found =>
    refine ⟨spaced.unjoined clear filled, ?_⟩
    intro other listed ends
    have bytes := spaced.filled other listed
    have high := below?_eq_none found other listed
    unfold Span.stop at ends
    dsimp only at ends
    omega

/-- After a join with the span above, none that is left starts where the joined one ends. -/
private theorem Spaced.joinAbove (spaced : map.Spaced 1) (filled : 0 < span.len)
    (clear : ∀ other ∈ map.spans, other.Clear 0 span) :
    Joined map span (map.joinAbove span).1 (map.joinAbove span).2 ∧
      ∀ other ∈ (map.joinAbove span).1.spans, other ∈ map.spans ∧ other.start ≠ (map.joinAbove span).2.stop := by
  unfold SpanMap.joinAbove
  split
  · next len found =>
    have listed := find?_eq_some_iff.mp found
    refine ⟨spaced.joined clear filled listed (.inr ⟨rfl, rfl⟩) rfl, ?_⟩
    intro other left
    refine ⟨(mem_erase.mp left).1, ?_⟩
    intro starts
    have apart := spaced.clear_of_erase listed other left
    have bytes := spaced.filled _ listed
    have some := spaced.filled other (mem_erase.mp left).1
    unfold Span.Clear at apart
    unfold Span.stop at *
    dsimp only at *
    omega
  · next found =>
    refine ⟨spaced.unjoined clear filled, ?_⟩
    intro other listed
    refine ⟨listed, ?_⟩
    intro starts
    have absent : (⟨span.stop, other.len⟩ : Span) ∉ map.spans := by
      rw [← find?_eq_some_iff, found]
      simp
    exact absent (starts ▸ listed)

private theorem joinAbove_start (map : SpanMap) (span : Span) : (map.joinAbove span).2.start = span.start := by
  unfold SpanMap.joinAbove
  split <;> rfl

/-- A span that is put in merged may touch others: no two spans touch afterwards, and exactly its numbers are
    covered besides. -/
theorem Spaced.insertMerged (spaced : map.Spaced 1) (fresh : ∀ number ∈ span, ¬ map.Covers number) :
    (map.insertMerged span).Spaced 1 ∧
      ∀ number, (map.insertMerged span).Covers number ↔ number ∈ span ∨ map.Covers number := by
  unfold SpanMap.insertMerged
  split
  · next none =>
    refine ⟨spaced, ?_⟩
    intro number
    simp [Span.not_mem_of_empty none number]
  · next some =>
    have filled := Nat.pos_of_ne_zero some
    obtain ⟨below, ends⟩ := spaced.joinBelow filled (spaced.clear_of_not_covers filled fresh)
    obtain ⟨above, starts⟩ := below.spaced.joinAbove below.filled below.clear
    have apart : ∀ other ∈ ((map.joinBelow span).1.joinAbove (map.joinBelow span).2).1.spans,
        other.Clear 1 ((map.joinBelow span).1.joinAbove (map.joinBelow span).2).2 := by
      intro other listed
      obtain ⟨listed', start⟩ := starts other listed
      have stop := ends other listed'
      have near := above.clear other listed
      rw [← joinAbove_start (map.joinBelow span).1] at stop
      unfold Span.Clear at *
      omega
    obtain ⟨spaced', covers⟩ := above.spaced.insert above.filled apart
    refine ⟨spaced', ?_⟩
    intro number
    exact (covers number).trans ((above.covers number).trans (below.covers number))

/-! ### What the covered numbers tell -/

/-- Numbers in a row that are covered lie in one span, since no two spans touch. -/
theorem Spaced.within_of_covers (spaced : map.Spaced 1) (filled : 0 < span.len)
    (covered : ∀ number ∈ span, map.Covers number) : ∃ outer ∈ map.spans, span.Within outer := by
  obtain ⟨outer, listed, first⟩ := covered span.start (by rw [Span.mem_iff]; omega)
  refine ⟨outer, listed, ?_⟩
  rw [Span.mem_iff] at first
  by_contra short
  -- The number behind the outer span would lie in another span, which touches it.
  obtain ⟨next, listed', inside⟩ := covered outer.stop (by
    rw [Span.mem_iff]
    unfold Span.Within Span.stop at *
    omega)
  have different : next.start ≠ outer.start := by
    intro same
    rw [eq_of_start listed' listed same, Span.mem_iff] at inside
    unfold Span.stop at inside
    omega
  have apart := spaced.clear next listed' outer listed different
  rw [Span.mem_iff] at inside
  unfold Span.Clear Span.stop at *
  omega

/-- The spans of the map are the longest ones of covered numbers. -/
theorem Spaced.mem_iff (spaced : map.Spaced 1) :
    span ∈ map.spans ↔ (0 < span.len ∧ ∀ number ∈ span, map.Covers number) ∧
      ∀ outer : Span, 0 < outer.len → (∀ number ∈ outer, map.Covers number) → span.Within outer → outer = span := by
  constructor
  · intro listed
    have filled := spaced.filled span listed
    refine ⟨⟨filled, fun number inside => ⟨span, listed, inside⟩⟩, ?_⟩
    intro outer filled' covered within
    obtain ⟨outermost, listed', within'⟩ := spaced.within_of_covers filled' covered
    have only : span = outermost := by
      apply eq_of_start listed listed'
      by_contra different
      have apart := spaced.clear span listed outermost listed' different
      unfold Span.Within Span.Clear Span.stop at *
      omega
    exact (only ▸ within').antisymm within
  · rintro ⟨⟨filled, covered⟩, longest⟩
    obtain ⟨outer, listed, within⟩ := spaced.within_of_covers filled covered
    have same := longest outer (spaced.filled outer listed) (fun number inside => ⟨outer, listed, inside⟩) within
    exact same ▸ listed

/-- Maps in which no two spans touch are equal if they cover the same numbers. -/
theorem Spaced.eq_of_covers (spaced : map.Spaced 1) (spaced' : map'.Spaced 1)
    (same : ∀ number, map.Covers number ↔ map'.Covers number) : map = map' := by
  apply ext_find?
  intro start
  apply Option.ext
  intro len
  rw [find?_eq_some_iff, find?_eq_some_iff, spaced.mem_iff, spaced'.mem_iff]
  simp only [same]

end SpanMap
end BumpArena
