/-!
A finite map from the starts of spans to their lengths, kept as a list with ascending starts. What the
operations do is said through `SpanMap.find?`, and two maps with the same answers are equal
(`SpanMap.ext_find?`).
-/
namespace BumpArena

/-- The numbers from `start` up to `start + len`. -/
structure Span where
  start : Nat
  len : Nat
  deriving DecidableEq

namespace Span

def stop (span : Span) : Nat := span.start + span.len

/-- Puts a span into a list with ascending starts, in the place of one with the same start. -/
def insertInto (span : Span) : List Span → List Span
  | [] => [span]
  | other :: rest =>
    if span.start < other.start then span :: other :: rest
    else if span.start = other.start then span :: rest
    else other :: insertInto span rest

theorem mem_of_mem_insertInto {span s : Span} {spans : List Span} (mem : s ∈ span.insertInto spans) :
    s = span ∨ s ∈ spans := by
  induction spans with
  | nil => simpa [insertInto] using mem
  | cons other rest ih =>
    unfold insertInto at mem
    split at mem
    · simpa using mem
    · split at mem
      · rcases List.mem_cons.mp mem with same | inside
        · exact .inl same
        · exact .inr (List.mem_cons_of_mem _ inside)
      · rcases List.mem_cons.mp mem with same | inside
        · exact .inr (same ▸ List.mem_cons_self)
        · rcases ih inside with same | inside
          · exact .inl same
          · exact .inr (List.mem_cons_of_mem _ inside)

theorem insertInto_pairwise {spans : List Span} (span : Span)
    (sorted : spans.Pairwise (·.start < ·.start)) :
    (span.insertInto spans).Pairwise (·.start < ·.start) := by
  induction spans with
  | nil => simp [insertInto]
  | cons other rest ih =>
    obtain ⟨least, restSorted⟩ := List.pairwise_cons.mp sorted
    unfold insertInto
    split
    · rename_i below
      refine List.pairwise_cons.mpr ⟨?_, sorted⟩
      intro s mem
      rcases List.mem_cons.mp mem with same | inside
      · exact same ▸ below
      · exact Nat.lt_trans below (least s inside)
    · split
      · rename_i same
        exact List.pairwise_cons.mpr ⟨fun s mem => same ▸ least s mem, restSorted⟩
      · refine List.pairwise_cons.mpr ⟨?_, ih restSorted⟩
        intro s mem
        rcases mem_of_mem_insertInto mem with same | inside
        · subst same; omega
        · exact least s inside

end Span

/-- Spans with different starts, in ascending order. -/
structure SpanMap where
  spans : List Span
  sorted : spans.Pairwise (·.start < ·.start)
  deriving DecidableEq

namespace SpanMap

def empty : SpanMap := ⟨[], .nil⟩

def size (map : SpanMap) : Nat := map.spans.length

/-- The length of the span that starts here. -/
def find? (map : SpanMap) (start : Nat) : Option Nat :=
  (map.spans.find? (·.start == start)).map (·.len)

/-- The last span that starts below this number. -/
def below? (map : SpanMap) (start : Nat) : Option Span :=
  (map.spans.filter (·.start < start)).getLast?

/-- Puts a span in, in the place of one with the same start. -/
def insert (map : SpanMap) (span : Span) : SpanMap :=
  ⟨span.insertInto map.spans, span.insertInto_pairwise map.sorted⟩

/-- Puts a span in unless it is empty. -/
def insertNonempty (map : SpanMap) (span : Span) : SpanMap :=
  if span.len = 0 then map else map.insert span

/-- Takes the span out that starts here. -/
def erase (map : SpanMap) (start : Nat) : SpanMap :=
  ⟨map.spans.filter (·.start != start), map.sorted.filter _⟩

def total (map : SpanMap) : Nat := map.spans.foldr (fun span total => span.len + total) 0

/-- The length of the longest span, zero if there is none. -/
def longest (map : SpanMap) : Nat := ((map.spans.map (·.len)).max?).getD 0

/-- Takes the span out that ends where this one starts, and joins the two. -/
def joinBelow (map : SpanMap) (span : Span) : SpanMap × Span :=
  match map.below? span.start with
  | some before =>
    if before.stop = span.start then
      (map.erase before.start, ⟨before.start, before.len + span.len⟩)
    else (map, span)
  | none => (map, span)

/-- Takes the span out that starts where this one ends, and joins the two. -/
def joinAbove (map : SpanMap) (span : Span) : SpanMap × Span :=
  match map.find? span.stop with
  | some len => (map.erase span.stop, ⟨span.start, span.len + len⟩)
  | none => (map, span)

/-- Puts a span in as one with the spans that touch it. An empty span changes nothing. -/
def insertMerged (map : SpanMap) (span : Span) : SpanMap :=
  if span.len = 0 then map
  else
    let below := map.joinBelow span
    let both := below.1.joinAbove below.2
    both.1.insert both.2

private theorem find?_insertInto (span : Span) (spans : List Span) (start : Nat)
    (sorted : spans.Pairwise (·.start < ·.start)) :
    (span.insertInto spans).find? (·.start == start) =
      if span.start = start then some span else spans.find? (·.start == start) := by
  induction spans with
  | nil =>
    by_cases here : span.start = start <;> simp [Span.insertInto, here]
  | cons other rest ih =>
    obtain ⟨least, restSorted⟩ := List.pairwise_cons.mp sorted
    unfold Span.insertInto
    split
    · by_cases here : span.start = start <;> simp [List.find?_cons, here]
    · split
      · rename_i same
        by_cases here : span.start = start
        · simp [here]
        · simp [here, same ▸ here]
      · rename_i notBelow notSame
        by_cases there : other.start = start
        · have here : span.start ≠ start := by omega
          simp [there, here]
        · simp only [List.find?_cons, beq_eq_false_iff_ne.mpr there, ih restSorted]

theorem find?_insert (map : SpanMap) (span : Span) (start : Nat) :
    (map.insert span).find? start = if span.start = start then some span.len else map.find? start := by
  unfold find? insert
  rw [find?_insertInto span map.spans start map.sorted]
  split <;> simp

private theorem find?_filter_other (spans : List Span) {start other : Nat} (different : start ≠ other) :
    (spans.filter (·.start != start)).find? (·.start == other) = spans.find? (·.start == other) := by
  induction spans with
  | nil => rfl
  | cons span rest ih =>
    by_cases dropped : span.start = start
    · have notHere : ¬ start = other := different
      simp [dropped, notHere, ih]
    · by_cases here : span.start = other <;> simp [dropped, here, ih, Ne.symm different]

theorem find?_erase (map : SpanMap) (start other : Nat) :
    (map.erase start).find? other = if start = other then none else map.find? other := by
  unfold find? erase
  split
  · rename_i same
    subst same
    simp
  · rename_i different
    rw [find?_filter_other map.spans different]

theorem find?_eq_some_iff {map : SpanMap} {start len : Nat} :
    map.find? start = some len ↔ ⟨start, len⟩ ∈ map.spans := by
  obtain ⟨spans, sorted⟩ := map
  simp only [find?]
  induction spans with
  | nil => simp
  | cons other rest ih =>
    obtain ⟨least, restSorted⟩ := List.pairwise_cons.mp sorted
    by_cases here : other.start = start
    · subst here
      simp only [List.find?_cons, BEq.rfl, Option.map_some, Option.some.injEq, List.mem_cons]
      constructor
      · rintro rfl
        exact .inl rfl
      · rintro (same | inside)
        · rw [← same]
        · exact absurd (least _ inside) (Nat.lt_irrefl _)
    · simp only [List.find?_cons, beq_eq_false_iff_ne.mpr here, ih restSorted, List.mem_cons]
      constructor
      · exact .inr
      · rintro (same | inside)
        · exact absurd (same ▸ rfl) here
        · exact inside

private theorem eq_of_mem_iff {xs ys : List Span} (xsSorted : xs.Pairwise (·.start < ·.start))
    (ysSorted : ys.Pairwise (·.start < ·.start)) (same : ∀ s, s ∈ xs ↔ s ∈ ys) : xs = ys := by
  induction xs generalizing ys with
  | nil =>
    cases ys with
    | nil => rfl
    | cons y ys => exact absurd ((same y).mpr List.mem_cons_self) (by simp)
  | cons x xs ih =>
    cases ys with
    | nil => exact absurd ((same x).mp List.mem_cons_self) (by simp)
    | cons y ys =>
      obtain ⟨xLeast, xsRest⟩ := List.pairwise_cons.mp xsSorted
      obtain ⟨yLeast, ysRest⟩ := List.pairwise_cons.mp ysSorted
      have heads : x = y := by
        rcases List.mem_cons.mp ((same x).mp List.mem_cons_self) with equal | xIn
        · exact equal
        · rcases List.mem_cons.mp ((same y).mpr List.mem_cons_self) with equal | yIn
          · exact equal.symm
          · have := yLeast x xIn
            have := xLeast y yIn
            omega
      subst heads
      congr 1
      apply ih xsRest ysRest
      intro s
      constructor
      · intro inside
        rcases List.mem_cons.mp ((same s).mp (List.mem_cons_of_mem _ inside)) with equal | there
        · have := xLeast s inside
          rw [equal] at this
          exact absurd this (Nat.lt_irrefl _)
        · exact there
      · intro inside
        rcases List.mem_cons.mp ((same s).mpr (List.mem_cons_of_mem _ inside)) with equal | there
        · have := yLeast s inside
          rw [equal] at this
          exact absurd this (Nat.lt_irrefl _)
        · exact there

theorem ext_find? {a b : SpanMap} (same : ∀ start, a.find? start = b.find? start) : a = b := by
  have spans : a.spans = b.spans := by
    apply eq_of_mem_iff a.sorted b.sorted
    rintro ⟨start, len⟩
    rw [← find?_eq_some_iff, ← find?_eq_some_iff, same]
  cases a
  cases b
  simpa using spans

end SpanMap
end BumpArena
