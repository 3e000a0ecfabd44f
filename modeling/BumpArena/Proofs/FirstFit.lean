import BumpArena.Proofs.FreeList

/-!
Where a region puts a block. A request tries one place in each free span, the first that is aligned, and takes the
first of these that is long enough. That misses nothing: no two free spans touch, so the bytes of a block that could
be granted lie in one of them, and the place that is tried there is no higher. Hence a request is granted exactly if
the region is open for it somewhere (`Region.Open`), and then at the lowest such offset
(`Region.isLeast_of_firstFit?`).
-/
namespace BumpArena

theorem Span.Within.mem {inner outer : Span} (within : inner.Within outer) {number : Nat} (inside : number ∈ inner) :
    number ∈ outer :=
  ⟨Nat.le_trans within.1 inside.1, Nat.lt_of_lt_of_le inside.2 within.2⟩

theorem SpanMap.le_longest_iff {map : SpanMap} {len : Nat} (filled : 0 < len) :
    len ≤ map.longest ↔ ∃ span ∈ map.spans, len ≤ span.len := by
  rw [longest]
  rcases largest : (map.spans.map (·.len)).max? with _ | most
  · have none : map.spans = [] := List.map_eq_nil_iff.mp (List.max?_eq_none_iff.mp largest)
    simp [none]
    omega
  · obtain ⟨reached, above⟩ := List.max?_eq_some_iff.mp largest
    simp only [largest, Option.getD_some]
    constructor
    · intro short
      obtain ⟨span, listed, same⟩ := List.mem_map.mp reached
      exact ⟨span, listed, same ▸ short⟩
    · rintro ⟨span, listed, short⟩
      exact Nat.le_trans short (above _ (List.mem_map_of_mem listed))

namespace Region

variable {region region' : Region} {layout : Layout} {start : Nat}

/-- A block of this layout could lie at this offset: its address is aligned and its bytes are vacant. -/
def Open (region : Region) (layout : Layout) (start : Nat) : Prop :=
  layout.align.bytes ∣ region.base + start ∧ region.Vacant ⟨start, layout.size⟩

/-- Every place for a block lies in one free span. -/
theorem Tiled.exists_span_of_open (tiled : region.Tiled) (here : region.Open layout start) :
    ∃ span ∈ region.free.spans, Span.Within ⟨start, layout.size⟩ span := by
  obtain ⟨filled, free⟩ := tiled.vacant_iff.mp here.2
  exact tiled.free.within_of_covers filled free

theorem Tiled.open_of_within (tiled : region.Tiled) {span : Span} (listed : span ∈ region.free.spans)
    (filled : 0 < layout.size) (divides : layout.align.bytes ∣ region.base + start)
    (within : Span.Within ⟨start, layout.size⟩ span) : region.Open layout start := by
  refine ⟨divides, tiled.vacant_iff.mpr ⟨filled, ?_⟩⟩
  intro number inside
  exact ⟨span, listed, within.mem inside⟩

/-- In a free span with a place for a block the one that is tried will do, and it is no higher. -/
theorem Tiled.exists_fitIn? (tiled : region.Tiled) (isWord : region.base + region.capacity ≤ Word.limit) {span : Span}
    (listed : span ∈ region.free.spans) (here : region.Open layout start)
    (within : Span.Within ⟨start, layout.size⟩ span) :
    ∃ fit, region.fitIn? layout span = some fit ∧ fit.start ≤ start := by
  have ends := (tiled.mem_free_iff.mp listed).1.2.1
  have filled : 0 < layout.size := here.2.1
  obtain ⟨first, last⟩ := within
  have after := layout.align.le_roundUp (region.base + span.start)
  have least := Alignment.roundUp_le here.1 (Nat.add_le_add_left first region.base)
  unfold Span.stop at *
  dsimp only at first last
  have rounded : layout.align.alignUp? (region.base + span.start) =
      some (layout.align.roundUp (region.base + span.start)) :=
    Alignment.alignUp?_eq_some_iff.mpr ⟨rfl, by omega⟩
  have room : layout.align.roundUp (region.base + span.start) - region.base - span.start + layout.size ≤ span.len := by
    omega
  refine ⟨⟨span, layout.align.roundUp (region.base + span.start) - region.base⟩, ?_, ?_⟩
  · simp [fitIn?, rounded, Fit.padding, room]
  · show layout.align.roundUp (region.base + span.start) - region.base ≤ start
    omega

theorem span_of_fitIn? {span : Span} {fit : Fit} (fits : region.fitIn? layout span = some fit) : fit.span = span := by
  obtain ⟨aligned, _, fits⟩ := Option.bind_eq_some_iff.mp fits
  dsimp only at fits
  split at fits
  · injection fits with fits
    rw [← fits]
  · contradiction

/-- What is found for a request is the lowest place that the region has for it. -/
theorem isLeast_of_firstFit? (tiled : region.Tiled) (isWord : region.base + region.capacity ≤ Word.limit)
    (filled : 0 < layout.size) {fit : Fit} (found : region.firstFit? layout = some fit) :
    IsLeast {start | region.Open layout start} fit.start := by
  obtain ⟨listed, within, divides⟩ := fits_of_firstFit? found
  constructor
  · exact tiled.open_of_within listed filled divides within
  · intro start here
    obtain ⟨other, listed', within'⟩ := tiled.exists_span_of_open here
    obtain ⟨lower, fits, low⟩ := tiled.exists_fitIn? isWord listed' here within'
    obtain ⟨earlier, span, later, spans, first, none⟩ := List.findSome?_eq_some_iff.mp found
    have sorted := region.free.sorted
    rw [spans] at listed' sorted
    rcases List.mem_append.mp listed' with before | behind
    · simp [none other before] at fits
    rcases List.mem_cons.mp behind with rfl | behind
    · rw [first] at fits
      injection fits with same
      exact same ▸ low
    · -- The other span starts behind the one in which the block was found.
      have order := (List.pairwise_cons.mp (List.pairwise_append.mp sorted).2.1).1 other behind
      have apart := tiled.canonical.apart
      rw [spans] at apart
      have clear := (List.pairwise_cons.mp (List.pairwise_append.mp apart).2.1).1 other behind
      rw [span_of_fitIn? first] at within
      unfold Span.Within at within within'
      rw [Span.stop_mk] at within
      dsimp only at within within'
      omega

theorem firstFit?_eq_none_iff (tiled : region.Tiled) (isWord : region.base + region.capacity ≤ Word.limit)
    (filled : 0 < layout.size) : region.firstFit? layout = none ↔ ¬ ∃ start, region.Open layout start := by
  constructor
  · rintro none ⟨start, here⟩
    obtain ⟨span, listed, within⟩ := tiled.exists_span_of_open here
    obtain ⟨fit, fits, _⟩ := tiled.exists_fitIn? isWord listed here within
    rw [List.findSome?_eq_none_iff.mp none span listed] at fits
    contradiction
  · intro closed
    by_contra found
    obtain ⟨fit, found⟩ := Option.ne_none_iff_exists'.mp found
    exact closed ⟨fit.start, (isLeast_of_firstFit? tiled isWord filled found).1⟩

/-- Where every address is aligned, the longest free span decides. -/
theorem Tiled.exists_open_iff (tiled : region.Tiled) (filled : 0 < layout.size) (unaligned : layout.align = .one) :
    (∃ start, region.Open layout start) ↔ layout.size ≤ region.longestFree := by
  rw [longestFree, SpanMap.le_longest_iff filled]
  constructor
  · rintro ⟨start, here⟩
    obtain ⟨span, listed, first, last⟩ := tiled.exists_span_of_open here
    refine ⟨span, listed, ?_⟩
    unfold Span.stop at last
    dsimp only at first last
    omega
  · rintro ⟨span, listed, short⟩
    have divides : layout.align.bytes ∣ region.base + span.start := by
      rw [unaligned]
      exact Nat.one_dvd _
    have within : Span.Within ⟨span.start, layout.size⟩ span := ⟨Nat.le_refl _, Nat.add_le_add_left short _⟩
    exact ⟨span.start, tiled.open_of_within listed filled divides within⟩

/-- How a request is answered: with the lowest place if there is any, and else not at all. -/
structure Answers (region : Region) (layout : Layout) (answer : Except Refusal Block) (region' : Region) : Prop where
  granted_iff : (∃ block, answer = .ok block) ↔ ∃ start, region.Open layout start
  lowest : ∀ block, answer = .ok block → ∃ start, IsLeast {start | region.Open layout start} start ∧
    block = ⟨region.base + start, layout.size⟩ ∧ region'.base = region.base ∧ region'.capacity = region.capacity ∧
    ∀ span, span ∈ region'.live.spans ↔ span = ⟨start, layout.size⟩ ∨ span ∈ region.live.spans
  refused : ∀ refusal, answer = .error refusal → refusal = .ofLayout layout ∧ region' = region
  unaligned : layout.align = .one → ((∃ block, answer = .ok block) ↔ layout.size ≤ region.longestFree)

/-- No live block starts at a vacant byte. -/
theorem Vacant.find?_eq_none {span : Span} (vacant : region.Vacant span) (tiled : region.Tiled) :
    region.live.find? span.start = none := by
  refine Option.eq_none_iff_forall_ne_some.mpr ?_
  intro len found
  have listed := SpanMap.find?_eq_some_iff.mp found
  have filled : 0 < len := tiled.live.filled _ listed
  have filled' := vacant.1
  refine vacant.2.2 span.start ?_ ⟨_, listed, ?_⟩
  · rw [Span.mem_iff]
    omega
  · rw [Span.mem_mk]
    omega

/-- A block that is put at a vacant place replaces none. -/
theorem Vacant.insert_perm {span : Span} (vacant : region.Vacant span) (tiled : region.Tiled) :
    (region.live.insert span).spans.Perm (span :: region.live.spans) :=
  SpanMap.insert_perm_of_absent (vacant.find?_eq_none tiled)

theorem allocate_answers (tiled : region.Tiled) (isWord : region.base + region.capacity ≤ Word.limit)
    (filled : 0 < layout.size) :
    (backing.allocate layout).Ends region fun answer _ region' => Answers region layout answer region' := by
  simp only [backing, Nat.ne_of_gt filled, ↓reduceIte, Act.ends_bind, Act.ends_get]
  rcases found : region.firstFit? layout with _ | fit
  · have closed := (firstFit?_eq_none_iff tiled isWord filled).mp found
    simp only [Act.ends_pure]
    constructor
    · simpa using closed
    · simp
    · rintro refusal refused
      injection refused with refused
      exact ⟨refused.symm, rfl⟩
    · intro unaligned
      rw [← tiled.exists_open_iff filled unaligned]
      simpa using closed
  · have least := isLeast_of_firstFit? tiled isWord filled found
    simp only [Act.ends_bind, Act.ends_set, Act.ends_pure]
    constructor
    · exact ⟨fun _ => ⟨_, least.1⟩, fun _ => ⟨_, rfl⟩⟩
    · rintro block granted
      injection granted with granted
      exact ⟨fit.start, least, granted.symm, rfl, rfl,
        fun _ => (least.1.2.insert_perm tiled).mem_iff.trans List.mem_cons⟩
    · simp
    · intro unaligned
      rw [← tiled.exists_open_iff filled unaligned]
      exact ⟨fun _ => ⟨_, least.1⟩, fun _ => ⟨_, rfl⟩⟩

/-- Calls with any arguments leave a new region tiled and where it is. -/
theorem serveAll_tiled {heap heap' : Heap} {capacity : Nat} {created : Trace} {fresh : Region}
    (made : (create capacity).run heap = ⟨.ok fresh, created, heap'⟩) (demands : List Demand) :
    (backing.serveAll demands).Ends fresh fun _ _ region =>
      region.Tiled ∧ region.base = fresh.base ∧ region.capacity = capacity := by
  obtain ⟨whole, _⟩ := of_create made
  have start : fresh.Tiled ∧ fresh.base = fresh.base ∧ fresh.capacity = capacity := by
    rw [whole]
    exact ⟨tiled_ofRange _ _, rfl, rfl⟩
  have step : ∀ (region : Region) (demand : Demand),
      region.Tiled ∧ region.base = fresh.base ∧ region.capacity = capacity →
      ((backing.serve demand).run region).state.Tiled ∧ ((backing.serve demand).run region).state.base = fresh.base ∧
        ((backing.serve demand).run region).state.capacity = capacity := by
    rintro region demand ⟨tiled, base, room⟩
    obtain ⟨tiled', base', room'⟩ := (serve_moves region demand).tiled tiled
    exact ⟨tiled', base'.trans base, room'.trans room⟩
  exact Backing.serveAll_ends step start demands

/-- In every state that calls with any arguments reach from a new region, a request for bytes at any alignment is
    granted exactly if aligned bytes for it are left somewhere in the region, and it gets the lowest of them. Then
    they are live, besides the blocks that were; a request that is refused changes nothing. -/
theorem allocates_lowest {heap heap' : Heap} {capacity : Nat} {created : Trace} {fresh : Region}
    (made : (create capacity).run heap = ⟨.ok fresh, created, heap'⟩) (window : heap.limit ≤ Word.limit)
    (demands : List Demand) :
    (backing.serveAll demands).Ends fresh fun _ _ region =>
      (region.base = fresh.base ∧ region.capacity = capacity) ∧
      ∀ layout : Layout, 0 < layout.size →
        (backing.allocate layout).Ends region fun answer _ region' => Answers region layout answer region' := by
  obtain ⟨_, _, ends, _⟩ := of_create made
  refine (serveAll_tiled made demands).mono ?_
  rintro _ _ region ⟨tiled, base, room⟩
  refine ⟨⟨base, room⟩, ?_⟩
  intro layout filled
  have isWord : region.base + region.capacity ≤ Word.limit := by
    rw [base, room]
    exact Nat.le_trans ends window
  exact allocate_answers tiled isWord filled

/-- A region in pieces, and a request at an alignment that is larger than the one of the region. -/
theorem heap_allocates_lowest :
    (Heap.ofSize 65536).limit ≤ Word.limit ∧
      ∃ created fresh heap, (create 20000).run (Heap.ofSize 65536) = ⟨.ok fresh, created, heap⟩ ∧
        (backing.serveAll [.allocate ⟨100, .one, by decide⟩, .allocate ⟨50, .page, by decide⟩,
            .release fresh.base ⟨100, .one, by decide⟩, .allocate ⟨4000, .sixteen, by decide⟩,
            .release (fresh.base + 1) ⟨50, .one, by decide⟩]).Ends fresh fun _ _ region =>
          0 < 200 ∧ (backing.allocate ⟨200, ⟨⟨13, by decide⟩⟩, by decide⟩).Ends region fun answer _ region' =>
            Answers region ⟨200, ⟨⟨13, by decide⟩⟩, by decide⟩ answer region' := by
  have window : (Heap.ofSize 65536).limit ≤ Word.limit := by decide
  have made : (create 20000).run (Heap.ofSize 65536) =
      ⟨.ok (ofRange Heap.base 20000), [], ⟨Heap.base + 20000, Heap.base + 65536⟩⟩ := rfl
  refine ⟨window, _, _, _, made, (allocates_lowest made window _).mono ?_⟩
  rintro _ _ region ⟨_, answers⟩
  exact ⟨by decide, answers _ (by decide)⟩

end Region
end BumpArena
