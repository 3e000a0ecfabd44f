import BumpArena.Proofs.Tiling

/-!
The free list of a region says no more than its live blocks do. In every state that calls with any arguments reach,
faulting ones included, the free spans are the longest spans without a live byte (`Region.Gap`). So the same live
blocks leave the same free list, however they came about, and a region from which all blocks were taken back, in
whatever order, is as it was in the beginning.
-/
namespace BumpArena

namespace Region

variable {region region' : Region}

/-- The span has bytes, all of them inside the region and none of them live. -/
def Vacant (region : Region) (span : Span) : Prop :=
  0 < span.len ∧ span.stop ≤ region.capacity ∧ ∀ number ∈ span, ¬ region.live.Covers number

/-- A vacant span that lies inside no other one. -/
def Gap (region : Region) (span : Span) : Prop :=
  region.Vacant span ∧ ∀ outer, region.Vacant outer → span.Within outer → outer = span

theorem Tiled.vacant_iff (tiled : region.Tiled) {span : Span} :
    region.Vacant span ↔ 0 < span.len ∧ ∀ number ∈ span, region.free.Covers number := by
  constructor
  · rintro ⟨filled, ends, none⟩
    refine ⟨filled, ?_⟩
    intro number inside
    exact (tiled.tiles number).mpr ⟨Nat.lt_of_lt_of_le inside.2 ends, none number inside⟩
  · rintro ⟨filled, free⟩
    refine ⟨filled, ?_, fun number inside => ((tiled.tiles number).mp (free number inside)).2⟩
    have last : span.stop - 1 ∈ span := by
      rw [Span.mem_iff]
      unfold Span.stop
      omega
    have below := ((tiled.tiles _).mp (free _ last)).1
    omega

theorem Tiled.mem_free_iff (tiled : region.Tiled) {span : Span} : span ∈ region.free.spans ↔ region.Gap span := by
  rw [tiled.free.mem_iff, Gap, tiled.vacant_iff]
  simp only [tiled.vacant_iff, and_imp]

/-- What the live blocks leave over does not depend on how they came about. -/
theorem Tiled.free_eq (tiled : region.Tiled) (tiled' : region'.Tiled) (capacity : region'.capacity = region.capacity)
    (live : region'.live = region.live) : region'.free = region.free := by
  apply tiled'.free.eq_of_covers tiled.free
  intro number
  rw [tiled.tiles, tiled'.tiles, capacity, live]

theorem Tiled.eq_of_live (tiled : region.Tiled) (tiled' : region'.Tiled) (base : region'.base = region.base)
    (capacity : region'.capacity = region.capacity) (live : region'.live = region.live) : region' = region := by
  have free := tiled.free_eq tiled' capacity live
  cases region
  cases region'
  rw [mk.injEq]
  exact ⟨base, capacity, free, live⟩

/-- The free spans and the live ones together have as many bytes as the region. -/
theorem Tiled.bytes (tiled : region.Tiled) : region.freeBytes + region.live.total = region.capacity := by
  let block (span : Span) : Block := ⟨span.start, span.len⟩
  have apart {map : SpanMap} {distance : Nat} (spaced : map.Spaced distance) :
      map.spans.Pairwise fun a b => (block a).Apart (block b) := by
    refine spaced.pairwise.imp ?_
    intro a b clear number inside
    exact clear.not_mem inside
  have pairwise : ((region.free.spans ++ region.live.spans).map block).Pairwise Block.Apart := by
    rw [List.pairwise_map]
    refine List.pairwise_append.mpr ⟨apart tiled.free, apart tiled.live, ?_⟩
    intro a listed b listed' number inside inside'
    exact tiled.not_free ⟨b, listed', inside'⟩ ⟨a, listed, inside⟩
  have all : Block.covered ((region.free.spans ++ region.live.spans).map block) = Finset.range region.capacity := by
    ext number
    rw [Block.mem_covered, Finset.mem_range]
    constructor
    · rintro ⟨_, member, inside⟩
      obtain ⟨span, listed, rfl⟩ := List.mem_map.mp member
      rcases List.mem_append.mp listed with free | live
      · exact ((tiled.tiles number).mp ⟨span, free, inside⟩).1
      · exact tiled.inside number ⟨span, live, inside⟩
    · intro below
      by_cases covered : region.live.Covers number
      · obtain ⟨span, listed, inside⟩ := covered
        exact ⟨block span, List.mem_map_of_mem (List.mem_append_right _ listed), inside⟩
      · obtain ⟨span, listed, inside⟩ := (tiled.tiles number).mpr ⟨below, covered⟩
        exact ⟨block span, List.mem_map_of_mem (List.mem_append_left _ listed), inside⟩
  have count := Block.card_covered pairwise
  rw [all, Finset.card_range, List.map_map, List.map_append, List.sum_append] at count
  rw [freeBytes, SpanMap.total_eq, SpanMap.total_eq]
  exact count.symm

/-- The spans of a region are as they should be. -/
structure Canonical (region : Region) : Prop where
  filled : ∀ span ∈ region.live.spans, 0 < span.len
  disjoint : region.live.spans.Pairwise fun a b => ∀ number ∈ a, number ∉ b
  inside : ∀ span ∈ region.live.spans, span.stop ≤ region.capacity
  gaps : ∀ span, span ∈ region.free.spans ↔ region.Gap span
  apart : region.free.spans.Pairwise fun a b => a.stop < b.start
  bytes : region.freeBytes + region.live.total = region.capacity

theorem Tiled.canonical (tiled : region.Tiled) : region.Canonical where
  filled := tiled.live.filled
  disjoint := by
    refine tiled.live.pairwise.imp ?_
    intro a b clear number inside
    exact clear.not_mem inside
  inside := by
    intro span listed
    have filled := tiled.live.filled span listed
    have last : span.stop - 1 ∈ span := by
      rw [Span.mem_iff]
      unfold Span.stop
      omega
    have below := tiled.inside _ ⟨span, listed, last⟩
    omega
  gaps _ := tiled.mem_free_iff
  apart := by
    refine (region.free.sorted.and tiled.free.pairwise).imp ?_
    rintro a b ⟨low, clear⟩
    unfold Span.Clear Span.stop at *
    omega
  bytes := tiled.bytes

/-! ### Taking all blocks back -/

/-- What a live block is known by. -/
theorem Tiled.owned (tiled : region.Tiled) {offset : Nat} {layout : Layout}
    (live : region.live.find? offset = some layout.size) :
    0 < layout.size ∧ region.offsetOf (region.base + offset) = .ok offset ∧
      region.liveLength offset layout = .ok layout.size := by
  have listed := SpanMap.find?_eq_some_iff.mp live
  have filled : 0 < layout.size := tiled.live.filled _ listed
  have below : offset < region.capacity := tiled.inside offset ⟨_, listed, by rw [Span.mem_mk]; omega⟩
  refine ⟨filled, ?_, ?_⟩
  · rw [offsetOf, if_pos (by omega), Nat.add_sub_cancel_left]
  · simp [liveLength, live]

theorem run_release (tiled : region.Tiled) {offset : Nat} {layout : Layout}
    (live : region.live.find? offset = some layout.size) :
    (backing.release (region.base + offset) layout).run region = ⟨.ok (), [], region.vacate offset layout.size⟩ := by
  obtain ⟨filled, inside, owned⟩ := tiled.owned live
  simp only [backing, Nat.ne_of_gt filled, ↓reduceIte, Act.run_bind, Act.run_get, inside, owned, Act.run_lift_ok]
  rfl

/-- The span of a block at an offset. -/
def spanOf (entry : Nat × Layout) : Span := ⟨entry.1, entry.2.size⟩

/-- Releases the blocks at these offsets one after the other. -/
def releaseEach (base : Nat) : List (Nat × Layout) → Act Region Unit
  | [] => pure ()
  | (offset, layout) :: later => do
    backing.release (base + offset) layout
    releaseEach base later

/-- Releasing every live block leaves none, whatever the order. -/
theorem run_releaseEach (tiled : region.Tiled) {order : List (Nat × Layout)}
    (all : (order.map spanOf).Perm region.live.spans) :
    ∃ region', (releaseEach region.base order).run region = ⟨.ok (), [], region'⟩ ∧ region'.Tiled ∧
      region'.base = region.base ∧ region'.capacity = region.capacity ∧ region'.live = .empty := by
  induction order generalizing region with
  | nil =>
    have none : region.live.spans = [] := all.symm.eq_nil
    refine ⟨region, rfl, tiled, rfl, rfl, ?_⟩
    apply SpanMap.ext_find?
    intro start
    simp [SpanMap.find?, none, SpanMap.empty]
  | cons entry later ih =>
    obtain ⟨offset, layout⟩ := entry
    rw [List.map_cons] at all
    have listed : ⟨offset, layout.size⟩ ∈ region.live.spans := all.subset List.mem_cons_self
    have live := SpanMap.find?_eq_some_iff.mpr listed
    have rest : (later.map spanOf).Perm (region.vacate offset layout.size).live.spans :=
      (SpanMap.erase_perm all.symm).symm
    obtain ⟨region', ran, tiled', base, capacity, none⟩ := ih (tiled.vacated live) rest
    refine ⟨region', ?_, tiled', base, capacity, none⟩
    rw [releaseEach, Act.run_bind_of_ok (run_release tiled live), Outcome.after_nil]
    exact ran

/-! ### Every state that calls reach -/

/-- A block that is granted is aligned and has the size that was asked for; with bytes, it is live then. -/
theorem allocate_ends (region : Region) (layout : Layout) :
    (backing.allocate layout).Ends region fun answer _ region' => ∀ block, answer = .ok block →
      layout.align.bytes ∣ block.addr ∧ block.len = layout.size ∧
        (0 < layout.size → ⟨block.addr - region.base, layout.size⟩ ∈ region'.live.spans) := by
  by_cases empty : layout.size = 0
  · simp [backing, empty, Block.empty]
  simp only [backing, empty, ↓reduceIte, Act.ends_bind, Act.ends_get]
  rcases found : region.firstFit? layout with _ | fit
  · simp
  · simp only [Act.ends_bind, Act.ends_set, Act.ends_pure]
    rintro block granted
    injection granted with granted
    subst granted
    refine ⟨(fits_of_firstFit? found).2.2, rfl, ?_⟩
    intro _
    rw [Nat.add_sub_cancel_left]
    exact SpanMap.mem_insert.mpr (.inl rfl)

/-- A region is made from the heap with all its bytes free. -/
theorem of_create {heap heap' : Heap} {capacity : Nat} {trace : Trace} {fresh : Region}
    (made : (create capacity).run heap = ⟨.ok fresh, trace, heap'⟩) :
    fresh = ofRange fresh.base capacity ∧ alignment.bytes ∣ fresh.base ∧ fresh.base + capacity ≤ heap.limit ∧
      capacity + alignment.bytes ≤ Word.half := by
  unfold create at made
  rcases sized : Layout.ofSize? (max capacity 1) alignment with _ | layout
  · simp [sized] at made
  obtain ⟨size, align⟩ := Layout.ofSize?_eq_some_iff.mp sized
  have fits := layout.fits
  rw [size, align] at fits
  have some : layout.size ≠ 0 := by omega
  simp only [sized, Heap.backing, some, ↓reduceIte, Act.run_bind, Act.run_get] at made
  rcases placed : heap.place? layout with _ | start
  · simp [placed] at made
  simp only [placed, Act.run_bind, Act.run_modify, Act.run_pure, Outcome.after_mk] at made
  injection made with made
  injection made with made
  subst made
  simp only [Heap.place?, Option.filter_eq_some_iff, Alignment.alignUp?_eq_some_iff, decide_eq_true_eq] at placed
  obtain ⟨⟨rounded, _⟩, room⟩ := placed
  refine ⟨rfl, ?_, ?_, ?_⟩
  · show alignment.bytes ∣ start
    rw [rounded, ← align]
    exact Nat.dvd_trans (Alignment.bytes_dvd_max ..) (Alignment.dvd_roundUp ..)
  · show start + capacity ≤ heap.limit
    omega
  · omega

/-- The free list is canonical in every state that calls with any arguments reach from a new region. It is the list of
    the gaps between the live blocks, so it depends on these alone, and after all of them were released, in any order,
    the region is new again. The blocks that calls are answered with are aligned, and a call that faults changes
    nothing. -/
theorem free_canonical {heap heap' : Heap} {capacity : Nat} {created : Trace} {fresh : Region}
    (made : (create capacity).run heap = ⟨.ok fresh, created, heap'⟩) (demands : List Demand) :
    (backing.serveAll demands).Ends fresh fun _ _ region =>
      (region.Canonical ∧ region.base = fresh.base ∧ region.capacity = capacity) ∧
      (∀ others, (backing.serveAll others).Ends fresh fun _ _ other =>
        other.live = region.live → other.free = region.free) ∧
      ((∀ span ∈ region.live.spans, ∃ layout : Layout, layout.size = span.len) ∧
        ∀ order, (order.map spanOf).Perm region.live.spans →
          (releaseEach region.base order).run region = ⟨.ok (), [], fresh⟩) ∧
      (∀ layout, (backing.allocate layout).Ends region fun answer _ region' => ∀ block, answer = .ok block →
        layout.align.bytes ∣ block.addr ∧ block.len = layout.size ∧
          (0 < layout.size → ⟨block.addr - region.base, layout.size⟩ ∈ region'.live.spans)) ∧
      ∀ demand fault, ((backing.serve demand).run region).value = .error fault →
        ((backing.serve demand).run region).state = region := by
  obtain ⟨whole, _, _, fits⟩ := of_create made
  have start : fresh.Tiled ∧ fresh.base = fresh.base ∧ fresh.capacity = capacity := by
    rw [whole]
    exact ⟨tiled_ofRange _ _, rfl, rfl⟩
  have step : ∀ (region : Region) (demand : Demand),
      region.Tiled ∧ region.base = fresh.base ∧ region.capacity = capacity →
      ((backing.serve demand).run region).state.Tiled ∧ ((backing.serve demand).run region).state.base = fresh.base ∧
        ((backing.serve demand).run region).state.capacity = capacity := by
    rintro region demand ⟨tiled, base, room⟩
    obtain ⟨tiled', base', room'⟩ := (serve_moves region demand).tiled tiled
    exact ⟨tiled', base'.trans base, room'.trans room⟩
  refine (Backing.serveAll_ends step start demands).mono ?_
  rintro _ _ region ⟨tiled, base, room⟩
  refine ⟨⟨tiled.canonical, base, room⟩, ?_, ⟨?_, ?_⟩, ?_, ?_⟩
  · intro others
    refine (Backing.serveAll_ends step start others).mono ?_
    rintro _ _ other ⟨tiled', _, room'⟩ live
    exact tiled.free_eq tiled' (room'.trans room.symm) live
  · intro span listed
    have ends := tiled.canonical.inside span listed
    have page := alignment.bytes_pos
    unfold Span.stop at ends
    refine ⟨⟨span.len, .one, ?_⟩, rfl⟩
    show span.len + 1 ≤ Word.half
    omega
  · intro order all
    obtain ⟨region', ran, tiled', base', room', none⟩ := run_releaseEach tiled all
    have live : region'.live = fresh.live := by rw [none, whole]; rfl
    rw [ran, start.1.eq_of_live tiled' (base'.trans base) (by rw [room', room, start.2.2]) live]
  · exact allocate_ends region
  · intro demand fault failed
    have moves := serve_moves region demand
    rw [failed] at moves
    generalize ((backing.serve demand).run region).state = region' at moves
    cases moves with
    | faulted => rfl

/-- A region with two blocks, of which one is made shorter, and a release of a block that is not there. -/
theorem heap_free_canonical :
    ∃ created fresh heap, (create 300).run (Heap.ofSize 16384) = ⟨.ok fresh, created, heap⟩ ∧
      (backing.serveAll [.allocate ⟨100, .one, by decide⟩, .allocate ⟨100, .sixteen, by decide⟩,
          .release (fresh.base + 50) ⟨7, .one, by decide⟩,
          .resizeInPlace fresh.base ⟨100, .one, by decide⟩ 60]).Ends fresh fun _ _ region =>
        region.Canonical ∧
          ∀ order, (order.map spanOf).Perm region.live.spans →
            (releaseEach region.base order).run region = ⟨.ok (), [], fresh⟩ := by
  have made : (create 300).run (Heap.ofSize 16384) =
      ⟨.ok (ofRange Heap.base 300), [], ⟨Heap.base + 300, Heap.base + 16384⟩⟩ := rfl
  refine ⟨_, _, _, made, (free_canonical made _).mono ?_⟩
  rintro _ _ region ⟨⟨canonical, _⟩, _, ⟨_, released⟩, _⟩
  exact ⟨canonical, released⟩

end Region
end BumpArena
