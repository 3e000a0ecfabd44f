import BumpArena.Proofs.Demands
import BumpArena.Proofs.Rounding
import BumpArena.Proofs.Spans
import BumpArena.Region.Basic

/-!
The free spans of a region. `Region.Moves` lists what a call can make of a region, with any arguments, and
`Region.Tiled` is the invariant that all of it keeps: live spans share no byte, free spans do not even touch, and a
byte of the region is free exactly if it is not live.
-/
namespace BumpArena.Region

variable {region region' : Region}

/-- What a call makes of a region. A fault leaves it alone. -/
inductive Moves (region : Region) : Except Fault Unit → Region → Prop where
  | stays : Moves region (.ok ()) region
  | faulted (fault : Fault) : Moves region (.error fault) region
  | occupied {layout : Layout} {fit : Fit} (filled : 0 < layout.size) (found : region.firstFit? layout = some fit) :
    Moves region (.ok ()) (region.occupy fit layout.size)
  | shrunk {offset old new : Nat} (live : region.live.find? offset = some old) (filled : 0 < new)
    (shorter : new ≤ old) :
    Moves region (.ok ()) (region.shrink offset old new)
  | grown {offset old new : Nat} {longer : Region} (live : region.live.find? offset = some old) (longerThan : old < new)
    (room : region.grow? offset old new = some longer) : Moves region (.ok ()) longer
  | vacated {offset len : Nat} (live : region.live.find? offset = some len) :
    Moves region (.ok ()) (region.vacate offset len)

theorem find?_of_liveLength {offset len : Nat} {layout : Layout} (found : region.liveLength offset layout = .ok len) :
    region.live.find? offset = some len := by
  unfold liveLength at found
  rcases live : region.live.find? offset with _ | other
  · simp [live] at found
  · rw [live] at found
    dsimp only at found
    split at found
    · injection found with same
      rw [same]
    · contradiction

theorem serve_moves (region : Region) (demand : Demand) :
    region.Moves ((backing.serve demand).run region).value ((backing.serve demand).run region).state := by
  cases demand with
  | allocate layout =>
    by_cases empty : layout.size = 0
    · simp only [Backing.serve, backing, empty, ↓reduceIte]
      exact .stays
    · rcases found : region.firstFit? layout with _ | fit
      · simp only [Backing.serve, backing, empty, ↓reduceIte, Act.run_bind, Act.run_get, found]
        exact .stays
      · simp only [Backing.serve, backing, empty, ↓reduceIte, Act.run_bind, Act.run_get, found]
        exact .occupied (Nat.pos_of_ne_zero empty) found
  | resizeInPlace addr layout newSize =>
    by_cases empty : layout.size = 0
    · simp only [Backing.serve, backing, empty, ↓reduceIte]
      exact .stays
    simp only [Backing.serve, backing, empty, ↓reduceIte, Act.run_bind, Act.run_get]
    rcases inside : region.offsetOf addr with fault | offset
    · exact .faulted fault
    rcases owned : region.liveLength offset layout with fault | old
    · simp only [owned, Act.run_lift_ok, Act.run_lift_error]
      exact .faulted fault
    have live := find?_of_liveLength owned
    by_cases gone : newSize = 0
    · simp only [owned, gone, Act.run_lift_ok, ↓reduceIte]
      exact .stays
    by_cases shorter : newSize ≤ old
    · simp only [owned, gone, shorter, Act.run_lift_ok, ↓reduceIte, Act.run_bind]
      exact .shrunk live (Nat.pos_of_ne_zero gone) shorter
    rcases room : region.grow? offset old newSize with _ | longer
    · simp only [owned, gone, shorter, room, Act.run_lift_ok, ↓reduceIte]
      exact .stays
    · simp only [owned, gone, shorter, room, Act.run_lift_ok, ↓reduceIte, Act.run_bind]
      exact .grown live (Nat.lt_of_not_le shorter) room
  | release addr layout =>
    by_cases empty : layout.size = 0
    · simp only [Backing.serve, backing, empty, ↓reduceIte]
      exact .stays
    simp only [Backing.serve, backing, empty, ↓reduceIte, Act.run_bind, Act.run_get]
    rcases inside : region.offsetOf addr with fault | offset
    · exact .faulted fault
    rcases owned : region.liveLength offset layout with fault | len
    · simp only [owned, Act.run_lift_ok, Act.run_lift_error]
      exact .faulted fault
    · simp only [owned, Act.run_lift_ok]
      exact .vacated (find?_of_liveLength owned)

/-- The invariant of a region: it is tiled by its live spans and the free ones, which do not touch. -/
structure Tiled (region : Region) : Prop where
  live : region.live.Spaced 0
  free : region.free.Spaced 1
  inside : ∀ number, region.live.Covers number → number < region.capacity
  tiles : ∀ number, region.free.Covers number ↔ number < region.capacity ∧ ¬ region.live.Covers number

theorem tiled_ofRange (base capacity : Nat) : (ofRange base capacity).Tiled := by
  have clear : ∀ other ∈ SpanMap.empty.spans, other.Clear 1 ⟨0, capacity⟩ := by simp [SpanMap.empty]
  obtain ⟨spaced, covers⟩ := (SpanMap.spaced_empty 1).insertNonempty clear
  refine ⟨SpanMap.spaced_empty 0, spaced, ?_, ?_⟩
  · intro number covered
    exact (SpanMap.not_covers_empty number covered).elim
  · intro number
    have none := SpanMap.not_covers_empty number
    refine (covers number).trans ?_
    rw [Span.mem_iff]
    simp [ofRange, none]

/-- The bytes of a free span become live. -/
theorem Tiled.taken (tiled : region.Tiled) {span : Span} (capacity : region'.capacity = region.capacity)
    (live : region'.live.Spaced 0) (free : region'.free.Spaced 1)
    (free_span : ∀ number ∈ span, region.free.Covers number)
    (live_iff : ∀ number, region'.live.Covers number ↔ number ∈ span ∨ region.live.Covers number)
    (free_iff : ∀ number, region'.free.Covers number ↔ region.free.Covers number ∧ number ∉ span) : region'.Tiled := by
  refine ⟨live, free, ?_, ?_⟩
  · intro number covered
    rw [capacity]
    rcases (live_iff number).mp covered with inside | covered
    · exact ((tiled.tiles number).mp (free_span number inside)).1
    · exact tiled.inside number covered
  · intro number
    rw [capacity, live_iff, free_iff, tiled.tiles]
    tauto

/-- The bytes of a live span become free. -/
theorem Tiled.returned (tiled : region.Tiled) {span : Span} (capacity : region'.capacity = region.capacity)
    (live : region'.live.Spaced 0) (free : region'.free.Spaced 1)
    (live_span : ∀ number ∈ span, region.live.Covers number)
    (live_iff : ∀ number, region'.live.Covers number ↔ region.live.Covers number ∧ number ∉ span)
    (free_iff : ∀ number, region'.free.Covers number ↔ number ∈ span ∨ region.free.Covers number) : region'.Tiled := by
  refine ⟨live, free, ?_, ?_⟩
  · intro number covered
    rw [capacity]
    exact tiled.inside number ((live_iff number).mp covered).1
  · intro number
    have within : number ∈ span → number < region.capacity :=
      fun inside => tiled.inside number (live_span number inside)
    have covered := live_span number
    rw [capacity, live_iff, free_iff, tiled.tiles]
    tauto

/-- What is found for a request is an aligned place for it inside a free span. -/
theorem fits_of_firstFit? {layout : Layout} {fit : Fit} (found : region.firstFit? layout = some fit) :
    fit.span ∈ region.free.spans ∧ Span.Within ⟨fit.start, layout.size⟩ fit.span ∧
      layout.align.bytes ∣ region.base + fit.start := by
  obtain ⟨span, listed, fits⟩ := List.exists_of_findSome?_eq_some found
  simp only [fitIn?, Option.bind_eq_some_iff] at fits
  obtain ⟨aligned, rounded, fits⟩ := fits
  obtain ⟨rfl, _⟩ := Alignment.alignUp?_eq_some_iff.mp rounded
  have after := layout.align.le_roundUp (region.base + span.start)
  split at fits
  · next room =>
    injection fits with fits
    subst fits
    simp only [Fit.padding] at room
    refine ⟨listed, ⟨?_, ?_⟩, ?_⟩
    · dsimp only
      omega
    · unfold Span.stop
      dsimp only
      omega
    · have whole : region.base + (layout.align.roundUp (region.base + span.start) - region.base) =
          layout.align.roundUp (region.base + span.start) := by omega
      dsimp only
      rw [whole]
      exact Alignment.dvd_roundUp ..
  · contradiction

theorem Tiled.occupied (tiled : region.Tiled) {layout : Layout} {fit : Fit} (filled : 0 < layout.size)
    (found : region.firstFit? layout = some fit) : (region.occupy fit layout.size).Tiled := by
  obtain ⟨listed, within, _⟩ := fits_of_firstFit? found
  have free_block : ∀ number ∈ (⟨fit.start, layout.size⟩ : Span), region.free.Covers number := by
    intro number inside
    refine ⟨fit.span, listed, ?_⟩
    obtain ⟨first, last⟩ := within
    rw [Span.mem_mk] at inside
    rw [Span.stop_mk] at last
    exact ⟨Nat.le_trans first inside.1, Nat.lt_of_lt_of_le inside.2 last⟩
  have parts : (region.occupy fit layout.size).free =
      ((region.free.erase fit.span.start).insertNonempty ⟨fit.span.start, fit.start - fit.span.start⟩).insertNonempty
        ⟨fit.start + layout.size, fit.span.stop - (fit.start + layout.size)⟩ := by
    have rest : fit.span.len - fit.padding - layout.size = fit.span.stop - (fit.start + layout.size) := by
      unfold Span.Within Span.stop at *
      unfold Fit.padding
      dsimp only at within
      omega
    rw [occupy, rest]
    rfl
  obtain ⟨free, free_iff⟩ := tiled.free.cut listed within filled parts
  have fresh : ∀ number ∈ (⟨fit.start, layout.size⟩ : Span), ¬ region.live.Covers number :=
    fun number inside => ((tiled.tiles number).mp (free_block number inside)).2
  obtain ⟨live, live_iff⟩ := tiled.live.insert filled (tiled.live.clear_of_not_covers filled fresh)
  exact tiled.taken rfl live free free_block live_iff free_iff

/-- Bytes of live spans are not free. -/
theorem Tiled.not_free (tiled : region.Tiled) {number : Nat} (covered : region.live.Covers number) :
    ¬ region.free.Covers number :=
  fun free => ((tiled.tiles number).mp free).2 covered

theorem Tiled.shrunk (tiled : region.Tiled) {offset old new : Nat} (found : region.live.find? offset = some old)
    (filled : 0 < new) (shorter : new ≤ old) : (region.shrink offset old new).Tiled := by
  have listed := SpanMap.find?_eq_some_iff.mp found
  have live_old : ∀ number ∈ (⟨offset, old⟩ : Span), region.live.Covers number :=
    fun number inside => ⟨_, listed, inside⟩
  have live_tail : ∀ number ∈ (⟨offset + new, old - new⟩ : Span), region.live.Covers number := by
    intro number inside
    apply live_old number
    rw [Span.mem_mk] at inside ⊢
    omega
  obtain ⟨live, live_iff⟩ := tiled.live.resized listed filled (by intros; omega)
  obtain ⟨free, free_iff⟩ := tiled.free.insertMerged fun number inside => tiled.not_free (live_tail number inside)
  refine tiled.returned rfl live free live_tail ?_ free_iff
  intro number
  refine (live_iff number).trans ?_
  by_cases inside : number ∈ (⟨offset, old⟩ : Span)
  · have covered := live_old number inside
    rw [Span.mem_iff] at inside
    simp only [covered, Span.mem_iff, true_and]
    omega
  · have outside : number ∉ (⟨offset, new⟩ : Span) ∧ number ∉ (⟨offset + new, old - new⟩ : Span) := by
      simp only [Span.mem_iff] at inside ⊢
      omega
    simp [inside, outside.1, outside.2]

/-- A live block grows into the free span right behind it. -/
theorem exists_of_grow? {offset old new : Nat} (room : region.grow? offset old new = some region') :
    ∃ len, region.free.find? (offset + old) = some len ∧ new - old ≤ len ∧
      region' = { region with
        free := (region.free.erase (offset + old)).insertNonempty ⟨offset + new, len - (new - old)⟩
        live := region.live.insert ⟨offset, new⟩ } := by
  unfold grow? at room
  split at room
  · contradiction
  · next len behind =>
    split at room
    · next enough =>
      injection room with room
      exact ⟨len, behind, enough, room.symm⟩
    · contradiction

theorem Tiled.grown (tiled : region.Tiled) {offset old new : Nat} (found : region.live.find? offset = some old)
    (longerThan : old < new) (room : region.grow? offset old new = some region') : region'.Tiled := by
  have listed := SpanMap.find?_eq_some_iff.mp found
  obtain ⟨len, behind, enough, rfl⟩ := exists_of_grow? room
  have next := SpanMap.find?_eq_some_iff.mp behind
  have within : Span.Within ⟨offset + old, new - old⟩ ⟨offset + old, len⟩ := by
    unfold Span.Within Span.stop
    dsimp only
    omega
  have free_block : ∀ number ∈ (⟨offset + old, new - old⟩ : Span), region.free.Covers number := by
    intro number inside
    refine ⟨_, next, ?_⟩
    rw [Span.mem_mk] at inside ⊢
    omega
  have parts : (region.free.erase (offset + old)).insertNonempty ⟨offset + new, len - (new - old)⟩ =
      ((region.free.erase (offset + old)).insertNonempty ⟨offset + old, offset + old - (offset + old)⟩).insertNonempty
        ⟨Span.stop ⟨offset + old, new - old⟩, Span.stop ⟨offset + old, len⟩ - Span.stop ⟨offset + old, new - old⟩⟩ := by
    have stop : Span.stop ⟨offset + old, new - old⟩ = offset + new := by
      rw [Span.stop_mk]
      omega
    have rest : Span.stop ⟨offset + old, len⟩ - (offset + new) = len - (new - old) := by
      rw [Span.stop_mk]
      omega
    rw [stop, rest, Nat.sub_self]
    rfl
  obtain ⟨free, free_iff⟩ := tiled.free.cut next within (Nat.sub_pos_of_lt longerThan) parts
  have fresh : ∀ number, offset + old ≤ number → number < offset + new → ¬ region.live.Covers number := by
    intro number first last
    have inside : number ∈ (⟨offset + old, new - old⟩ : Span) := by
      rw [Span.mem_mk]
      omega
    exact ((tiled.tiles number).mp (free_block number inside)).2
  obtain ⟨live, live_iff⟩ := tiled.live.resized listed (Nat.lt_of_le_of_lt (Nat.zero_le old) longerThan) fresh
  refine tiled.taken rfl live free free_block ?_ free_iff
  intro number
  refine (live_iff number).trans ?_
  by_cases inside : number ∈ (⟨offset, old⟩ : Span)
  · have covered : region.live.Covers number := ⟨_, listed, inside⟩
    rw [Span.mem_iff] at inside
    simp only [covered, Span.mem_iff, or_true, iff_true, true_and]
    omega
  · have same : number ∈ (⟨offset, new⟩ : Span) ↔ number ∈ (⟨offset + old, new - old⟩ : Span) := by
      simp only [Span.mem_iff] at inside ⊢
      omega
    simp [inside, same]

theorem Tiled.vacated (tiled : region.Tiled) {offset len : Nat} (found : region.live.find? offset = some len) :
    (region.vacate offset len).Tiled := by
  have listed := SpanMap.find?_eq_some_iff.mp found
  have live_span : ∀ number ∈ (⟨offset, len⟩ : Span), region.live.Covers number :=
    fun number inside => ⟨_, listed, inside⟩
  obtain ⟨free, free_iff⟩ := tiled.free.insertMerged fun number inside => tiled.not_free (live_span number inside)
  exact tiled.returned rfl (tiled.live.erase offset) free live_span (tiled.live.covers_erase listed) free_iff

/-- Every call keeps the invariant, and the region itself stays where it is. -/
theorem Moves.tiled {outcome : Except Fault Unit} (moves : region.Moves outcome region') (tiled : region.Tiled) :
    region'.Tiled ∧ region'.base = region.base ∧ region'.capacity = region.capacity := by
  cases moves with
  | stays => exact ⟨tiled, rfl, rfl⟩
  | faulted => exact ⟨tiled, rfl, rfl⟩
  | occupied filled found => exact ⟨tiled.occupied filled found, rfl, rfl⟩
  | shrunk live filled shorter => exact ⟨tiled.shrunk live filled shorter, rfl, rfl⟩
  | grown live longerThan room =>
    obtain ⟨len, _, _, rfl⟩ := exists_of_grow? room
    exact ⟨tiled.grown live longerThan room, rfl, rfl⟩
  | vacated live => exact ⟨tiled.vacated live, rfl, rfl⟩

end BumpArena.Region
