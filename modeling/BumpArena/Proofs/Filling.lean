import BumpArena.Proofs.FreeList

/-!
A region with at most one live block, at its beginning (`Region.filledTo`). It has one free span, the rest, so every
call is decided by lengths alone: the block gets every length up to the capacity, a longer block is refused, and with
the block gone the region is new.
-/
namespace BumpArena

namespace SpanMap

/-- The map of one span, or of none if it is empty. -/
def single (span : Span) : SpanMap := empty.insertNonempty span

theorem find?_single (span : Span) (start : Nat) :
    (single span).find? start = if 0 < span.len ∧ span.start = start then some span.len else none := by
  unfold single insertNonempty
  by_cases none : span.len = 0
  · simp [none, find?, empty]
  · have some := Nat.pos_of_ne_zero none
    simp only [none, ↓reduceIte, find?_insert, some, true_and]
    simp [find?, empty]

theorem single_spec (span : Span) (distance : Nat) :
    (single span).Spaced distance ∧ ∀ number, (single span).Covers number ↔ number ∈ span := by
  have clear : ∀ other ∈ empty.spans, other.Clear distance span := by simp [empty]
  obtain ⟨spaced, covers⟩ := (spaced_empty distance).insertNonempty clear
  refine ⟨spaced, ?_⟩
  intro number
  exact (covers number).trans (or_iff_left (not_covers_empty number))

theorem insert_single {start len new : Nat} (filled : 0 < new) :
    (single ⟨start, len⟩).insert ⟨start, new⟩ = single ⟨start, new⟩ := by
  apply ext_find?
  intro other
  rw [find?_insert, find?_single, find?_single]
  by_cases here : start = other
  · simp [here, filled]
  · simp [here]

theorem erase_single (start len : Nat) : (single ⟨start, len⟩).erase start = empty := by
  apply ext_find?
  intro other
  rw [find?_erase, find?_single]
  by_cases here : start = other
  · simp [here, find?, empty]
  · simp [here, find?, empty]

end SpanMap

namespace Region

/-- The region with its first `len` bytes in one live block, or with none if `len` is zero. -/
def filledTo (base capacity len : Nat) : Region := ⟨base, capacity, .single ⟨len, capacity - len⟩, .single ⟨0, len⟩⟩

/-- Where regions lie: on a page and below the end of all addresses. -/
structure Placed (base capacity : Nat) : Prop where
  aligned : alignment.bytes ∣ base
  below : base + capacity < Word.limit
  fits : capacity + alignment.bytes ≤ Word.half

variable {base capacity len : Nat}

/-- A node that is not longer than the region has a layout. -/
theorem Placed.exists_layout (placed : Placed base capacity) (short : len ≤ capacity) :
    ∃ room, Layout.ofSize? len nodeAlignment = some ⟨len, nodeAlignment, room⟩ := by
  have fits := placed.fits
  have small : nodeAlignment.bytes ≤ alignment.bytes := by decide
  have room : len + nodeAlignment.bytes ≤ Word.half := by omega
  exact ⟨room, dif_pos room⟩

theorem filledTo_zero : filledTo base capacity 0 = ofRange base capacity := rfl

theorem tiled_filledTo (within : len ≤ capacity) : (filledTo base capacity len).Tiled := by
  obtain ⟨live, live_iff⟩ := SpanMap.single_spec ⟨0, len⟩ 0
  obtain ⟨free, free_iff⟩ := SpanMap.single_spec ⟨len, capacity - len⟩ 1
  refine ⟨live, free, ?_, ?_⟩
  · intro number covered
    have inside := (live_iff number).mp covered
    rw [Span.mem_mk] at inside
    show number < capacity
    omega
  · intro number
    refine (free_iff number).trans ?_
    rw [filledTo, live_iff number, Span.mem_mk, Span.mem_mk]
    dsimp only
    omega

/-- No region grants more bytes than it has. -/
theorem run_allocate_of_long {region : Region} (tiled : region.Tiled) {layout : Layout}
    (long : region.capacity < layout.size) :
    (backing.allocate layout).run region = ⟨.ok (.error (.ofLayout layout)), [], region⟩ := by
  have none : region.firstFit? layout = none := by
    rw [Option.eq_none_iff_forall_not_mem]
    intro fit found
    obtain ⟨listed, within, _⟩ := fits_of_firstFit? found
    have ends := ((tiled.mem_free_iff).mp listed).1.2.1
    unfold Span.Within at within
    rw [Span.stop_mk] at within
    omega
  have some : layout.size ≠ 0 := by omega
  simp [backing, Act.run_bind, some, none]

/-- An empty region grants what is not longer than itself, at its base. -/
theorem run_allocate_of_empty (placed : Placed base capacity) {layout : Layout} (align : layout.align = nodeAlignment)
    (filled : 0 < layout.size) (short : layout.size ≤ capacity) :
    (backing.allocate layout).run (filledTo base capacity 0) =
      ⟨.ok (.ok ⟨base, layout.size⟩), [], filledTo base capacity layout.size⟩ := by
  have rounded : layout.align.alignUp? base = some base := by
    have divides : nodeAlignment.bytes ∣ base := Nat.dvd_trans (Alignment.bytes_dvd_bytes (by decide)) placed.aligned
    have below := placed.below
    rw [align, Alignment.alignUp?_eq_some_iff, Alignment.roundUp_of_dvd divides]
    exact ⟨rfl, by omega⟩
  have spans : (filledTo base capacity 0).free.spans = [⟨0, capacity⟩] := by
    have some : capacity ≠ 0 := by omega
    simp [filledTo, SpanMap.single, SpanMap.insertNonempty, SpanMap.insert, SpanMap.empty, Span.insertInto, some]
  have found : (filledTo base capacity 0).firstFit? layout = some ⟨⟨0, capacity⟩, 0⟩ := by
    rw [firstFit?, spans]
    simp [fitIn?, filledTo, Fit.padding, rounded, short]
  have tiled := (tiled_filledTo (Nat.zero_le capacity)).occupied filled found
  have live : (SpanMap.single ⟨0, 0⟩).insert ⟨0, layout.size⟩ = .single ⟨0, layout.size⟩ := SpanMap.insert_single filled
  have occupied := (tiled_filledTo short).eq_of_live tiled rfl rfl live
  simp only [backing, Nat.ne_of_gt filled, ↓reduceIte, Act.run_bind, Act.run_get, found, Act.run_set, Act.run_pure,
    Outcome.after_mk, occupied]
  rfl

/-- What a single block at the base is known by. -/
private theorem owned_filledTo (base capacity : Nat) (filled : 0 < len) {layout : Layout} (size : layout.size = len) :
    (filledTo base capacity len).offsetOf base = .ok 0 ∧ (filledTo base capacity len).live.find? 0 = some len ∧
      (filledTo base capacity len).liveLength 0 layout = .ok len := by
  have live : (filledTo base capacity len).live.find? 0 = some len := by
    simp [filledTo, SpanMap.find?_single, filled]
  refine ⟨?_, live, ?_⟩
  · have inside : base ≤ base ∧ base < base + max capacity 1 := by omega
    simp [offsetOf, filledTo, inside]
  · simp [liveLength, live, size]

/-- A single block gets every length that the region has bytes for. -/
theorem run_resize_filledTo (base : Nat) (filled : 0 < len) (within : len ≤ capacity) {layout : Layout}
    (size : layout.size = len) {newSize : Nat} (filled' : 0 < newSize) :
    (backing.resizeInPlace base layout newSize).run (filledTo base capacity len) =
      if newSize ≤ capacity then ⟨.ok true, [], filledTo base capacity newSize⟩
      else ⟨.ok false, [], filledTo base capacity len⟩ := by
  obtain ⟨inside, live, owned⟩ := owned_filledTo base capacity filled size
  have resized : (SpanMap.single ⟨0, len⟩).insert ⟨0, newSize⟩ = .single ⟨0, newSize⟩ := SpanMap.insert_single filled'
  simp only [backing, size, Nat.ne_of_gt filled, Nat.ne_of_gt filled', ↓reduceIte, Act.run_bind, Act.run_get, inside,
    owned, Act.run_lift_ok]
  by_cases shorter : newSize ≤ len
  · have short : newSize ≤ capacity := Nat.le_trans shorter within
    have tiled := (tiled_filledTo within).shrunk live filled' shorter
    have shrunk := (tiled_filledTo short).eq_of_live tiled rfl rfl resized
    simp only [shorter, short, ↓reduceIte, Act.run_bind, Act.run_set, Act.run_pure, Outcome.after_mk, shrunk]
    rfl
  by_cases short : newSize ≤ capacity
  · obtain ⟨longer, room⟩ : ∃ longer, (filledTo base capacity len).grow? 0 len newSize = some longer := by
      have behind : (filledTo base capacity len).free.find? (0 + len) = some (capacity - len) := by
        have some : 0 < capacity - len := by omega
        simp [filledTo, SpanMap.find?_single, some]
      have enough : newSize - len ≤ capacity - len := by omega
      rw [grow?, behind]
      exact ⟨_, if_pos enough⟩
    have tiled := (tiled_filledTo within).grown live (Nat.lt_of_not_le shorter) room
    obtain ⟨_, _, _, same⟩ := exists_of_grow? room
    have grown : longer = filledTo base capacity newSize := by
      refine (tiled_filledTo short).eq_of_live tiled ?_ ?_ ?_
      · rw [same]; rfl
      · rw [same]; rfl
      · rw [same]; exact resized
    simp only [shorter, short, room, ↓reduceIte, Act.run_bind, Act.run_set, Act.run_pure, Outcome.after_mk, grown]
    rfl
  · have room : (filledTo base capacity len).grow? 0 len newSize = none := by
      rw [Option.eq_none_iff_forall_not_mem]
      intro longer room
      obtain ⟨_, behind, enough, _⟩ := exists_of_grow? room
      simp only [filledTo, SpanMap.find?_single] at behind
      split at behind
      · injection behind with behind
        omega
      · contradiction
    simp only [shorter, short, room, ↓reduceIte, Act.run_pure, Outcome.after_mk]
    rfl

theorem run_release_filledTo (base : Nat) (filled : 0 < len) (within : len ≤ capacity) {layout : Layout}
    (size : layout.size = len) :
    (backing.release base layout).run (filledTo base capacity len) = ⟨.ok (), [], filledTo base capacity 0⟩ := by
  subst size
  obtain ⟨_, live, _⟩ := owned_filledTo base capacity filled rfl
  have none : (SpanMap.single ⟨0, layout.size⟩).erase 0 = .single ⟨0, 0⟩ := SpanMap.erase_single 0 layout.size
  have vacated : (filledTo base capacity layout.size).vacate 0 layout.size = filledTo base capacity 0 :=
    (tiled_filledTo (Nat.zero_le capacity)).eq_of_live ((tiled_filledTo within).vacated live) rfl rfl none
  rw [← vacated]
  exact run_release (tiled_filledTo within) live

end Region
end BumpArena
