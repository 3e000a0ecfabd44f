import BumpArena.Proofs.FirstFit

/-!
How a region gives a live block another size. To grow it looks at one free span only, the one that starts where the
block ends; no two free spans touch, so the bytes behind the block are all unused exactly if that span has them
(`Region.exists_grow?_iff`). Shrinking always works, unless nothing would be left. Both come to one map of live
blocks, and the free spans follow from that map, so a block that gets its old size back leaves the region as it was.
-/
namespace BumpArena

/-- A span that gets another length and then its old one back. -/
theorem SpanMap.insert_insert {map : SpanMap} {start old : Nat} (listed : map.find? start = some old) (new : Nat) :
    (map.insert ⟨start, new⟩).insert ⟨start, old⟩ = map := by
  apply ext_find?
  intro other
  rw [find?_insert, find?_insert]
  by_cases here : start = other
  · simp [← here, listed]
  · simp [here]

namespace Region

variable {region region' : Region} {layout : Layout} {offset old new : Nat}

/-- The bytes from one offset up to another lie in the region and belong to no live block. -/
def Unused (region : Region) (first last : Nat) : Prop :=
  ∀ number, first ≤ number → number < last → number < region.capacity ∧ ¬ region.live.Covers number

/-- A live block can grow exactly if the bytes that it would get are unused. -/
theorem exists_grow?_iff (tiled : region.Tiled) (live : region.live.find? offset = some old) (longer : old < new) :
    (∃ grown, region.grow? offset old new = some grown) ↔ region.Unused (offset + old) (offset + new) := by
  constructor
  · rintro ⟨grown, room⟩ number first last
    obtain ⟨len, behind, enough, _⟩ := exists_of_grow? room
    refine (tiled.tiles number).mp ⟨_, SpanMap.find?_eq_some_iff.mp behind, ?_⟩
    rw [Span.mem_mk]
    omega
  · intro unused
    have free : ∀ number ∈ (⟨offset + old, new - old⟩ : Span), region.free.Covers number := by
      intro number inside
      rw [Span.mem_mk] at inside
      exact (tiled.tiles number).mpr (unused number (by omega) (by omega))
    obtain ⟨outer, listed, first, last⟩ := tiled.free.within_of_covers (Nat.sub_pos_of_lt longer) free
    rw [Span.stop_mk] at last
    unfold Span.stop at last
    dsimp only at first
    have block := SpanMap.find?_eq_some_iff.mp live
    have filled : 0 < old := tiled.live.filled _ block
    have starts : outer.start = offset + old := by
      by_contra other
      -- Then the last byte of the block would be free.
      have taken : region.live.Covers (offset + old - 1) := ⟨_, block, by rw [Span.mem_mk]; omega⟩
      exact tiled.not_free taken ⟨outer, listed, by rw [Span.mem_iff]; omega⟩
    have behind : region.free.find? (offset + old) = some outer.len := by
      rw [SpanMap.find?_eq_some_iff, ← starts]
      exact listed
    have enough : new - old ≤ outer.len := by omega
    rw [grow?, behind]
    exact ⟨_, if_pos enough⟩

/-- What becomes of a region when a live block of `old` bytes is to have `new` ones. -/
structure Resized (region : Region) (offset old new : Nat) (granted : Bool) (region' : Region) : Prop where
  tiled : region'.Tiled
  base : region'.base = region.base
  capacity : region'.capacity = region.capacity
  granted_iff : granted = true ↔ 0 < new ∧ region.Unused (offset + old) (offset + new)
  live : granted = true → region'.live = region.live.insert ⟨offset, new⟩
  refused : granted = false → region' = region

theorem Resized.refusal (tiled : region.Tiled)
    (impossible : ¬ (0 < new ∧ region.Unused (offset + old) (offset + new))) :
    Resized region offset old new false region where
  tiled := tiled
  base := rfl
  capacity := rfl
  granted_iff := by simpa using impossible
  live := by simp
  refused _ := rfl

theorem resizeInPlace_resized (tiled : region.Tiled) (live : region.live.find? offset = some layout.size) (new : Nat) :
    (backing.resizeInPlace (region.base + offset) layout new).Ends region fun granted _ region' =>
      Resized region offset layout.size new granted region' := by
  obtain ⟨filled, inside, owned⟩ := tiled.owned live
  simp only [backing, Nat.ne_of_gt filled, ↓reduceIte, Act.ends_bind, Act.ends_get, inside, owned, Act.ends_lift_ok]
  by_cases gone : new = 0
  · simp only [gone, ↓reduceIte, Act.ends_pure]
    exact .refusal tiled (by simp)
  have filled' : 0 < new := Nat.pos_of_ne_zero gone
  by_cases shorter : new ≤ layout.size
  · simp only [gone, shorter, ↓reduceIte, Act.ends_bind, Act.ends_set, Act.ends_pure]
    have unused : region.Unused (offset + layout.size) (offset + new) := by
      intro number first last
      omega
    exact ⟨tiled.shrunk live filled' shorter, rfl, rfl, by simp [filled', unused], fun _ => rfl, by simp⟩
  have longer := Nat.lt_of_not_le shorter
  have possible := exists_grow?_iff tiled live longer
  rcases room : region.grow? offset layout.size new with _ | grown
  · simp only [gone, shorter, ↓reduceIte, Act.ends_pure]
    rw [room] at possible
    exact .refusal tiled (by simp [← possible])
  · simp only [gone, shorter, ↓reduceIte, Act.ends_bind, Act.ends_set, Act.ends_pure]
    have unused := possible.mp ⟨grown, room⟩
    have tiled' := tiled.grown live longer room
    obtain ⟨_, _, _, rfl⟩ := exists_of_grow? room
    exact ⟨tiled', rfl, rfl, by simp [filled', unused], fun _ => rfl, by simp⟩

/-- A block that was given another size is given its old size back, and the region is what it was. -/
theorem Resized.undone (resized : Resized region offset old new true region') (tiled : region.Tiled)
    (live : region.live.find? offset = some old) {back : Layout} (size : back.size = new) :
    (backing.resizeInPlace (region.base + offset) back old).Ends region' fun granted _ last =>
      granted = true ∧ last = region := by
  have listed := SpanMap.find?_eq_some_iff.mp live
  have filled : 0 < old := tiled.live.filled _ listed
  obtain ⟨filled', fresh⟩ := resized.granted_iff.mp rfl
  have now : region'.live.find? offset = some back.size := by
    rw [resized.live rfl, SpanMap.find?_insert, size, if_pos rfl]
  have unused : region'.Unused (offset + back.size) (offset + old) := by
    intro number first last
    have within : number ∈ (⟨offset, old⟩ : Span) := by
      rw [Span.mem_mk]
      omega
    obtain ⟨_, covers⟩ := tiled.live.resized listed filled' fun number first last => (fresh number first last).2
    rw [resized.capacity, resized.live rfl, covers number, Span.mem_mk]
    refine ⟨tiled.inside number ⟨_, listed, within⟩, ?_⟩
    rintro (short | ⟨_, outside⟩)
    · omega
    · exact outside within
  rw [← resized.base]
  refine (resizeInPlace_resized resized.tiled now old).mono ?_
  intro granted _ last again
  obtain rfl : granted = true := again.granted_iff.mpr ⟨filled, unused⟩
  have restored : last.live = region.live := by
    rw [again.live rfl, resized.live rfl, SpanMap.insert_insert live]
  exact ⟨rfl, tiled.eq_of_live again.tiled (again.base.trans resized.base) (again.capacity.trans resized.capacity)
    restored⟩

/-- How a resize is answered: it is granted exactly if something is left of the block and the bytes that it gets are
    unused. Then the block has the new size where it is, and it can get the old one back; else nothing changes. -/
structure Refits (region : Region) (offset old new : Nat) (granted : Bool) (region' : Region) : Prop where
  granted_iff : granted = true ↔ 0 < new ∧ region.Unused (offset + old) (offset + new)
  resized : granted = true → region'.base = region.base ∧ region'.capacity = region.capacity ∧
    ∀ other, region'.live.find? other = if other = offset then some new else region.live.find? other
  restores : granted = true → (∃ back : Layout, back.size = new) ∧ ∀ back : Layout, back.size = new →
    (backing.resizeInPlace (region.base + offset) back old).Ends region' fun again _ last =>
      again = true ∧ last = region
  refused : granted = false → region' = region

/-- What fits into a region has a layout. -/
theorem exists_layout (fits : region.capacity + alignment.bytes ≤ Word.half) (short : new ≤ region.capacity) :
    ∃ layout : Layout, layout.size = new := by
  have least : Alignment.one.bytes ≤ alignment.bytes := by decide
  exact ⟨⟨new, .one, by omega⟩, rfl⟩

theorem Resized.refits {granted : Bool} (resized : Resized region offset old new granted region') (tiled : region.Tiled)
    (live : region.live.find? offset = some old) (fits : region.capacity + alignment.bytes ≤ Word.half) :
    Refits region offset old new granted region' where
  granted_iff := resized.granted_iff
  resized := by
    intro granted
    refine ⟨resized.base, resized.capacity, ?_⟩
    intro other
    rw [resized.live granted, SpanMap.find?_insert]
    by_cases here : offset = other
    · simp [here]
    · simp [here, Ne.symm here]
  restores := by
    rintro rfl
    have now : ⟨offset, new⟩ ∈ region'.live.spans := by
      rw [← SpanMap.find?_eq_some_iff, resized.live rfl, SpanMap.find?_insert, if_pos rfl]
    have ends := resized.tiled.canonical.inside _ now
    rw [Span.stop_mk, resized.capacity] at ends
    exact ⟨exists_layout fits (by omega), fun back size => resized.undone tiled live size⟩
  refused := resized.refused

/-- In every state that calls with any arguments reach from a new region, a live block gets a new size exactly if
    there is one and the bytes between its old end and its new one lie in the region and are not live. The block stays
    where it is, all others are as before, and with its old size it takes the region back to where it was. -/
theorem resizes_exactly {heap heap' : Heap} {capacity : Nat} {created : Trace} {fresh : Region}
    (made : (create capacity).run heap = ⟨.ok fresh, created, heap'⟩) (demands : List Demand) :
    (backing.serveAll demands).Ends fresh fun _ _ region =>
      (region.base = fresh.base ∧ region.capacity = capacity) ∧
      ∀ (offset : Nat) (layout : Layout), region.live.find? offset = some layout.size → ∀ new,
        (backing.resizeInPlace (region.base + offset) layout new).Ends region fun granted _ region' =>
          Refits region offset layout.size new granted region' := by
  obtain ⟨_, _, _, fits⟩ := of_create made
  refine (serveAll_tiled made demands).mono ?_
  rintro _ _ region ⟨tiled, base, room⟩
  refine ⟨⟨base, room⟩, ?_⟩
  intro offset layout live new
  refine (resizeInPlace_resized tiled live new).mono ?_
  intro granted _ region' resized
  exact resized.refits tiled live (room ▸ fits)

/-- Calls that leave a gap behind the first block. -/
def gapped : List Demand :=
  [.allocate ⟨100, .one, by decide⟩, .allocate ⟨60, .one, by decide⟩, .allocate ⟨100, .one, by decide⟩,
    .release (Heap.base + 100) ⟨60, .one, by decide⟩]

/-- The block before the gap grows over all of it. -/
theorem heap_resizes_exactly :
    ∃ created fresh heap, (create 300).run (Heap.ofSize 16384) = ⟨.ok fresh, created, heap⟩ ∧
      ∃ trace region, (backing.serveAll gapped).run fresh = ⟨.ok (), trace, region⟩ ∧
        region.live.find? 0 = some 100 ∧
        (backing.resizeInPlace (region.base + 0) ⟨100, .one, by decide⟩ 160).Ends region fun granted _ region' =>
          Refits region 0 100 160 granted region' := by
  have made : (create 300).run (Heap.ofSize 16384) =
      ⟨.ok (ofRange Heap.base 300), [], ⟨Heap.base + 300, Heap.base + 16384⟩⟩ := rfl
  have ended : ((backing.serveAll gapped).run (ofRange Heap.base 300)).value = .ok () := by decide +kernel
  have live : ((backing.serveAll gapped).run (ofRange Heap.base 300)).state.live.find? 0 = some 100 := by decide +kernel
  have ran := Act.run_of_value ended
  obtain ⟨_, refits⟩ := (resizes_exactly made gapped).of_run ran
  exact ⟨_, _, _, made, _, _, ran, live, refits 0 ⟨100, .one, by decide⟩ live 160⟩

end Region
end BumpArena
