import BumpArena.Proofs.Adjusting
import BumpArena.Proofs.Carving

/-!
The bytes of the newest block are used again. However the block was resized since it was served, giving it back puts
the cursor where it starts (`Arena.run_giveBack`). The padding before it stays in use, so the next request goes to the
same address, if that is aligned for it and the head has room from there on (`Chain.Admits`). Whether the block was
carved from the head as it was, from a longer one or from a new one makes no difference.
-/
namespace BumpArena

namespace Chain

/-- The address is aligned for the request, which ends inside the head if it starts there. -/
structure Admits (chain : Chain) (addr : Nat) (layout : Layout) : Prop where
  divides : layout.align.bytes ∣ addr
  fits : addr + layout.size ≤ chain.headBase + chain.headLength

variable {chain chain' : Chain} {head : Node} {offset : Nat} {block : Block} {layout : Layout}

theorem Crowns.headBase_eq (crowns : chain.Crowns head offset block) : chain.headBase = head.base := by
  obtain ⟨older, nodes⟩ := crowns.nodes
  rw [headBase, nodes]

/-- A block that was just served ends at the cursor of the head, wherever the head comes from. -/
theorem Carves.crowns (carves : Carves layout chain block chain') : ∃ head offset, chain'.Crowns head offset block := by
  cases carves with
  | @head head older cursor fits => exact ⟨head, head.start cursor layout.align, ⟨older, rfl⟩, rfl, rfl⟩

/-- The place of the block would do for the request that it was served for. -/
theorem Carves.admits (sound : chain'.Sound) (carves : Carves layout chain block chain') :
    chain'.Admits block.addr layout := by
  obtain ⟨head, offset, crowns⟩ := carves.crowns
  obtain ⟨_, divides, len, _⟩ := carves.spec sound
  have within := crowns.within sound
  refine ⟨divides, ?_⟩
  rw [crowns.headBase_eq, crowns.headLength_eq, crowns.addr, ← len]
  omega

end Chain

namespace Arena

variable {σ : Type} {backing : Backing σ} {arena : Arena σ} {head : Node} {offset : Nat} {block : Block}

/-- Makes the calls for other sizes of the block and gives back what it is then. -/
def giveBack (block : Block) (adjustments : List Adjustment) : Act (Arena σ) Unit := do
  let (_, last) ← adjustAll block adjustments
  free last

/-- Makes the next request after the block was given back. -/
def reuse (backing : Backing σ) (block : Block) (adjustments : List Adjustment) (layout : Layout) :
    Act (Arena σ) (Except ArenaError Block) := do
  giveBack block adjustments
  alloc backing layout

/-- The cursor goes back to where the block starts, whatever its size was in between. -/
theorem run_giveBack (sound : arena.toChain.Sound) (crowns : arena.toChain.Crowns head offset block)
    (adjustments : List Adjustment) :
    (giveBack block adjustments).run arena = ⟨.ok (), [], { arena with cursor := offset }⟩ := by
  have within := Adjustment.settledLength_le (crowns.within sound) adjustments
  obtain ⟨sound', crowns'⟩ := crowns.moved sound within
  have freed := Chain.run_free_of_tops sound' crowns'.tops
  simp only [Nat.add_sub_cancel_right] at freed
  rw [giveBack, Act.run_bind_of_ok (run_adjustAll sound crowns adjustments), Outcome.after_nil]
  exact run_onChain freed

/-- The next request gets the address of the block, without a call of the backing. -/
theorem run_reuse (sound : arena.toChain.Sound) (crowns : arena.toChain.Crowns head offset block)
    (adjustments : List Adjustment) {layout : Layout} (admits : arena.toChain.Admits block.addr layout) :
    (reuse backing block adjustments layout).run arena =
      ⟨.ok (.ok ⟨block.addr, layout.size⟩), [], { arena with cursor := offset + layout.size }⟩ := by
  obtain ⟨divides, fits⟩ := admits
  rw [crowns.headBase_eq, crowns.headLength_eq, crowns.addr] at fits
  rw [crowns.addr] at divides
  -- Without bytes the block ends where it starts, so the cursor may be there.
  have rewound := (crowns.moved sound (show offset + 0 ≤ head.len by omega)).1
  have room : offset + layout.size ≤ head.len := by omega
  have served : (alloc backing layout).run { arena with cursor := offset } =
      ⟨.ok (.ok ⟨head.base + offset, layout.size⟩), [], { arena with cursor := offset + layout.size }⟩ := by
    apply run_alloc_of_dvd rewound _ divides room
    exact crowns.nodes
  rw [reuse, Act.run_bind_of_ok (run_giveBack sound crowns adjustments), Outcome.after_nil, crowns.addr]
  exact served

end Arena

namespace Estate

variable {σ : Type} {backing : Backing σ} {Out : σ → List Grant → Prop}

/-- In every state that an arena can reach: a block that it serves can be resized any number of times and given back,
    and then the next request gets the same address without a call of the backing, if its alignment divides the
    address and the head has room for it from there on. The request that the block was served for is always one of
    these, and then the arena is exactly as it was right after it served the block. -/
theorem reuses_served (lends : backing.LendsNodes Out) {s : σ} (out : Out s []) (commands : List Command) :
    (carryOutAll (Ledger.backing backing) commands).Ends (ofSource ⟨s, []⟩) fun _ _ estate =>
      ∀ arena, estate.holding = .running arena → ∀ layout,
        (Arena.alloc (Ledger.backing backing) layout).Ends arena fun answer _ served => ∀ block, answer = .ok block →
          served.toChain.Admits block.addr layout ∧ ∀ adjustments,
            (Arena.giveBack block adjustments).run served =
              ⟨.ok (), [], { served with cursor := block.addr - served.headBase }⟩ ∧
            (Arena.reuse (Ledger.backing backing) block adjustments layout).run served = ⟨.ok (.ok block), [], served⟩ ∧
            ∀ layout', served.toChain.Admits block.addr layout' →
              (Arena.reuse (Ledger.backing backing) block adjustments layout').run served =
                ⟨.ok (.ok ⟨block.addr, layout'.size⟩), [],
                  { served with cursor := block.addr - served.headBase + layout'.size }⟩ := by
  refine (reaches_backed lends out commands).mono ?_
  intro _ _ estate backed arena holding layout
  have lends' := lendsNodes_beside (Ledger.lendsNodes lends) estate.lost
  refine (Arena.alloc_ends lends' (backed arena holding) layout).mono ?_
  rintro _ _ served ⟨backed', _, carved⟩ block rfl
  obtain ⟨roomy, _, carves⟩ := carved
  have sound := backed'.sound lends'
  have admits := carves.admits sound
  obtain ⟨head, offset, crowns⟩ := carves.crowns
  have start : block.addr - served.headBase = offset := by
    rw [crowns.headBase_eq, crowns.addr, Nat.add_sub_cancel_left]
  rw [start]
  refine ⟨admits, fun adjustments => ⟨Arena.run_giveBack sound crowns adjustments, ?_, ?_⟩⟩
  · have len := (carves.spec sound).2.2.1
    rw [Arena.run_reuse sound crowns adjustments admits, ← len, crowns.ends]
  · intro layout' admits'
    exact Arena.run_reuse sound crowns adjustments admits'

/-- A block at offset 16 of a head of 64 bytes on the heap, with 11 bytes of padding before it. -/
theorem heap_reuses_served :
    Heap.backing.LendsNodes Heap.Lent ∧ (Heap.ofSize 4096).Lent [] ∧
      ∃ trace estate arena trace' served,
        (carryOutAll (Ledger.backing Heap.backing)
            [.create (.withInitialCapacity 64), .alloc ⟨5, .one, by decide⟩]).run
          (ofSource ⟨Heap.ofSize 4096, []⟩) = ⟨.ok (), trace, estate⟩ ∧
        estate.holding = .running arena ∧
        (Arena.alloc (Ledger.backing Heap.backing) ⟨24, .sixteen, by decide⟩).run arena =
          ⟨.ok (.ok ⟨Heap.base + 16, 24⟩), trace', served⟩ ∧
        served.toChain.Admits (Heap.base + 16) ⟨48, .sixteen, by decide⟩ ∧
        (Arena.reuse (Ledger.backing Heap.backing) ⟨Heap.base + 16, 24⟩ [.resize 48, .remap 3, .resize 49]
            ⟨48, .sixteen, by decide⟩).run served =
          ⟨.ok (.ok ⟨Heap.base + 16, 48⟩), [], { served with cursor := 64 }⟩ := by
  have lends := Heap.contract.lendsNodes
  have out : (Heap.ofSize 4096).Lent [] := Heap.lent_ofSize (by decide)
  obtain ⟨trace, estate, arena, trace', served, ran, holding, allocated, base, length⟩ :
      ∃ trace estate arena trace' served,
        (carryOutAll (Ledger.backing Heap.backing)
            [.create (.withInitialCapacity 64), .alloc ⟨5, .one, by decide⟩]).run
          (ofSource ⟨Heap.ofSize 4096, []⟩) = ⟨.ok (), trace, estate⟩ ∧
        estate.holding = .running arena ∧
        (Arena.alloc (Ledger.backing Heap.backing) ⟨24, .sixteen, by decide⟩).run arena =
          ⟨.ok (.ok ⟨Heap.base + 16, 24⟩), trace', served⟩ ∧
        served.headBase = Heap.base ∧ served.headLength = 64 := ⟨_, _, _, _, _, rfl, rfl, rfl, rfl, rfl⟩
  have admits : served.toChain.Admits (Heap.base + 16) ⟨48, .sixteen, by decide⟩ := by
    refine ⟨by decide, ?_⟩
    rw [base, length]
    exact Nat.le_refl (Heap.base + 64)
  refine ⟨lends, out, trace, estate, arena, trace', served, ran, holding, allocated, admits, ?_⟩
  have reuses := ((reuses_served lends out _).of_run ran arena holding _).of_run allocated _ rfl
  have again := (reuses.2 [.resize 48, .remap 3, .resize 49]).2.2 _ admits
  rwa [base, Nat.add_sub_cancel_left] at again

end Estate
end BumpArena
