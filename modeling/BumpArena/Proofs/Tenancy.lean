import BumpArena.Proofs.Nesting
import BumpArena.Proofs.Seating

/-!
A client of an arena. The client keeps the blocks that it was handed as leases and names only live ones in
its requests, each by the block as it is now; `performAll` runs any list of such requests. The arena does
not know the leases, so `Tenancy.Sound` ties them to the chain. One request keeps it and lets every other
lease be (`perform_ends`), hence so does every run (`performAll_ends`).
-/
namespace BumpArena

/-- Bytes that are written to a block leave all others as they are. -/
theorem Memory.byteAt_write_of_not_mem {memory : Memory} {block : Block} {bytes : List UInt8} {address : Nat}
    (fits : bytes.length ≤ block.len) (outside : address ∉ block) :
    (memory.write block.addr bytes).byteAt address = memory.byteAt address := by
  rw [Block.mem_iff] at outside
  by_cases before : address < block.addr
  · exact byteAt_write_of_lt before
  · exact byteAt_write_of_ge (by omega)

/-- A block that a client holds. The seat is where it was carved. -/
structure Lease where
  id : Nat
  grant : Grant
  seat : Seat

namespace Lease

def block (lease : Lease) : Block := lease.grant.block

def align (lease : Lease) : Alignment := lease.grant.align

/-- The lease with the block that the arena answered, which keeps its seat unless it was carved anew. -/
def revised (lease : Lease) (chain : Chain) (block : Block) : Lease :=
  { lease with
    grant := ⟨block, lease.align⟩
    seat := chain.reseat lease.seat lease.block block.len }

/-- Changes the first lease of this name, or takes it out. -/
def replace (id : Nat) (lease? : Option Lease) : List Lease → List Lease
  | [] => []
  | lease :: rest => if lease.id = id then lease?.toList ++ rest else lease :: replace id lease? rest

theorem exists_of_find? {id : Nat} {leases : List Lease} {lease : Lease}
    (found : leases.find? (fun lease => lease.id == id) = some lease) :
    lease.id = id ∧ ∃ before after, leases = before ++ lease :: after ∧
      ∀ lease?, replace id lease? leases = before ++ lease?.toList ++ after := by
  induction leases with
  | nil => contradiction
  | cons first rest ih =>
    by_cases same : first.id = id
    · rw [List.find?_cons_of_pos (by simpa using same)] at found
      injection found with found
      subst found
      exact ⟨same, [], rest, rfl, fun lease? => by simp [replace, same]⟩
    · rw [List.find?_cons_of_neg (by simpa using same)] at found
      obtain ⟨named, before, after, rfl, replaced⟩ := ih found
      exact ⟨named, first :: before, after, rfl, fun lease? => by simp [replace, same, replaced]⟩

end Lease

/-- An arena, the memory, and the leases of its client. No lease has the name `next` yet. -/
structure Tenancy (σ : Type) where
  arena : Arena σ
  memory : Memory
  leases : List Lease
  next : Nat

/-- What a client can do: ask the arena itself or as a backing, write to a block of its own, and move the
    whole chain to a new arena. -/
inductive Request where
  | alloc (layout : Layout)
  | allocCopy (bytes : List UInt8)
  | resize (id newSize : Nat)
  | remap (id newSize : Nat)
  | free (id : Nat)
  | allocate (layout : Layout)
  | resizeInPlace (id newSize : Nat)
  | release (id : Nat)
  | write (id : Nat) (bytes : List UInt8)
  | reset (retention : Retention)
  | promote
  | attach (settings : Settings)
  deriving DecidableEq

/-- The client itself writes to the lease of this name. -/
def Request.Writes (request : Request) (id : Nat) : Prop := ∃ bytes, request = .write id bytes

namespace Tenancy

variable {σ α : Type}

def ofArena (arena : Arena σ) (memory : Memory) : Tenancy σ := ⟨arena, memory, [], 0⟩

def onArena (act : Act (Arena σ) α) : Act (Tenancy σ) α :=
  act.zoom Tenancy.arena fun tenancy arena => { tenancy with arena }

/-- Asks for a block and leases it. -/
def lend (align : Alignment) (act : Memory → Act (Arena σ) (Option (Block × Memory))) : Act (Tenancy σ) Unit := do
  match ← onArena (act (← get).memory) with
  | none => return ()
  | some (block, memory) =>
    modify fun tenancy =>
      { tenancy with
        memory
        leases := ⟨tenancy.next, ⟨block, align⟩, tenancy.arena.seat block.addr⟩ :: tenancy.leases
        next := tenancy.next + 1 }

/-- Calls the arena with the block of a live lease. -/
def onLease (id : Nat) (act : Lease → Act (Arena σ) (Option Lease)) : Act (Tenancy σ) Unit := do
  match (← get).leases.find? (fun lease => lease.id == id) with
  | none => return ()
  | some lease =>
    let lease? ← onArena (act lease)
    modify fun tenancy => { tenancy with leases := Lease.replace id lease? tenancy.leases }

def evict : Act (Tenancy σ) Unit := modify fun tenancy => { tenancy with leases := [] }

def settle (lease : Lease) (newSize : Nat) (granted : Bool) : Act (Arena σ) (Option Lease) := do
  if granted then
    return some (lease.revised (← get).toChain { lease.block with len := newSize })
  else
    return some lease

/-- Takes the chain out of its arena and puts it into a new one with these settings. -/
def reattach (backing : Backing σ) (settings : Settings) : Act (Arena σ) (Except ArenaError Unit) := fun arena =>
  let (chain, source) := arena.detach
  chain.attach backing source settings

open Arena in
def perform (backing : Backing σ) : Request → Act (Tenancy σ) Unit
  | .alloc layout => lend layout.align fun memory => do
    return (← alloc backing layout).toOption.map fun block => (block, memory)
  | .allocCopy bytes => lend .one fun memory => do
    return (← allocCopy backing bytes memory).toOption
  | .allocate layout => lend layout.align fun memory => do
    return (← (asBacking backing).allocate layout).toOption.map fun block => (block, memory)
  | .resize id newSize => onLease id fun lease => do
    settle lease newSize (← resize lease.block newSize)
  | .remap id newSize => onLease id fun lease => do
    match ← remap lease.block newSize with
    | some block => return some (lease.revised (← get).toChain block)
    | none => return some lease
  | .resizeInPlace id newSize => onLease id fun lease => do
    match Layout.ofSize? lease.block.len lease.align with
    | some layout => settle lease newSize (← (asBacking backing).resizeInPlace lease.block.addr layout newSize)
    | none => return some lease
  | .free id => onLease id fun lease => do
    free lease.block
    return none
  | .release id => onLease id fun lease => do
    match Layout.ofSize? lease.block.len lease.align with
    | some layout =>
      (asBacking backing).release lease.block.addr layout
      return none
    | none => return some lease
  | .write id bytes => do
    match (← get).leases.find? (fun lease => lease.id == id) with
    | some lease =>
      modify fun tenancy =>
        { tenancy with memory := tenancy.memory.write lease.block.addr (bytes.take lease.block.len) }
    | none => return ()
  | .reset retention => do
    let _ ← onArena (reset backing retention)
    evict
  | .promote => modify fun tenancy =>
      let (chain, source) := tenancy.arena.detach
      { tenancy with arena := chain.promote source }
  | .attach settings => do
    match ← onArena (reattach backing settings) with
    | .ok () => return ()
    | .error _ => evict

def performAll (backing : Backing σ) : List Request → Act (Tenancy σ) Unit
  | [] => pure ()
  | request :: later => do
    perform backing request
    performAll backing later

/-! ### What a request keeps -/

variable {backing : Backing σ} {Out : σ → List Grant → Prop} {tenancy tenancy' : Tenancy σ}

/-- The invariant that ties the leases to the arena. -/
structure Sound (Out : σ → List Grant → Prop) (tenancy : Tenancy σ) : Prop where
  lent : tenancy.arena.Lent Out (tenancy.leases.map Lease.grant)
  seated : ∀ lease ∈ tenancy.leases, tenancy.arena.toChain.Seats lease.seat lease.block
  named : ∀ lease ∈ tenancy.leases, lease.id < tenancy.next
  distinct : (tenancy.leases.map Lease.id).Nodup

theorem Sound.of_arena {arena : Arena σ} (backed : arena.Backed Out) (memory : Memory) :
    (ofArena arena memory).Sound Out :=
  ⟨Arena.lent_nil.mpr backed, by simp [ofArena], by simp [ofArena], .nil⟩

/-- A later lease is the same lease as an earlier one. -/
structure Continues (lease lease' : Lease) : Prop where
  id : lease'.id = lease.id
  addr : lease'.block.addr = lease.block.addr
  align : lease'.align = lease.align

/-- The later leases are earlier ones where they were, or have a new name. -/
structure Follows (tenancy tenancy' : Tenancy σ) : Prop where
  next_le : tenancy.next ≤ tenancy'.next
  continued : ∀ lease' ∈ tenancy'.leases, lease'.id < tenancy.next → ∃ lease ∈ tenancy.leases, Continues lease lease'

theorem Follows.refl (tenancy : Tenancy σ) : tenancy.Follows tenancy :=
  ⟨Nat.le_refl _, fun lease member _ => ⟨lease, member, rfl, rfl, rfl⟩⟩

theorem Follows.trans {tenancy'' : Tenancy σ} (first : tenancy.Follows tenancy')
    (second : tenancy'.Follows tenancy'') : tenancy.Follows tenancy'' := by
  refine ⟨Nat.le_trans first.next_le second.next_le, ?_⟩
  intro lease'' member'' old
  obtain ⟨lease', member', id', addr', align'⟩ :=
    second.continued lease'' member'' (Nat.lt_of_lt_of_le old first.next_le)
  obtain ⟨lease, member, id, addr, align⟩ := first.continued lease' member' (id' ▸ old)
  exact ⟨lease, member, id'.trans id, addr'.trans addr, align'.trans align⟩

/-- What a step makes of a tenancy, and which leases keep their bytes in it. -/
structure Step (Out : σ → List Grant → Prop) (spared : Nat → Prop) (tenancy tenancy' : Tenancy σ) : Prop where
  sound : tenancy'.Sound Out
  follows : tenancy.Follows tenancy'
  keeps : ∀ lease ∈ tenancy.leases, spared lease.id → ∀ address ∈ lease.block,
    tenancy'.memory.byteAt address = tenancy.memory.byteAt address

variable {spared : Nat → Prop}

/-- Another arena with the same chain does as well. -/
theorem Sound.rehoused (sound : tenancy.Sound Out) {arena : Arena σ} (backed : arena.Backed Out)
    (chain : arena.toChain = tenancy.arena.toChain) : Step Out spared tenancy { tenancy with arena } where
  sound :=
    { lent := sound.lent.of_covers backed fun grant member => chain ▸ (sound.lent.owes grant member).covers
      seated := fun lease member => chain ▸ sound.seated lease member
      named := sound.named
      distinct := sound.distinct }
  follows := ⟨Nat.le_refl _, (Follows.refl tenancy).continued⟩
  keeps _ _ _ _ _ := rfl

theorem Step.evicted {arena : Arena σ} (backed : arena.Backed Out) :
    Step Out spared tenancy { tenancy with arena, leases := [] } where
  sound := ⟨Arena.lent_nil.mpr backed, by simp, by simp, .nil⟩
  follows := ⟨Nat.le_refl _, by simp⟩
  keeps _ _ _ _ _ := rfl

/-- What is asked of a call for a fresh block. -/
def Serves (Out : σ → List Grant → Prop) (tenancy : Tenancy σ) (align : Alignment)
    (answer : Option (Block × Memory)) (arena' : Arena σ) : Prop :=
  arena'.Backed Out ∧
    match answer with
    | none => arena'.toChain = tenancy.arena.toChain
    | some (block, memory) =>
      (∃ config layout roomy, layout.align = align ∧ tenancy.arena.toChain.MakesRoom config layout roomy ∧
        roomy.Carves layout block arena'.toChain) ∧
      ∀ address, address ∉ block → memory.byteAt address = tenancy.memory.byteAt address

theorem lend_ends (lends : backing.LendsNodes Out) (sound : tenancy.Sound Out) {align : Alignment}
    {act : Memory → Act (Arena σ) (Option (Block × Memory))}
    (acts : (act tenancy.memory).Ends tenancy.arena fun answer _ arena' => Serves Out tenancy align answer arena') :
    (lend align act).Ends tenancy fun _ _ tenancy' => Step Out spared tenancy tenancy' := by
  simp only [lend, onArena, Act.ends_bind, Act.ends_get, Act.ends_zoom]
  refine acts.mono ?_
  rintro (_ | ⟨block, memory⟩) _ arena' ⟨backed, served⟩
  · exact (Act.ends_pure ..).mpr (sound.rehoused backed served)
  obtain ⟨⟨config, layout, roomy, rfl, made, carves⟩, written⟩ := served
  obtain ⟨len, lent⟩ := sound.lent.carved lends backed made carves
  have grant : layout.grant block.addr = ⟨block, layout.align⟩ := by rw [Layout.grant, ← len]
  rw [grant] at lent
  obtain ⟨_, _, apart⟩ := Arena.lent_cons.mp lent
  rw [Act.ends_modify]
  refine ⟨⟨lent, ?_, ?_, ?_⟩, ⟨Nat.le_succ _, ?_⟩, ?_⟩
  · refine List.forall_mem_cons.mpr ⟨carves.seats.1, ?_⟩
    intro lease member
    exact carves.seats.2 _ _ (made.seats (sound.seated lease member))
  · refine List.forall_mem_cons.mpr ⟨Nat.lt_succ_self _, ?_⟩
    intro lease member
    exact Nat.lt_succ_of_lt (sound.named lease member)
  · refine List.nodup_cons.mpr ⟨?_, sound.distinct⟩
    intro member
    obtain ⟨lease, listed, same⟩ := List.mem_map.mp member
    exact Nat.ne_of_lt (sound.named lease listed) same
  · intro lease' member old
    rcases List.mem_cons.mp member with rfl | member
    · exact (Nat.lt_irrefl _ old).elim
    · exact ⟨lease', member, rfl, rfl, rfl⟩
  · intro lease member _ address inside
    exact written address (apart lease.grant (List.mem_map_of_mem member) address inside)

/-- What is asked of a call with the block of a lease. -/
def Treats (Out : σ → List Grant → Prop) (arena : Arena σ) (lease : Lease) (others : List Grant)
    (lease? : Option Lease) (arena' : Arena σ) : Prop :=
  arena'.nodes = arena.nodes ∧ arena'.Lent Out (lease?.toList.map Lease.grant ++ others) ∧
    ∀ lease', lease? = some lease' → Continues lease lease' ∧ arena'.toChain.Seats lease'.seat lease'.block

theorem onLease_ends (sound : tenancy.Sound Out) {id : Nat} {act : Lease → Act (Arena σ) (Option Lease)}
    (acts : ∀ lease others, tenancy.arena.Lent Out (lease.grant :: others) →
      tenancy.arena.toChain.Seats lease.seat lease.block →
      (act lease).Ends tenancy.arena fun lease? _ arena' =>
        Treats Out tenancy.arena lease others lease? arena') :
    (onLease id act).Ends tenancy fun _ _ tenancy' => Step Out spared tenancy tenancy' := by
  simp only [onLease, Act.ends_bind, Act.ends_get]
  rcases found : tenancy.leases.find? (fun lease => lease.id == id) with _ | lease
  · simp only [found, Act.ends_pure]
    exact sound.rehoused sound.lent.backed rfl
  simp only [found]
  obtain ⟨rfl, before, after, leases, replaced⟩ := Lease.exists_of_find? found
  obtain ⟨lent, seated, named, distinct⟩ := sound
  rw [leases] at lent seated named distinct
  simp only [List.map_append, List.map_cons] at lent distinct
  simp only [onArena, Act.ends_bind, Act.ends_zoom, Act.ends_modify]
  refine (acts lease _ (Arena.lent_middle.mp lent) (seated lease (by simp))).mono ?_
  rintro lease? _ arena' ⟨nodes, lent', revised⟩
  rw [replaced]
  have origin : ∀ lease' ∈ before ++ lease?.toList ++ after, ∃ origin ∈ before ++ lease :: after,
      Continues origin lease' ∧ arena'.toChain.Seats lease'.seat lease'.block := by
    intro lease' member
    simp only [List.mem_append, Option.mem_toList] at member
    rcases member with (member | member) | member
    · exact ⟨lease', by simp [member], ⟨rfl, rfl, rfl⟩, (seated lease' (by simp [member])).of_nodes_eq nodes⟩
    · exact ⟨lease, by simp, revised lease' member⟩
    · exact ⟨lease', by simp [member], ⟨rfl, rfl, rfl⟩, (seated lease' (by simp [member])).of_nodes_eq nodes⟩
  refine ⟨⟨?_, ?_, ?_, ?_⟩, ⟨Nat.le_refl _, ?_⟩, fun _ _ _ _ _ => rfl⟩
  · refine lent'.perm ?_
    simp only [List.map_append, List.append_assoc]
    exact List.perm_append_comm_assoc _ _ _
  · intro lease' member
    exact (origin lease' member).choose_spec.2.2
  · intro lease' member
    obtain ⟨lease, listed, same, _⟩ := origin lease' member
    exact same.id ▸ named lease listed
  · refine distinct.sublist ?_
    simp only [List.map_append, List.append_assoc]
    refine List.Sublist.append_left ?_ _
    rcases lease? with _ | lease'
    · exact List.sublist_cons_self ..
    · rw [Option.toList_some, List.map_singleton, (revised lease' rfl).1.id]
      exact List.Sublist.refl _
  · intro lease' member _
    obtain ⟨lease, listed, same, _⟩ := origin lease' member
    exact ⟨lease, leases ▸ listed, same⟩

section
variable {arena : Arena σ} {lease : Lease} {others : List Grant}

theorem Treats.refl (lent : arena.Lent Out (lease.grant :: others))
    (seats : arena.toChain.Seats lease.seat lease.block) : Treats Out arena lease others (some lease) arena := by
  refine ⟨rfl, lent, ?_⟩
  rintro _ ⟨⟩
  exact ⟨⟨rfl, rfl, rfl⟩, seats⟩

theorem resize_ends (lends : backing.LendsNodes Out) (lent : arena.Lent Out (lease.grant :: others))
    (seats : arena.toChain.Seats lease.seat lease.block) (newSize : Nat) :
    (Arena.resize lease.block newSize >>= settle lease newSize).Ends arena fun lease? _ arena' =>
      Treats Out arena lease others lease? arena' := by
  have seating : (Arena.resize lease.block newSize).Ends arena fun granted _ arena' => granted →
      Chain.Seats arena'.toChain (arena'.toChain.reseat lease.seat lease.block newSize)
        { lease.block with len := newSize } := by
    rw [Arena.resize, Arena.onChain, Act.ends_zoom]
    have sound := lent.backed.sound lends
    refine (Chain.resize_cases sound lease.block newSize).mono ?_
    exact fun _ _ _ resizes => resizes.seats sound seats
  rw [Act.ends_bind]
  refine ((lent.resize_ends lends newSize).and seating).mono ?_
  rintro granted _ arena' ⟨⟨nodes, _, lent'⟩, seated⟩
  cases granted with
  | false =>
    simp only [settle, Bool.false_eq_true, ↓reduceIte, Act.ends_pure]
    refine ⟨nodes, lent', ?_⟩
    rintro _ ⟨⟩
    exact ⟨⟨rfl, rfl, rfl⟩, seats.of_nodes_eq nodes⟩
  | true =>
    simp only [settle, ↓reduceIte, Act.ends_bind, Act.ends_get, Act.ends_pure]
    refine ⟨nodes, lent', ?_⟩
    rintro _ ⟨⟩
    exact ⟨⟨rfl, rfl, rfl⟩, seated rfl⟩

/-- A remap is a resize that answers the block. -/
theorem remap_ends (lends : backing.LendsNodes Out) (lent : arena.Lent Out (lease.grant :: others))
    (seats : arena.toChain.Seats lease.seat lease.block) (newSize : Nat) :
    (do match ← Arena.remap lease.block newSize with
        | some block => return some (lease.revised (← get).toChain block)
        | none => return some lease).Ends arena fun lease? _ arena' => Treats Out arena lease others lease? arena' := by
  have resized := resize_ends lends lent seats newSize
  simp only [Arena.resize, Arena.remap, Arena.onChain, Act.ends_bind, Act.ends_zoom, Chain.remap_eq,
    Act.ends_map] at resized ⊢
  refine resized.mono ?_
  intro granted _ chain' treats
  cases granted with
  | false => exact treats
  | true => exact treats

theorem free_ends (lends : backing.LendsNodes Out) (lent : arena.Lent Out (lease.grant :: others)) :
    (do Arena.free lease.block; return none).Ends arena fun lease? _ arena' =>
      Treats Out arena lease others lease? arena' := by
  rw [Act.ends_bind]
  refine (lent.free_ends lends).mono ?_
  rintro _ _ arena' ⟨nodes, _, lent'⟩
  exact (Act.ends_pure ..).mpr ⟨nodes, lent', fun _ other => nomatch other⟩

end

theorem serves_of_alloc (lends : backing.LendsNodes Out) (sound : tenancy.Sound Out) (layout : Layout)
    {write : Block → Memory} (written : ∀ block address, block.len = layout.size → address ∉ block →
      (write block).byteAt address = tenancy.memory.byteAt address) :
    (Arena.alloc backing layout).Ends tenancy.arena fun answer _ arena' =>
      Serves Out tenancy layout.align (answer.toOption.map fun block => (block, write block)) arena' := by
  refine (Arena.alloc_ends lends sound.lent.backed layout).mono ?_
  rintro (error | block) _ arena' ⟨backed, _, served⟩
  · exact ⟨backed, served.2⟩
  · obtain ⟨roomy, made, carves⟩ := served
    refine ⟨backed, ⟨_, layout, roomy, rfl, made, carves⟩, ?_⟩
    exact fun address outside => written block address (carves.spec (backed.sound lends)).2.2.1 outside

theorem serves_of_allocCopy (lends : backing.LendsNodes Out) (sound : tenancy.Sound Out) (bytes : List UInt8) :
    (Arena.allocCopy backing bytes tenancy.memory).Ends tenancy.arena fun answer _ arena' =>
      Serves Out tenancy .one answer.toOption arena' := by
  rw [Arena.allocCopy]
  rcases sized : Layout.ofSize? bytes.length .one with _ | layout
  · simp only [Act.ends_pure]
    exact ⟨sound.lent.backed, rfl⟩
  obtain ⟨size, align⟩ := Layout.ofSize?_eq_some_iff.mp sized
  simp only [Act.ends_bind]
  rw [← align]
  have written : ∀ (block : Block) (address : Nat), block.len = layout.size → address ∉ block →
      (tenancy.memory.write block.addr bytes).byteAt address = tenancy.memory.byteAt address := by
    intro block address len outside
    exact Memory.byteAt_write_of_not_mem (len.trans size).ge outside
  refine (serves_of_alloc lends sound layout written).mono ?_
  rintro (error | block) _ arena' serves
  · exact (Act.ends_pure ..).mpr serves
  · exact (Act.ends_pure ..).mpr serves

/-- What the client writes to a lease stays inside its block. -/
theorem write_ends (sound : tenancy.Sound Out) (id : Nat) (bytes : List UInt8) :
    (perform backing (.write id bytes)).Ends tenancy fun _ _ tenancy' => Step Out (· ≠ id) tenancy tenancy' := by
  simp only [perform, Act.ends_bind, Act.ends_get]
  rcases found : tenancy.leases.find? (fun lease => lease.id == id) with _ | lease
  · simp only [found, Act.ends_pure]
    exact sound.rehoused sound.lent.backed rfl
  simp only [found, Act.ends_modify]
  obtain ⟨rfl, before, after, leases, _⟩ := Lease.exists_of_find? found
  refine ⟨⟨sound.lent, sound.seated, sound.named, sound.distinct⟩, ⟨Nat.le_refl _, ?_⟩, ?_⟩
  · exact (Follows.refl tenancy).continued
  intro other member spared address inside
  refine Memory.byteAt_write_of_not_mem (List.length_take_le ..) ?_
  have lent := sound.lent
  rw [leases] at lent member
  simp only [List.map_append, List.map_cons] at lent
  obtain ⟨_, _, apart⟩ := Arena.lent_cons.mp (Arena.lent_middle.mp lent)
  rcases List.mem_append.mp member with member | member
  · exact apart other.grant (by simp [List.mem_map_of_mem member]) address inside
  rcases List.mem_cons.mp member with rfl | member
  · exact (spared rfl).elim
  · exact apart other.grant (by simp [List.mem_map_of_mem member]) address inside

theorem reattach_ends {settings : Settings} {arena : Arena σ} {post : Except ArenaError Unit → Trace → Arena σ → Prop} :
    (reattach backing settings).Ends arena post ↔
      (Arena.adopt backing settings).Ends (arena.toChain.promote arena.source) post := Iff.rfl

/-- Every request ends, whatever the backing answers, and keeps what the client has. -/
theorem perform_ends (lends : backing.LendsNodes Out) (sound : tenancy.Sound Out) (request : Request) :
    (perform backing request).Ends tenancy fun _ _ tenancy' =>
      Step Out (fun id => ¬ request.Writes id) tenancy tenancy' := by
  cases request with
  | alloc layout =>
    rw [perform]
    refine lend_ends lends sound ?_
    rw [Act.ends_bind]
    refine (serves_of_alloc lends sound layout fun _ _ _ _ => rfl).mono ?_
    exact fun answer _ _ serves => (Act.ends_pure ..).mpr serves
  | allocate layout =>
    rw [perform]
    refine lend_ends lends sound ?_
    simp only [Arena.asBacking, Act.ends_bind]
    refine (serves_of_alloc lends sound layout fun _ _ _ _ => rfl).mono ?_
    rintro (error | block) _ arena' serves
    · simp only [Act.ends_pure]
      exact serves
    · simp only [Act.ends_pure]
      exact serves
  | allocCopy bytes =>
    rw [perform]
    refine lend_ends lends sound ?_
    rw [Act.ends_bind]
    refine (serves_of_allocCopy lends sound bytes).mono ?_
    exact fun answer _ _ serves => (Act.ends_pure ..).mpr serves
  | resize id newSize => exact onLease_ends sound fun lease others lent seats => resize_ends lends lent seats newSize
  | remap id newSize => exact onLease_ends sound fun lease others lent seats => remap_ends lends lent seats newSize
  | free id => exact onLease_ends sound fun lease others lent seats => free_ends lends lent
  | resizeInPlace id newSize =>
    refine onLease_ends sound fun lease others lent seats => ?_
    rcases sized : Layout.ofSize? lease.block.len lease.align with _ | layout
    · exact (Act.ends_pure ..).mpr (.refl lent seats)
    · obtain ⟨size, _⟩ := Layout.ofSize?_eq_some_iff.mp sized
      simp only [Arena.asBacking, size]
      exact resize_ends lends lent seats newSize
  | release id =>
    refine onLease_ends sound fun lease others lent seats => ?_
    rcases sized : Layout.ofSize? lease.block.len lease.align with _ | layout
    · exact (Act.ends_pure ..).mpr (.refl lent seats)
    · obtain ⟨size, _⟩ := Layout.ofSize?_eq_some_iff.mp sized
      simp only [Arena.asBacking, size]
      exact free_ends lends lent
  | write id bytes =>
    refine (write_ends sound id bytes).mono ?_
    rintro _ _ tenancy' ⟨sound', follows, keeps⟩
    refine ⟨sound', follows, ?_⟩
    intro lease listed spared
    exact keeps lease listed fun same => spared ⟨bytes, same ▸ rfl⟩
  | reset retention =>
    simp only [perform, evict, onArena, Act.ends_bind, Act.ends_zoom, Act.ends_modify]
    refine (Arena.reset_ends lends sound.lent.backed retention).mono ?_
    rintro _ _ arena' ⟨backed, _, _⟩
    exact .evicted backed
  | promote =>
    refine (Act.ends_modify ..).mpr (sound.rehoused ?_ rfl)
    exact sound.lent.backed.of_toChain_eq rfl sound.lent.backed.out
  | attach settings =>
    simp only [perform, evict, onArena, Act.ends_bind, Act.ends_zoom]
    have promoted : (tenancy.arena.toChain.promote tenancy.arena.source).Backed Out :=
      sound.lent.backed.of_toChain_eq rfl sound.lent.backed.out
    refine (reattach_ends.mpr (Arena.adopt_ends lends promoted settings)).mono ?_
    rintro (error | _) _ arena' ⟨backed, _, adopted⟩
    · exact (Act.ends_modify ..).mpr (.evicted backed)
    · exact (Act.ends_pure ..).mpr (sound.rehoused backed adopted.2)

theorem performAll_ends (lends : backing.LendsNodes Out) (sound : tenancy.Sound Out) (requests : List Request) :
    (performAll backing requests).Ends tenancy fun _ _ tenancy' => tenancy'.Sound Out ∧ tenancy.Follows tenancy' := by
  induction requests generalizing tenancy with
  | nil => exact (Act.ends_pure ..).mpr ⟨sound, .refl tenancy⟩
  | cons request later ih =>
    rw [performAll, Act.ends_bind]
    refine (perform_ends lends sound request).mono ?_
    intro _ _ between step
    refine (ih step.sound).mono ?_
    rintro _ _ tenancy' ⟨sound', follows⟩
    exact ⟨sound', step.follows.trans follows⟩

/-! ### What the client can rely on -/

/-- Every lease with bytes lies inside one node, no address belongs to two leases, and every lease is aligned
    as it was asked for. -/
structure Honoured (tenancy : Tenancy σ) : Prop where
  housed : ∀ lease ∈ tenancy.leases, 0 < lease.block.len →
    ∃! node, node ∈ tenancy.arena.nodes ∧ lease.block.Within node.block
  apart : tenancy.leases.Pairwise fun a b => a.block.Apart b.block
  aligned : ∀ lease ∈ tenancy.leases, lease.align.bytes ∣ lease.block.addr

theorem Sound.honoured (lends : backing.LendsNodes Out) (sound : tenancy.Sound Out) : tenancy.Honoured where
  housed lease member bytes := by
    have chain := sound.lent.backed.sound lends
    have owed := sound.lent.owes lease.grant (List.mem_map_of_mem member)
    obtain ⟨node, listed, within⟩ : ∃ node ∈ tenancy.arena.nodes, lease.block.Within node.block :=
      owed.covers.in_node chain bytes
    refine ⟨node, ⟨listed, within⟩, ?_⟩
    rintro other ⟨listed', within'⟩
    by_contra different
    -- The first byte of the lease would belong to both nodes.
    have first := chain.apart listed' listed different lease.block.addr
    simp only [Block.Within, Block.finish] at within within'
    simp only [Block.mem_iff] at first
    omega
  apart := by
    have spread := sound.lent.spread
    rwa [Spread, List.pairwise_map] at spread
  aligned lease member := (sound.lent.owes lease.grant (List.mem_map_of_mem member)).aligned

theorem Sound.eq_of_id (sound : tenancy.Sound Out) {lease other : Lease} (listed : lease ∈ tenancy.leases)
    (listed' : other ∈ tenancy.leases) (same : lease.id = other.id) : lease = other :=
  List.inj_on_of_nodup_map sound.distinct listed listed' same

/-- Over a backing that keeps its promise, an arena keeps it too. After any run of requests all leases are
    honoured; whatever run comes later, a lease that is still live has its address and its alignment; and no
    request changes a byte of a lease unless the client itself writes there. -/
theorem honours_leases (contract : backing.Contract Out) {s : σ} (out : Out s []) {settings : Settings}
    {trace : Trace} {arena : Arena σ}
    (ready : (Arena.prepare backing settings).run (Arena.ofSource s) = ⟨.ok (.ok ()), trace, arena⟩)
    (memory : Memory) (requests : List Request) :
    ((performAll backing requests).Ends (ofArena arena memory) fun _ _ tenancy =>
      tenancy.Honoured ∧
      (∀ later, (performAll backing later).Ends tenancy fun _ _ tenancy' =>
        ∀ lease ∈ tenancy.leases, ∀ lease' ∈ tenancy'.leases, lease'.id = lease.id → Continues lease lease') ∧
      (∀ request, (perform backing request).Ends tenancy fun _ _ tenancy' =>
        ∀ lease ∈ tenancy.leases, ¬ request.Writes lease.id → ∀ address ∈ lease.block,
          tenancy'.memory.byteAt address = tenancy.memory.byteAt address)) ∧
    (Arena.asBacking backing).Contract (Arena.Lent Out) ∧ Arena.Lent Out arena [] := by
  have lends := contract.lendsNodes
  obtain ⟨backed, _⟩ := (Arena.prepare_ends lends out rfl settings).of_run ready
  refine ⟨?_, Arena.contract lends, Arena.lent_nil.mpr backed⟩
  refine (performAll_ends lends (.of_arena backed memory) requests).mono ?_
  rintro _ _ tenancy ⟨sound, _⟩
  refine ⟨sound.honoured lends, ?_, ?_⟩
  · intro later
    refine (performAll_ends lends sound later).mono ?_
    rintro _ _ tenancy' ⟨_, follows⟩ lease listed lease' listed' same
    obtain ⟨origin, member, continues⟩ := follows.continued lease' listed' (same ▸ sound.named lease listed)
    have only : lease = origin := sound.eq_of_id listed member (same.symm.trans continues.id)
    exact only ▸ continues
  · intro request
    refine (perform_ends lends sound request).mono ?_
    intro _ _ tenancy' step
    exact step.keeps

/-- The heap and an arena with a first node of 64 bytes are such a case. -/
theorem heap_honours_leases :
    Heap.backing.Contract Heap.Lent ∧ (Heap.ofSize 4096).Lent [] ∧
      ∃ trace arena,
        (Arena.prepare Heap.backing (.withInitialCapacity 64)).run (Arena.ofSource (Heap.ofSize 4096)) =
          ⟨.ok (.ok ()), trace, arena⟩ ∧
        (performAll Heap.backing [.allocCopy [1, 2, 3], .resize 0 60, .alloc ⟨40, .sixteen, by decide⟩]).Ends
          (ofArena arena .zero) fun _ _ tenancy => tenancy.Honoured := by
  have out : (Heap.ofSize 4096).Lent [] := Heap.lent_ofSize (by decide)
  obtain ⟨trace, arena, ready⟩ : ∃ trace arena,
      (Arena.prepare Heap.backing (.withInitialCapacity 64)).run (Arena.ofSource (Heap.ofSize 4096)) =
        ⟨.ok (.ok ()), trace, arena⟩ := ⟨_, _, rfl⟩
  refine ⟨Heap.contract, out, trace, arena, ready, ?_⟩
  refine (honours_leases Heap.contract out ready .zero _).1.mono ?_
  intro _ _ _ kept
  exact kept.1

end Tenancy
end BumpArena
