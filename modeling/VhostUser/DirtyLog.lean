import VhostUser.Memory
/-!
# The dirty log across memory changes

`set_log_base` (`handler.rs:774-799`) attaches a bitmap over the log to every region that is
installed when it runs. `set_mem_table` and `add_mem_region` make their regions with
`NewBitmap::with_len` (`bitmap.rs:113-117`), that is, with an empty `inner`; nothing attaches the
log to those, and `mark_dirty` on them is dropped.

`log_survives_iff`: over the requests after a successful `set_log_base`, every installed region
stays logged exactly when no request brings a new region.
-/
namespace VhostUser
open Trace

/-- The bitmap of `g` is the one `AtomicBitmapMmap::new` makes for `g` over `logmem`. -/
def Attached (heap : LogHeap) (logmem : MmapLogReg) (g : GuestRegionMmap) : Prop :=
  g.bitmap.baseAddress = 0 ∧
    ∃ b, AtomicBitmapMmap.new g.guestBase g.size logmem = .ok b ∧ heap.inner g.bitmap.inner = some b

/-- Marks on an attached region go to the bytes of the log. -/
theorem Attached.markDirty {heap : LogHeap} {logmem : MmapLogReg} {g : GuestRegionMmap}
    (ha : Attached heap logmem g) {offset len : Nat} (ho : offset < 2 ^ 64) :
    ∃ b, AtomicBitmapMmap.new g.guestBase g.size logmem = .ok b ∧
      g.bitmap.markDirty heap offset len =
        (b.markDirty (heap.logmem b.logmem.addr) offset len).map fun log =>
          { heap with logmem := Function.update heap.logmem b.logmem.addr log } := by
  obtain ⟨hbase, b, hnew, hinner⟩ := ha
  refine ⟨b, hnew, ?_⟩
  simp only [BitmapMmapRegion.markDirty, hinner, hbase, Nat.zero_add, ho, if_true]

namespace VhostUserHandler
variable {B M : Type} {d : Deps B M} {h : VhostUserHandler B M}

/-! ## `set_log_base` -/

theorem newBitmaps_ok (hk : d.bitmap = .mmapRegion) {logmem : MmapLogReg} {gs : List GuestRegionMmap}
    {bs : List (GuestRegionMmap × AtomicBitmapMmap)} (hb : newBitmaps d logmem gs = .ok bs) :
    bs.map Prod.fst = gs ∧ ∀ gb ∈ bs, AtomicBitmapMmap.new gb.1.guestBase gb.1.size logmem = .ok gb.2 := by
  induction gs generalizing bs with
  | nil =>
    cases hb
    simp
  | cons g gs ih =>
    simp only [newBitmaps, hk, BitmapKind.newInner] at hb
    split at hb
    · cases hb
    · rename_i b hnew
      split at hb
      · cases hb
      · rename_i bs' hrest
        cases hb
        obtain ⟨hfst, hall⟩ := ih hrest
        refine ⟨by rw [List.map_cons, hfst], ?_⟩
        simp only [List.mem_cons, forall_eq_or_imp]
        exact ⟨hnew, hall⟩

/-- Cells that are not among those replaced keep their bitmap. -/
theorem replaceBitmaps_inner_of_notMem {bs : List (GuestRegionMmap × AtomicBitmapMmap)}
    {heap : LogHeap} {c : Nat} (hc : c ∉ bs.map (·.1.bitmap.inner)) :
    (replaceBitmaps heap bs).inner c = heap.inner c := by
  induction bs generalizing heap with
  | nil => rfl
  | cons gb bs ih =>
    simp only [List.map_cons, List.mem_cons, not_or] at hc
    have hrest : (replaceBitmaps heap (gb :: bs)).inner c =
        (gb.1.bitmap.replace heap gb.2).inner c := ih hc.2
    exact hrest.trans (Function.update_of_ne hc.1 _ _)

/-- With a cell for each region, every region ends up with its own new bitmap. -/
theorem replaceBitmaps_inner {bs : List (GuestRegionMmap × AtomicBitmapMmap)} {heap : LogHeap}
    (hnd : (bs.map (·.1.bitmap.inner)).Nodup) :
    ∀ gb ∈ bs, (replaceBitmaps heap bs).inner gb.1.bitmap.inner = some gb.2 := by
  induction bs generalizing heap with
  | nil => simp
  | cons gb bs ih =>
    intro gb' hmem
    rw [List.map_cons, List.nodup_cons] at hnd
    rcases List.mem_cons.1 hmem with rfl | hmem
    · have hrest : (replaceBitmaps heap (gb' :: bs)).inner gb'.1.bitmap.inner =
          (gb'.1.bitmap.replace heap gb'.2).inner gb'.1.bitmap.inner :=
        replaceBitmaps_inner_of_notMem hnd.1
      exact hrest.trans (Function.update_self ..)
    · exact ih hnd.2 gb' hmem

/-- Every installed region has the log attached. -/
def Logged (vm : VmMemory M) (logmem : MmapLogReg) (h : VhostUserHandler B M) : Prop :=
  ∀ g ∈ vm.regions h.atomicMem, Attached h.heap logmem g

theorem setLogBase_logged (hk : d.bitmap = .mmapRegion) (ho : OwnCells d.vm h.atomicMem h.nextCell)
    {log : VhostUserLog} {file : File} {logmem : MmapLogReg} {h' : VhostUserHandler B M}
    (hmap : MmapLogReg.fromFile d.mmap file log.mmapOffset log.mmapSize = .ok logmem)
    (hlog : h.setLogBase d log file = (.ok (), h')) :
    Logged d.vm logmem h' ∧ h'.atomicMem = h.atomicMem ∧ h'.nextCell = h.nextCell := by
  simp only [setLogBase, hmap] at hlog
  split at hlog
  · cases hlog
  · rename_i bs hbs
    cases hlog
    obtain ⟨hfst, hnew⟩ := newBitmaps_ok hk hbs
    have hcells : bs.map (·.1.bitmap.inner) = (d.vm.regions h.atomicMem).map (·.bitmap.inner) := by
      rw [← hfst, List.map_map]
      rfl
    refine ⟨fun g hg => ⟨ho.base g hg, ?_⟩, rfl, rfl⟩
    obtain ⟨gb, hgb, rfl⟩ := List.mem_map.1 (hfst ▸ hg : g ∈ bs.map Prod.fst)
    exact ⟨gb.2, hnew gb hgb, replaceBitmaps_inner (hcells ▸ ho.nodup) gb hgb⟩

/-! ## Memory requests -/

/-- A bitmap cell allocated by a plan is empty. -/
theorem not_attached_new {n c : Nat} {logmem : MmapLogReg} {g : GuestRegionMmap}
    (hg : g.bitmap = ⟨c, 0⟩) (hlo : h.nextCell ≤ c) (hhi : c < h.nextCell + n) :
    ¬ Attached (h.allocCells n).heap logmem g := by
  rintro ⟨-, b, -, hinner⟩
  simp [allocCells, hg, hlo, hhi] at hinner

/-- A plan carried out keeps the log attached exactly when it only removes a region. -/
theorem Planned.logged_iff {r : MemRequest} {p : MemPlan M} (hp : Planned d h r p)
    {logmem : MmapLogReg} (hl : Logged d.vm logmem h) :
    (∀ g ∈ d.vm.regions p.mem, Attached (h.allocCells p.cells).heap logmem g) ↔
      ∃ region, r = .removeMemRegion region := by
  cases hp with
  | @table ctx files mem ms hmap hne hsorted =>
    refine iff_of_false (fun hall => ?_) (by simp)
    obtain ⟨g, rest, hgs⟩ := List.exists_cons_of_ne_nil hne
    have hcells := (mapRegions_ok hmap).2.2.2
    rw [hgs] at hcells
    simp only [List.map_cons, List.length_cons, List.range'_succ, List.cons.injEq] at hcells
    exact not_attached_new hcells.1 (Nat.le_refl _) (by simp [hgs]) (hall g (by simp [hgs]))
  | insert hg hperm hsorted =>
    refine iff_of_false (fun hall => ?_) (by simp)
    exact not_attached_new (newRegion_ok hg).2.2 (Nat.le_refl _) (Nat.lt_succ_self _)
      (hall _ (hperm.symm.subset (by simp)))
  | @remove region g pre post mem hkey hold hnew =>
    refine iff_of_true (fun g' hg' => ?_) ⟨region, rfl⟩
    rw [allocCells_zero]
    refine hl g' ?_
    rw [hold]
    rw [hnew] at hg'
    simp only [List.mem_append, List.mem_cons] at hg' ⊢
    exact hg'.imp id .inr

/-! ## The other requests

They leave the guest memory and the cells alone. -/

/-- The part of the handler the regions and their bitmap cells are in. -/
def memPart (h : VhostUserHandler B M) : M × Nat := (h.atomicMem, h.nextCell)

/-- The same, with what the cells hold. -/
def logPart (h : VhostUserHandler B M) : M × Nat × LogHeap := (h.atomicMem, h.nextCell, h.heap)

/-- The same, with what the device and `new` fixed for good. -/
def restPart (h : VhostUserHandler B M) : (M × Nat × LogHeap) × Nat × Nat × List UInt64 :=
  (h.logPart, h.numQueues, h.maxQueueSize, h.queuesPerThread)

theorem restPart_modVring (i : Nat) (f : VringState → VringState) :
    (h.modVring i f).restPart = h.restPart := rfl

theorem restPart_updateVringRegistration (h : VhostUserHandler B M) (i : Nat) (index : UInt8) :
    (h.updateVringRegistration i index).2.restPart = h.restPart := by
  simp only [updateVringRegistration]
  repeat' split
  all_goals rfl

theorem restPart_setEnabledAll (enabled : Bool) (is : List Nat) (h : VhostUserHandler B M) :
    (setEnabledAll enabled is h).2.restPart = h.restPart := by
  induction is generalizing h with
  | nil => rfl
  | cons i is ih =>
    have hi := restPart_updateVringRegistration (h.modVring i fun v => v.setEnabled enabled) i (UInt8.ofNat i)
    rw [setEnabledAll]
    split
    · rename_i h' heq
      rw [heq] at hi
      rw [ih, hi, restPart_modVring]
    · rename_i e h' heq
      rw [heq] at hi
      rw [hi, restPart_modVring]

theorem restPart_withVring {α : Type} {i : Nat}
    {f : VringState → Except Error α × VhostUserHandler B M} (hf : ∀ v, (f v).2.restPart = h.restPart) :
    (h.withVring i f).2.restPart = h.restPart := by
  simp only [withVring]
  split
  · rfl
  · exact hf _

theorem restPart_initIfNeeded (h : VhostUserHandler B M) (index : UInt8) :
    (h.initIfNeeded index).2.restPart = h.restPart := by
  refine restPart_withVring fun v => ?_
  split
  · rw [initializeVring, restPart_updateVringRegistration, restPart_modVring]
  · rfl

theorem restPart_getVringBase (h : VhostUserHandler B M) (index : UInt32) :
    (h.getVringBase index).2.restPart = h.restPart := by
  refine restPart_withVring fun v => ?_
  have hu := restPart_updateVringRegistration (h.modVring index.toNat fun v => v.setQueueReady false)
    index.toNat index.toUInt8
  split
  · rename_i e h' heq
    rwa [heq] at hu
  · rename_i h' heq
    rwa [heq] at hu

theorem restPart_storeAddrs (d : Deps B M) (index : UInt32) (v : VringState) (D A U : UInt64) :
    (h.storeAddrs d index v D A U).2.restPart = h.restPart := by
  unfold storeAddrs
  split
  · rfl
  · dsimp only
    split
    · rfl
    · rfl

theorem restPart_resetDevice (h : VhostUserHandler B M) : (h.resetDevice d).2.restPart = h.restPart := by
  have ha := restPart_setEnabledAll false (List.range h.vrings.length) h
  rw [resetDevice]
  split
  · rename_i e h' heq
    rwa [heq] at ha
  · rename_i h' heq
    rwa [heq] at ha

theorem restPart_enableUnlessProtocol (features : UInt64) (h : VhostUserHandler B M) :
    (h.enableUnlessProtocol features).2.restPart = h.restPart := by
  rw [enableUnlessProtocol]
  split
  · exact restPart_setEnabledAll true _ h
  · rfl

theorem restPart_setFeatures (features : UInt64) (h : VhostUserHandler B M) :
    (h.setFeatures d features).2.restPart = h.restPart := by
  have he := restPart_enableUnlessProtocol features { h with ackedFeatures := features, featuresAcked := true }
  rw [setFeatures]
  split
  · rfl
  · split
    · rename_i e h' heq
      rwa [heq] at he
    · rename_i h' heq
      rwa [heq] at he

def isMemRequest : Call → Bool
  | .setMemTable .. | .addMemRegion .. | .removeMemRegion _ => true
  | _ => false

theorem restPart_invoke {c : Call} (hc : isMemRequest c = false) (hlog : ∀ log file, c ≠ .setLogBase log file) :
    (invoke d c h).2.restPart = h.restPart := by
  cases c with
  | setMemTable ctx files => cases hc
  | addMemRegion region fd => cases hc
  | removeMemRegion region => cases hc
  | resetDevice => exact restPart_resetDevice h
  | setFeatures f => exact restPart_setFeatures f h
  | setVringNum index num =>
    refine restPart_withVring fun v => ?_
    split <;> rfl
  | setVringAddr index flags descriptor used available log =>
    obtain ⟨e, hset⟩ | ⟨v, D, A, U, -, hset⟩ :=
      @invoke_setVringAddr_cases _ _ d h index descriptor used available flags log
    · rw [hset]
    · rw [hset]
      exact restPart_storeAddrs d index v D A U
  | setVringBase index base => exact restPart_withVring fun v => rfl
  | getVringBase index => exact restPart_getVringBase h index
  | setVringKick index fd => exact restPart_withVring fun v => restPart_initIfNeeded _ index
  | setVringCall index fd => exact restPart_withVring fun v => restPart_initIfNeeded _ index
  | setVringErr index fd => exact restPart_withVring fun v => rfl
  | setVringEnable index enable =>
    simp only [invoke, setVringEnable]
    split
    · rfl
    · refine restPart_withVring fun v => ?_
      rw [restPart_updateVringRegistration, restPart_modVring]
  | setOwner =>
    simp only [invoke, setOwner]
    split <;> rfl
  | setLogBase log file => exact absurd rfl (hlog log file)
  | _ => rfl

theorem logPart_invoke {c : Call} (hc : isMemRequest c = false) (hlog : ∀ log file, c ≠ .setLogBase log file) :
    (invoke d c h).2.logPart = h.logPart :=
  congrArg Prod.fst (restPart_invoke hc hlog)

theorem memPart_invoke {c : Call} (hc : isMemRequest c = false) : (invoke d c h).2.memPart = h.memPart := by
  by_cases hlog : ∃ log file, c = .setLogBase log file
  · obtain ⟨log, file, rfl⟩ := hlog
    simp only [invoke, setLogBase]
    repeat' split
    all_goals rfl
  · have hpart := @logPart_invoke B M d h c hc fun log file hc' => hlog ⟨log, file, hc'⟩
    exact congrArg (fun p : M × Nat × LogHeap => (p.1, p.2.1)) hpart

/-! ## Runs -/

/-- A call with the answers `mmap` gives it. -/
abbrev CallAction := Mmap × Call

def callStep (d : Deps B M) (h : VhostUserHandler B M) (a : CallAction) : VhostUserHandler B M :=
  (invoke { d with mmap := a.1 } a.2 h).2

theorem ownCells_memStep (hvm : VmMemorySpec d.vm) (ho : OwnCells d.vm h.atomicMem h.nextCell)
    (a : MemAction) : OwnCells d.vm (memStep d h a).atomicMem (memStep d h a).nextCell := by
  rcases memRun_cases hvm h a with ⟨e, hp, hrun⟩ | ⟨p, hp, hpl, ⟨e, b, hu, hrun⟩ | ⟨b, hu, hrun⟩⟩
  · simpa only [memStep, hrun] using ho
  · simp only [memStep, hrun]
    exact hpl.ownCells ho
  · simp only [memStep, hrun]
    exact hpl.ownCells ho

theorem ownCells_callStep (hvm : VmMemorySpec d.vm) (ho : OwnCells d.vm h.atomicMem h.nextCell)
    (a : CallAction) : OwnCells d.vm (callStep d h a).atomicMem (callStep d h a).nextCell := by
  obtain ⟨mmap, c⟩ := a
  by_cases hc : isMemRequest c = false
  · have hpart : (callStep d h (mmap, c)).memPart = h.memPart :=
      memPart_invoke (d := { d with mmap := mmap }) hc
    rw [show (callStep d h (mmap, c)).atomicMem = h.atomicMem from congrArg Prod.fst hpart,
      show (callStep d h (mmap, c)).nextCell = h.nextCell from congrArg Prod.snd hpart]
    exact ho
  · cases c with
    | setMemTable ctx files => exact ownCells_memStep hvm ho (mmap, .setMemTable ctx files)
    | addMemRegion region fd => exact ownCells_memStep hvm ho (mmap, .addMemRegion region fd)
    | removeMemRegion region => exact ownCells_memStep hvm ho (mmap, .removeMemRegion region)
    | _ => exact absurd rfl hc

theorem ownCells_run (hvm : VmMemorySpec d.vm) (ho : OwnCells d.vm h.atomicMem h.nextCell)
    (as : List CallAction) :
    OwnCells d.vm (run (callStep d) h as).atomicMem (run (callStep d) h as).nextCell :=
  inv_run (I := fun h => OwnCells d.vm h.atomicMem h.nextCell) (fun _ a ho => ownCells_callStep hvm ho a) as h ho

/-- One request that returned `Ok`, from a state where every region is logged. -/
theorem logged_memStep_iff (hvm : VmMemorySpec d.vm) {logmem : MmapLogReg} (hl : Logged d.vm logmem h)
    {a : MemAction} (hok : (memRun d h a).1 = .ok ()) :
    Logged d.vm logmem (memStep d h a) ↔ ∃ region, a.2 = .removeMemRegion region := by
  rcases memRun_cases hvm h a with ⟨e, hp, hrun⟩ | ⟨p, hp, hpl, ⟨e, b, hu, hrun⟩ | ⟨b, hu, hrun⟩⟩
  · rw [hrun] at hok
    cases hok
  · rw [hrun] at hok
    cases hok
  · simp only [Logged, memStep, hrun]
    exact hpl.logged_iff hl

/-- **Dirty logging survives memory changes exactly when they bring no new region.** A run of any
calls, a `set_log_base` that returned `Ok`, then memory requests that all return `Ok`. -/
theorem log_survives_iff (hvm : VmMemorySpec d.vm) (hk : d.bitmap = .mmapRegion)
    {b : B} {mem : M} {heap : LogHeap} {n : Nat} {h₀ h₁ : VhostUserHandler B M}
    (hnew : new d b mem heap n = some h₀) (hcells : OwnCells d.vm mem n)
    (before : List CallAction) {mmap : Mmap} {log : VhostUserLog} {file : File} {logmem : MmapLogReg}
    (hmap : MmapLogReg.fromFile mmap file log.mmapOffset log.mmapSize = .ok logmem)
    (hlog : (run (callStep d) h₀ before).setLogBase { d with mmap := mmap } log file = (.ok (), h₁))
    (after : List MemAction) (hok : Along (memStep d) (fun h a => (memRun d h a).1 = .ok ()) h₁ after) :
    Visits (memStep d) (Logged d.vm logmem) h₁ after ↔ ∀ a ∈ after, ∃ region, a.2 = .removeMemRegion region := by
  have ho : OwnCells d.vm h₀.atomicMem h₀.nextCell := by
    obtain ⟨vrings, -, rfl⟩ := new_eq hnew
    exact hcells
  obtain ⟨hl, -, -⟩ := setLogBase_logged (d := { d with mmap := mmap }) hk (ownCells_run hvm ho before) hmap hlog
  rw [← @along_iff_forall _ _ (memStep d) (fun a => ∃ region, a.2 = .removeMemRegion region) after h₁]
  exact visits_iff_along (J := fun _ => True) (fun (_ : VhostUserHandler B M) _ _ _ _ _ => trivial)
    (fun h a _ hl hok => logged_memStep_iff hvm hl hok) after h₁ trivial hl hok

/-! One page of guest memory, logged in a log of one byte. -/

def onePage : CallAction := (fun _ _ _ => .ok 0x7f00, .addMemRegion plainRegion 5)

def oneByteLog : VhostUserLog := ⟨1, 0⟩

/-- The handler after `set_log_base`. -/
def loggedHandler : VhostUserHandler Unit (List GuestRegionMmap) :=
  ((run (callStep (plainDeps true)) plainHandler [onePage]).setLogBase
    { plainDeps true with mmap := fun _ _ _ => .ok 0x9000 } oneByteLog 7).2

theorem ownCells_nil (n : Nat) : OwnCells vmRef [] n := by
  refine ⟨?_, ?_, ?_⟩ <;> simp [vmRef]

/-- A second page, in the same byte of the log. -/
def otherPage : CallAction := (fun _ _ _ => .ok 0x9f00, .addMemRegion ⟨0, 0x3000, 0x1000, 0x9000, 0⟩ 6)

/-- The handler after `set_log_base` over both pages. -/
def loggedPages : VhostUserHandler Unit (List GuestRegionMmap) :=
  ((run (callStep (plainDeps true)) plainHandler [onePage, otherPage]).setLogBase
    { plainDeps true with mmap := fun _ _ _ => .ok 0x9000 } oneByteLog 7).2

theorem setLogBase_loggedPages :
    (run (callStep (plainDeps true)) plainHandler [onePage, otherPage]).setLogBase
      { plainDeps true with mmap := fun _ _ _ => .ok 0x9000 } oneByteLog 7 = (.ok (), loggedPages) :=
  Prod.ext (by decide) rfl

/-- The first page is removed; the second one stays, and stays logged. -/
theorem log_survives_remove :
    (memStep (plainDeps true) loggedPages (fun _ _ _ => .ok 0, .removeMemRegion plainRegion)).atomicMem =
        [⟨0x3000, 0x1000, 0x9f00, ⟨1, 0⟩⟩] ∧
      Visits (memStep (plainDeps true)) (Logged vmRef ⟨0x9000, 1⟩) loggedPages
        [(fun _ _ _ => .ok 0, .removeMemRegion plainRegion)] := by
  refine ⟨by decide, (log_survives_iff (d := plainDeps true) vmRef_spec rfl (new_plainHandler true) (ownCells_nil 0)
    [onePage, otherPage] (by decide) setLogBase_loggedPages [(fun _ _ _ => .ok 0, .removeMemRegion plainRegion)]
    ⟨by decide, trivial⟩).2 ?_⟩
  simp only [List.mem_singleton, forall_eq]
  exact ⟨plainRegion, rfl⟩

/-- The same page is announced again by `set_mem_table`: its new region fits the log and is not logged. -/
theorem log_lost_set_mem_table :
    (memRun (plainDeps true) loggedHandler
      (fun _ _ _ => .ok 0x7f00, .setMemTable [plainRegion.region] [8])).1 = .ok () ∧
    AtomicBitmapMmap.new 0x1000 0x1000 ⟨0x9000, 1⟩ = .ok ⟨⟨0x9000, 1⟩, 1, 1⟩ ∧
    (memStep (plainDeps true) loggedHandler
      (fun _ _ _ => .ok 0x7f00, .setMemTable [plainRegion.region] [8])).atomicMem =
        [⟨0x1000, 0x1000, 0x7f00, ⟨1, 0⟩⟩] ∧
    (memStep (plainDeps true) loggedHandler
      (fun _ _ _ => .ok 0x7f00, .setMemTable [plainRegion.region] [8])).heap.inner 1 = none ∧
    ¬ Visits (memStep (plainDeps true)) (Logged vmRef ⟨0x9000, 1⟩) loggedHandler
      [(fun _ _ _ => .ok 0x7f00, .setMemTable [plainRegion.region] [8])] := by
  have hmem : (memStep (plainDeps true) loggedHandler
      (fun _ _ _ => .ok 0x7f00, .setMemTable [plainRegion.region] [8])).atomicMem =
        [⟨0x1000, 0x1000, 0x7f00, ⟨1, 0⟩⟩] := by decide
  have hcell : (memStep (plainDeps true) loggedHandler
      (fun _ _ _ => .ok 0x7f00, .setMemTable [plainRegion.region] [8])).heap.inner 1 = none := by decide
  refine ⟨by decide, by decide, hmem, hcell, fun hv => ?_⟩
  obtain ⟨-, b, -, hinner⟩ := hv.last ⟨0x1000, 0x1000, 0x7f00, ⟨1, 0⟩⟩ (by
    simp only [run_cons, run_nil, vmRef, hmem, List.mem_singleton])
  exact absurd (hcell.symm.trans hinner) (by simp)

end VhostUserHandler

end VhostUser
