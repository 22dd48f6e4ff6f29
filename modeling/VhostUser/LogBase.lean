import VhostUser.DirtyLog
import VhostUser.Marks
/-!
# `set_log_base`, all or nothing

`set_log_base` (`handler.rs:774-799`) maps the log and makes the bitmaps of all regions before it replaces
the first one, so a log that is too small for one region leaves every region as it was. A bitmap is checked
against the log when it is made (`bitmap.rs:137-169`), and cells are written by `replace` only: in every
later state no index of the log can fail, for any mark.

| here | there |
| --- | --- |
| `BitmapKind.replace` | `BitmapReplace::replace` (`bitmap.rs:38-51`, `:98-105`); the unit bitmap's panics |
| `replaceAll`         | the second loop of `set_log_base`, with the panic |
| `LogAction`          | what happens to a handler and its logs: calls of the frontend, marks of the device |
-/
namespace VhostUser
open Trace

/-- `replace` of the unit bitmap panics. -/
def BitmapKind.replace (k : BitmapKind) (r : BitmapMmapRegion) (heap : LogHeap) (b : AtomicBitmapMmap) : Option LogHeap :=
  match k with
  | unit => none
  | mmapRegion => some (r.replace heap b)

/-- Marks on the region go to the bytes of `logmem`, counted from the region's own first page. -/
def MarksInto (heap : LogHeap) (logmem : MmapLogReg) (g : GuestRegionMmap) : Prop :=
  ∀ offset len : UInt64,
    ∃ log', g.bitmap.markDirty heap offset.toNat len.toNat =
        some { heap with logmem := Function.update heap.logmem logmem.addr log' } ∧
      ∀ q, logBit log' q = true ↔ logBit (heap.logmem logmem.addr) q = true ∨
        AtomicBitmapMmap.Marked ⟨logmem, pageNumber g.guestBase.toNat, pageNumber g.size.toNat⟩ offset.toNat len.toNat q

theorem Attached.marksInto {heap : LogHeap} {logmem : MmapLogReg} {g : GuestRegionMmap} (h : Attached heap logmem g)
    (hlog : (heap.logmem logmem.addr).length = logmem.len) : MarksInto heap logmem g := by
  intro offset len
  obtain ⟨b, hnew, hmark⟩ := @Attached.markDirty heap logmem g h offset.toNat len.toNat offset.toNat_lt
  have hb := AtomicBitmapMmap.new_inBounds hnew
  obtain ⟨-, -, -, rfl⟩ := AtomicBitmapMmap.new_ok hnew
  obtain ⟨log', he, -, hq⟩ := AtomicBitmapMmap.markDirty_marked hb hlog offset len
  refine ⟨log', ?_, hq⟩
  rw [hmark, he, Option.map_some]

namespace VhostUserHandler
variable {B M : Type} {d : Deps B M} {h : VhostUserHandler B M}

/-! ## The two loops -/

def replaceAll (k : BitmapKind) (heap : LogHeap) (bitmaps : List (GuestRegionMmap × AtomicBitmapMmap)) : Option LogHeap :=
  bitmaps.foldlM (fun heap gb => k.replace gb.1.bitmap heap gb.2) heap

/-- There is no unit bitmap to replace anything with. -/
theorem newBitmaps_unit (hk : d.bitmap = .unit) {logmem : MmapLogReg} {gs : List GuestRegionMmap}
    {bs : List (GuestRegionMmap × AtomicBitmapMmap)} (h : newBitmaps d logmem gs = .ok bs) : bs = [] := by
  cases gs with
  | nil =>
    cases h
    rfl
  | cons g gs =>
    simp only [newBitmaps, hk, BitmapKind.newInner] at h
    cases h

/-- The second loop does not panic. -/
theorem replaceAll_newBitmaps {logmem : MmapLogReg} {gs : List GuestRegionMmap}
    {bs : List (GuestRegionMmap × AtomicBitmapMmap)} (h : newBitmaps d logmem gs = .ok bs) (heap : LogHeap) :
    replaceAll d.bitmap heap bs = some (replaceBitmaps heap bs) := by
  cases hk : d.bitmap with
  | unit =>
    rw [newBitmaps_unit hk h]
    rfl
  | mmapRegion =>
    have hloop (bs : List (GuestRegionMmap × AtomicBitmapMmap)) (heap : LogHeap) :
        replaceAll .mmapRegion heap bs = some (replaceBitmaps heap bs) := by
      induction bs generalizing heap with
      | nil => rfl
      | cons gb bs ih => exact ih _
    exact hloop bs heap

/-- A failure is found before anything is written. -/
theorem setLogBase_cases (d : Deps B M) (log : VhostUserLog) (file : File) (h : VhostUserHandler B M) :
    (∃ e, h.setLogBase d log file = (.error e, h)) ∨
      ∃ logmem bs, MmapLogReg.fromFile d.mmap file log.mmapOffset log.mmapSize = .ok logmem ∧
        newBitmaps d logmem (d.vm.regions h.atomicMem) = .ok bs ∧
        h.setLogBase d log file = (.ok (), { h with heap := replaceBitmaps (h.heap.mapped logmem) bs }) := by
  unfold setLogBase
  cases hmap : MmapLogReg.fromFile d.mmap file log.mmapOffset log.mmapSize with
  | error e => exact .inl ⟨_, rfl⟩
  | ok logmem =>
    cases hbs : newBitmaps d logmem (d.vm.regions h.atomicMem) with
    | error e => exact .inl ⟨.reqHandlerError e, by simp only [hbs]⟩
    | ok bs => exact .inr ⟨logmem, bs, rfl, hbs, by simp only [hbs]⟩

/-! ## Runs with marks -/

/-- A call of the frontend, or a mark through any bitmap of a region or slice of one. -/
inductive LogAction where
  | call (a : CallAction)
  | mark (r : BitmapMmapRegion) (offset len : UInt64)

/-- A mark may fail an assertion. -/
def logStep (d : Deps B M) (h : VhostUserHandler B M) : LogAction → Option (VhostUserHandler B M)
  | .call a => some (callStep d h a)
  | .mark r offset len => (r.markDirty h.heap offset.toNat len.toNat).map fun heap => { h with heap := heap }

/-- Each region has a cell of its own, and what is in a cell was checked against its log. -/
structure LogInv (d : Deps B M) (h : VhostUserHandler B M) : Prop where
  cells : OwnCells d.vm h.atomicMem h.nextCell
  made : ∀ c b, h.heap.inner c = some b → b.Made

/-- Only cells are replaced. -/
theorem logmem_replaceBitmaps (heap : LogHeap) (bs : List (GuestRegionMmap × AtomicBitmapMmap)) :
    (replaceBitmaps heap bs).logmem = heap.logmem := by
  induction bs generalizing heap with
  | nil => rfl
  | cons gb bs ih => exact ih (gb.1.bitmap.replace heap gb.2)

theorem made_replaceBitmaps {bs : List (GuestRegionMmap × AtomicBitmapMmap)} (hbs : ∀ gb ∈ bs, gb.2.Made)
    {heap : LogHeap} (h : ∀ c b, heap.inner c = some b → b.Made) :
    ∀ c b, (replaceBitmaps heap bs).inner c = some b → b.Made := by
  induction bs generalizing heap with
  | nil => exact h
  | cons gb bs ih =>
    refine ih (fun gb' hgb' => hbs gb' (List.mem_cons_of_mem _ hgb')) fun c b hb => ?_
    have hb : Function.update heap.inner gb.1.bitmap.inner (some gb.2) c = some b := hb
    by_cases hc : c = gb.1.bitmap.inner
    · rw [hc, Function.update_self] at hb
      cases hb
      exact hbs gb List.mem_cons_self
    · rw [Function.update_of_ne hc] at hb
      exact h c b hb

theorem made_setLogBase (h : VhostUserHandler B M) (hmade : ∀ c b, h.heap.inner c = some b → b.Made)
    (log : VhostUserLog) (file : File) : ∀ c b, (h.setLogBase d log file).2.heap.inner c = some b → b.Made := by
  obtain ⟨e, hset⟩ | ⟨logmem, bs, hmap, hbs, hset⟩ := setLogBase_cases d log file h
  · rw [hset]
    exact hmade
  · rw [hset]
    refine made_replaceBitmaps (fun gb hgb => ?_) hmade
    cases hk : d.bitmap with
    | unit =>
      rw [newBitmaps_unit hk hbs] at hgb
      cases hgb
    | mmapRegion => exact ⟨_, _, _, (newBitmaps_ok hk hbs).2 gb hgb⟩

theorem made_memStep (hvm : VmMemorySpec d.vm) (hmade : ∀ c b, h.heap.inner c = some b → b.Made) (a : MemAction) :
    ∀ c b, (memStep d h a).heap.inner c = some b → b.Made := by
  have halloc (n : Nat) : ∀ c b, (h.allocCells n).heap.inner c = some b → b.Made := by
    intro c b hb
    simp only [allocCells] at hb
    split at hb
    · cases hb
    · exact hmade c b hb
  rcases memRun_cases hvm h a with ⟨e, hp, hrun⟩ | ⟨p, hp, hpl, ⟨e, b, hu, hrun⟩ | ⟨b, hu, hrun⟩⟩
  · simpa only [memStep, hrun] using hmade
  · simpa only [memStep, hrun] using halloc p.cells
  · simpa only [memStep, hrun] using halloc p.cells

theorem made_callStep (hvm : VmMemorySpec d.vm) (hmade : ∀ c b, h.heap.inner c = some b → b.Made) (a : CallAction) :
    ∀ c b, (callStep d h a).heap.inner c = some b → b.Made := by
  obtain ⟨mmap, c⟩ := a
  by_cases hmem : isMemRequest c = false
  · by_cases hlog : ∃ log file, c = .setLogBase log file
    · obtain ⟨log, file, rfl⟩ := hlog
      exact made_setLogBase (d := { d with mmap := mmap }) h hmade log file
    · have hpart := @logPart_invoke B M { d with mmap := mmap } h c hmem fun log file hc => hlog ⟨log, file, hc⟩
      have hheap : (callStep d h (mmap, c)).heap = h.heap := congrArg (fun p : M × Nat × LogHeap => p.2.2) hpart
      rw [hheap]
      exact hmade
  · cases c with
    | setMemTable ctx files => exact made_memStep hvm hmade (mmap, .setMemTable ctx files)
    | addMemRegion region fd => exact made_memStep hvm hmade (mmap, .addMemRegion region fd)
    | removeMemRegion region => exact made_memStep hvm hmade (mmap, .removeMemRegion region)
    | _ => exact absurd rfl hmem

/-- No step fails, and the invariant is kept. -/
theorem LogInv.step (hvm : VmMemorySpec d.vm) (h : VhostUserHandler B M) (a : LogAction) (hinv : LogInv d h) :
    ∃ h', logStep d h a = some h' ∧ LogInv d h' := by
  cases a with
  | call a => exact ⟨_, rfl, ownCells_callStep hvm hinv.cells a, made_callStep hvm hinv.made a⟩
  | mark r offset len =>
    obtain ⟨logmem, hmark⟩ := r.markDirty_inBounds (fun b hb => (hinv.made _ b hb).inBounds) offset.toNat len.toNat
    refine ⟨{ h with heap := { h.heap with logmem := logmem } }, ?_, hinv.cells, hinv.made⟩
    rw [logStep, hmark, Option.map_some]

theorem logInv_new {b : B} {mem : M} {heap : LogHeap} {n : Nat} (hnew : new d b mem heap n = some h)
    (hcells : OwnCells d.vm mem n) (hmade : ∀ c b, heap.inner c = some b → b.Made) : LogInv d h := by
  obtain ⟨vrings, -, rfl⟩ := new_eq hnew
  exact ⟨hcells, hmade⟩

/-- **`set_log_base` is all or nothing**, in every state a run of calls and marks leads to: a failure changes
nothing; after a success every region marks into the new log, from its own first page on; and in all later
states every mark and every look finds its byte in the log. No bitmap is replaced by a unit bitmap. -/
theorem setLogBase_all_or_nothing (hvm : VmMemorySpec d.vm) {b : B} {mem : M} {heap : LogHeap} {n : Nat}
    {h₀ : VhostUserHandler B M} (hnew : new d b mem heap n = some h₀) (hcells : OwnCells d.vm mem n)
    (hmade : ∀ c b, heap.inner c = some b → b.Made) (before : List LogAction)
    (hrun : before.foldlM (logStep d) h₀ = some h) (mmap : Mmap) (log : VhostUserLog) (file : File) :
    (∀ e, (h.setLogBase { d with mmap := mmap } log file).1 = .error e →
      (h.setLogBase { d with mmap := mmap } log file).2 = h) ∧
    (d.bitmap = .mmapRegion → (h.setLogBase { d with mmap := mmap } log file).1 = .ok () →
      ∃ logmem, MmapLogReg.fromFile mmap file log.mmapOffset log.mmapSize = .ok logmem ∧
        (h.setLogBase { d with mmap := mmap } log file).2.atomicMem = h.atomicMem ∧
        ∀ g ∈ d.vm.regions h.atomicMem, MarksInto (h.setLogBase { d with mmap := mmap } log file).2.heap logmem g) ∧
    (∀ after : List LogAction, ∃ h',
      after.foldlM (logStep d) (h.setLogBase { d with mmap := mmap } log file).2 = some h' ∧
        ∀ (r : BitmapMmapRegion) (offset len : UInt64),
          (∃ heap', r.markDirty h'.heap offset.toNat len.toNat = some heap') ∧
            ∃ dirty, r.dirtyAt h'.heap offset.toNat = some dirty) ∧
    (∀ logmem bs, newBitmaps { d with mmap := mmap } logmem (d.vm.regions h.atomicMem) = .ok bs →
      replaceAll d.bitmap (h.heap.mapped logmem) bs = some (replaceBitmaps (h.heap.mapped logmem) bs) ∧
        (d.bitmap = .unit → bs = [])) := by
  obtain ⟨h₁, hh₁, hinv⟩ := foldlM_of_inv (LogInv.step hvm) before h₀ (logInv_new hnew hcells hmade)
  cases hh₁.symm.trans hrun
  refine ⟨fun e he => ?_, fun hk hok => ?_, fun after => ?_, fun logmem bs hbs => ?_⟩
  · obtain ⟨e', hset⟩ | ⟨logmem, bs, -, -, hset⟩ := setLogBase_cases { d with mmap := mmap } log file h
    · rw [hset]
    · rw [hset] at he
      cases he
  · obtain ⟨e', hset⟩ | ⟨logmem, bs, hmap, -, hset⟩ := setLogBase_cases { d with mmap := mmap } log file h
    · rw [hset] at hok
      cases hok
    · obtain ⟨hlogged, -, -⟩ := setLogBase_logged (d := { d with mmap := mmap }) hk hinv.cells hmap hset
      rw [hset]
      refine ⟨logmem, hmap, rfl, fun g hg => Attached.marksInto (hlogged g hg) ?_⟩
      show ((replaceBitmaps (h.heap.mapped logmem) bs).logmem logmem.addr).length = logmem.len
      rw [logmem_replaceBitmaps]
      exact h.heap.length_mapped logmem
  · have hnext : LogInv d (h.setLogBase { d with mmap := mmap } log file).2 := by
      have hpart := ownCells_callStep hvm hinv.cells (mmap, .setLogBase log file)
      exact ⟨hpart, made_setLogBase (d := { d with mmap := mmap }) h hinv.made log file⟩
    obtain ⟨h', hh', hinv'⟩ := foldlM_of_inv (LogInv.step hvm) after _ hnext
    have hcell (r : BitmapMmapRegion) : ∀ b, h'.heap.inner r.inner = some b → b.InBounds :=
      fun b hb => (hinv'.made _ b hb).inBounds
    refine ⟨h', hh', fun r offset len => ⟨?_, r.dirtyAt_inBounds (hcell r) _⟩⟩
    obtain ⟨logmem, hmark⟩ := r.markDirty_inBounds (hcell r) offset.toNat len.toNat
    exact ⟨_, hmark⟩
  · exact ⟨replaceAll_newBitmaps (d := { d with mmap := mmap }) hbs _,
      fun hk => newBitmaps_unit (d := { d with mmap := mmap }) hk hbs⟩

/-- One page and a log of one byte: the request is accepted, and a mark on the page sets its bit. -/
theorem onePage_logged :
    ((run (callStep (plainDeps true)) plainHandler [onePage]).setLogBase
      { plainDeps true with mmap := fun _ _ _ => .ok 0x9000 } oneByteLog 7).1 = .ok () ∧
    loggedHandler.heap.logmem 0x9000 = [0] ∧
    ∃ log', BitmapMmapRegion.markDirty ⟨0, 0⟩ loggedHandler.heap 0 1 =
        some { loggedHandler.heap with logmem := Function.update loggedHandler.heap.logmem 0x9000 log' } ∧
      logBit log' 1 = true := by
  have hok : ((run (callStep (plainDeps true)) plainHandler [onePage]).setLogBase
      { plainDeps true with mmap := fun _ _ _ => .ok 0x9000 } oneByteLog 7).1 = .ok () := by decide
  obtain ⟨logmem, hmap, -, hmarks⟩ := (@setLogBase_all_or_nothing _ _ (plainDeps true)
    (run (callStep (plainDeps true)) plainHandler [onePage]) vmRef_spec _ _ _ _ _ (new_plainHandler true)
    (ownCells_nil 0) nofun [.call onePage] rfl (fun _ _ _ => .ok 0x9000) oneByteLog 7).2.1 rfl hok
  cases hmap
  obtain ⟨log', hmark, hset⟩ := hmarks ⟨0x1000, 0x1000, 0x7f00, ⟨0, 0⟩⟩ (by decide) 0 1
  exact ⟨hok, by decide, log', hmark, (hset 1).2 (.inr ⟨by decide, by decide, by decide⟩)⟩

end VhostUserHandler

end VhostUser
