import VhostUser.Handler
import VhostUser.Lib.Trace
import Mathlib.Data.List.Sort
/-!
# Guest memory and the translation table

`SET_MEM_TABLE`, `ADD_MEM_REG` and `REM_MEM_REG` change two structures of the handler: the guest
memory in `atomic_mem` and the list `mappings` that `vmm_va_to_gpa` reads. Each request first
works out both new values, then installs the memory, tells the backend, and stores the mappings
only when the backend's `update_memory` did not fail.

| here | there |
| --- | --- |
| `VmMemorySpec` | what the handler relies on in `vm_memory::GuestMemoryMmap` |
| `vmRef`        | a collection that behaves so: the sorted list of its regions |
| `MemRequest`   | the three requests of `handler.rs:330-371`, `:621-678` |
| `plan`         | a request up to `atomic_mem.replace`: the new memory and mappings, or its error |

`run_eq` says once what a request does; everything after it is about `plan`.
-/
namespace VhostUser
open Trace

/-! ## vm-memory -/

/-- `r` ends where `r'` begins, or earlier. -/
def Before (r r' : GuestRegionMmap) : Prop :=
  r.guestBase.toNat + r.size.toNat ≤ r'.guestBase.toNat

instance : DecidableRel Before := fun r r' =>
  inferInstanceAs (Decidable (r.guestBase.toNat + r.size.toNat ≤ r'.guestBase.toNat))

/-- A collection of regions is kept sorted and disjoint; removal needs the exact base and size. -/
structure VmMemorySpec {M : Type} (vm : VmMemory M) : Prop where
  fromRegions_ok : ∀ {rs : List GuestRegionMmap} {m : M}, vm.fromRegions rs = some m →
    rs ≠ [] ∧ vm.regions m = rs ∧ rs.Pairwise Before
  insertRegion_ok : ∀ {m m' : M} {r : GuestRegionMmap}, vm.insertRegion m r = some m' →
    (vm.regions m').Perm (r :: vm.regions m) ∧ (vm.regions m').Pairwise Before
  removeRegion_ok : ∀ {m m' : M} {base size : UInt64} {r : GuestRegionMmap},
    vm.removeRegion m base size = some (m', r) → r.guestBase = base ∧ r.size = size ∧
      ∃ pre post, vm.regions m = pre ++ r :: post ∧ vm.regions m' = pre ++ post

/-- Guest memory as the list of its regions. -/
def vmRef : VmMemory (List GuestRegionMmap) where
  regions m := m
  fromRegions rs := if rs ≠ [] ∧ rs.Pairwise Before then some rs else none
  insertRegion m r :=
    let rs := m.orderedInsert (fun a b => a.guestBase ≤ b.guestBase) r
    if rs.Pairwise Before then some rs else none
  removeRegion m base size :=
    match m.find? fun r => r.guestBase = base && r.size = size with
    | none => none
    | some r => some (m.erase r, r)
  usedIdx _ _ := some 0

theorem vmRef_spec : VmMemorySpec vmRef where
  fromRegions_ok h := by
    simp only [vmRef, Option.ite_none_right_eq_some, Option.some.injEq] at h
    obtain ⟨⟨hne, hs⟩, rfl⟩ := h
    exact ⟨hne, rfl, hs⟩
  insertRegion_ok h := by
    simp only [vmRef, Option.ite_none_right_eq_some, Option.some.injEq] at h
    obtain ⟨hs, rfl⟩ := h
    exact ⟨List.perm_orderedInsert _ _ _, hs⟩
  removeRegion_ok {m m' base size r} h := by
    simp only [vmRef] at h
    split at h
    · cases h
    · rename_i r' hfind
      cases h
      have hkey := List.find?_some hfind
      simp only [Bool.and_eq_true, decide_eq_true_eq] at hkey
      obtain ⟨pre, post, -, hm, he⟩ := List.exists_erase_eq (List.mem_of_find?_eq_some hfind)
      exact ⟨hkey.1, hkey.2, pre, post, hm, he⟩

/-! ## Requests -/

/-- The address, or the error, a call of `mmap` gets. -/
abbrev Mmap := File → Nat → Nat → Except IoError Nat

inductive MemRequest where
  | setMemTable (ctx : List VhostUserMemoryRegion) (files : List File)
  | addMemRegion (region : VhostUserSingleMemoryRegion) (file : File)
  | removeMemRegion (region : VhostUserSingleMemoryRegion)
deriving DecidableEq

/-- What a request hands over: the memory, the mappings, and how many bitmap cells it made. -/
structure MemPlan (M : Type) where
  mem : M
  mappings : List AddrMapping
  cells : Nat

namespace MemRequest
variable {B M : Type}

def toCall : MemRequest → Call
  | setMemTable ctx files => .setMemTable ctx files
  | addMemRegion region file => .addMemRegion region file
  | removeMemRegion region => .removeMemRegion region

def run (d : Deps B M) : MemRequest → VhostUserHandler B M → Except Error Unit × VhostUserHandler B M
  | setMemTable ctx files, h => h.setMemTable d ctx files
  | addMemRegion region file, h => h.addMemRegion d region file
  | removeMemRegion region, h => h.removeMemRegion d region

def plan (d : Deps B M) (h : VhostUserHandler B M) : MemRequest → Except Error (MemPlan M)
  | setMemTable ctx files =>
    match VhostUserHandler.mapRegions d (ctx.zip files) h.nextCell with
    | .error e => .error e
    | .ok (regions, mappings) =>
      match d.vm.fromRegions regions with
      | none => .error otherError
      | some mem => .ok ⟨mem, mappings, regions.length⟩
  | addMemRegion region file =>
    match VhostUserHandler.newRegion d region.region file h.nextCell with
    | .error e => .error e
    | .ok g =>
      match d.vm.insertRegion h.atomicMem g with
      | none => .error otherError
      | some mem => .ok ⟨mem, h.mappings ++ [VhostUserHandler.addrMapping region.region], 1⟩
  | removeMemRegion region =>
    match d.vm.removeRegion h.atomicMem region.region.guestPhysAddr region.region.memorySize with
    | none => .error otherError
    | some (mem, _) =>
      .ok ⟨mem, h.mappings.filter fun m => m.gpaBase ≠ region.region.guestPhysAddr, 0⟩

end MemRequest

namespace VhostUserHandler
variable {B M : Type} {d : Deps B M} {h : VhostUserHandler B M}

theorem allocCells_zero (h : VhostUserHandler B M) : h.allocCells 0 = h := by
  have hnone (c : Nat) : ¬ (h.nextCell ≤ c ∧ c < h.nextCell) := by omega
  simp only [allocCells, Nat.add_zero, hnone, if_false]

/-- **What a request does.** It is refused and changes nothing, or its plan is carried out. -/
theorem run_eq (d : Deps B M) (r : MemRequest) (h : VhostUserHandler B M) :
    r.run d h = match r.plan d h with
      | .error e => (.error e, h)
      | .ok p => replaceMem d p.mem p.mappings (h.allocCells p.cells) := by
  cases r with
  | setMemTable ctx files =>
    simp only [MemRequest.run, MemRequest.plan, setMemTable]
    cases mapRegions d (ctx.zip files) h.nextCell with
    | error e => rfl
    | ok rm => cases hm : d.vm.fromRegions rm.1 <;> simp only [hm]
  | addMemRegion region file =>
    simp only [MemRequest.run, MemRequest.plan, addMemRegion]
    cases newRegion d region.region file h.nextCell with
    | error e => rfl
    | ok g => cases hm : d.vm.insertRegion h.atomicMem g <;> simp only [hm]
  | removeMemRegion region =>
    simp only [MemRequest.run, MemRequest.plan, removeMemRegion]
    cases d.vm.removeRegion h.atomicMem region.region.guestPhysAddr region.region.memorySize with
    | none => rfl
    | some mr => simp only [allocCells_zero]

/-- The handler after a plan was carried out, `update_memory` having left the backend as `b`. -/
theorem replaceMem_eq (d : Deps B M) (p : MemPlan M) (h : VhostUserHandler B M) :
    replaceMem d p.mem p.mappings (h.allocCells p.cells) =
      match d.backend.updateMemory p.mem h.backend with
      | (.error _, b) => (.error otherError, { h.allocCells p.cells with atomicMem := p.mem, backend := b })
      | (.ok (), b) =>
        (.ok (), { h.allocCells p.cells with atomicMem := p.mem, backend := b, mappings := p.mappings }) := by
  rfl

/-- A request that returned `Ok` had a plan, and carried it out. -/
theorem run_ok {r : MemRequest} {h' : VhostUserHandler B M} (hrun : r.run d h = (.ok (), h')) :
    ∃ p b, r.plan d h = .ok p ∧ d.backend.updateMemory p.mem h.backend = (.ok (), b) ∧
      h' = { h.allocCells p.cells with atomicMem := p.mem, backend := b, mappings := p.mappings } := by
  rw [run_eq] at hrun
  cases hp : r.plan d h with
  | error e => simp [hp] at hrun
  | ok p =>
    simp only [hp, replaceMem_eq] at hrun
    split at hrun
    · simp at hrun
    · rename_i b hb
      simp only [Prod.mk.injEq, true_and] at hrun
      exact ⟨p, b, rfl, hb, hrun.symm⟩

end VhostUserHandler

/-! ## The regions a request makes -/

/-- Guest base and size. -/
def GuestRegionMmap.key (g : GuestRegionMmap) : UInt64 × UInt64 := (g.guestBase, g.size)
def AddrMapping.key (m : AddrMapping) : UInt64 × UInt64 := (m.gpaBase, m.size)

/-- A region of at least one byte that ends below `2 ^ 64`. -/
structure Extent (k : UInt64 × UInt64) : Prop where
  size_ne : k.2 ≠ 0
  fits : k.1.toNat + k.2.toNat < 2 ^ 64

namespace VhostUserHandler
variable {B M : Type} {d : Deps B M} {h : VhostUserHandler B M}

theorem newRegion_ok {r : VhostUserMemoryRegion} {file : File} {cell : Nat} {g : GuestRegionMmap}
    (hn : newRegion d r file cell = .ok g) :
    g.key = (addrMapping r).key ∧ Extent g.key ∧ g.bitmap = ⟨cell, 0⟩ := by
  simp only [newRegion, mmapRegion] at hn
  split at hn
  · cases hn
  · rename_i hostAddr hmap
    split at hn
    · rename_i hfits
      cases hn
      refine ⟨rfl, ⟨?_, hfits⟩, rfl⟩
      intro hzero
      have hsize : r.memorySize = 0 := hzero
      simp [hsize] at hmap
    · cases hn

theorem mapRegions_ok {rfs : List (VhostUserMemoryRegion × File)} {cell : Nat}
    {gs : List GuestRegionMmap} {ms : List AddrMapping} (hm : mapRegions d rfs cell = .ok (gs, ms)) :
    ms = rfs.map (fun rf => addrMapping rf.1) ∧ gs.map (·.key) = ms.map (·.key) ∧
      (∀ g ∈ gs, Extent g.key) ∧
      gs.map (·.bitmap) = (List.range' cell gs.length).map fun c => ⟨c, 0⟩ := by
  induction rfs generalizing cell gs ms with
  | nil =>
    cases hm
    simp
  | cons rf rest ih =>
    obtain ⟨r, file⟩ := rf
    simp only [mapRegions] at hm
    split at hm
    · cases hm
    · rename_i g hg
      split at hm
      · cases hm
      · rename_i gs' ms' hrest
        cases hm
        obtain ⟨hkey, hext, hcell⟩ := newRegion_ok hg
        obtain ⟨hms, hkeys, hexts, hcells⟩ := ih hrest
        refine ⟨by rw [hms, List.map_cons], by simp [hkey, hkeys], ?_, ?_⟩
        · simp only [List.mem_cons, forall_eq_or_imp]
          exact ⟨hext, hexts⟩
        · simp only [List.map_cons, List.length_cons, List.range'_succ, hcell, hcells]

/-- What a plan can be, with what vm-memory promises of its memory. -/
inductive Planned (d : Deps B M) (h : VhostUserHandler B M) : MemRequest → MemPlan M → Prop
  | table {ctx : List VhostUserMemoryRegion} {files : List File} {mem : M} {ms : List AddrMapping} :
    mapRegions d (ctx.zip files) h.nextCell = .ok (d.vm.regions mem, ms) → d.vm.regions mem ≠ [] →
      (d.vm.regions mem).Pairwise Before →
      Planned d h (.setMemTable ctx files) ⟨mem, ms, (d.vm.regions mem).length⟩
  | insert {region : VhostUserSingleMemoryRegion} {file : File} {g : GuestRegionMmap} {mem : M} :
    newRegion d region.region file h.nextCell = .ok g →
      (d.vm.regions mem).Perm (g :: d.vm.regions h.atomicMem) → (d.vm.regions mem).Pairwise Before →
      Planned d h (.addMemRegion region file) ⟨mem, h.mappings ++ [addrMapping region.region], 1⟩
  | remove {region : VhostUserSingleMemoryRegion} {g : GuestRegionMmap} {pre post : List GuestRegionMmap}
      {mem : M} :
    g.key = (addrMapping region.region).key → d.vm.regions h.atomicMem = pre ++ g :: post →
      d.vm.regions mem = pre ++ post →
      Planned d h (.removeMemRegion region)
        ⟨mem, h.mappings.filter fun m => m.gpaBase ≠ region.region.guestPhysAddr, 0⟩

theorem planned (hvm : VmMemorySpec d.vm) {r : MemRequest} {p : MemPlan M} (hp : r.plan d h = .ok p) :
    Planned d h r p := by
  cases r with
  | setMemTable ctx files =>
    simp only [MemRequest.plan] at hp
    split at hp
    · cases hp
    · rename_i gs ms hmap
      split at hp
      · cases hp
      · rename_i mem hmem
        cases hp
        obtain ⟨hne, rfl, hsorted⟩ := hvm.fromRegions_ok hmem
        exact .table hmap hne hsorted
  | addMemRegion region file =>
    simp only [MemRequest.plan] at hp
    split at hp
    · cases hp
    · rename_i g hg
      split at hp
      · cases hp
      · rename_i mem hmem
        cases hp
        obtain ⟨hperm, hsorted⟩ := hvm.insertRegion_ok hmem
        exact .insert hg hperm hsorted
  | removeMemRegion region =>
    simp only [MemRequest.plan] at hp
    split at hp
    · cases hp
    · rename_i mem g hmem
      cases hp
      obtain ⟨hbase, hsize, pre, post, hold, hnew⟩ := hvm.removeRegion_ok hmem
      exact .remove (by simp [GuestRegionMmap.key, AddrMapping.key, addrMapping, hbase, hsize]) hold hnew

/-! ## Invariants of the guest memory -/

/-- Regions are disjoint, in order, and none is empty. -/
structure Disjoint (vm : VmMemory M) (mem : M) : Prop where
  sorted : (vm.regions mem).Pairwise Before
  size_ne : ∀ g ∈ vm.regions mem, g.size ≠ 0

/-- Every region has a bitmap of its own: a cell among those allocated so far, and not a slice. -/
structure OwnCells (vm : VmMemory M) (mem : M) (nextCell : Nat) : Prop where
  base : ∀ g ∈ vm.regions mem, g.bitmap.baseAddress = 0
  lt : ∀ g ∈ vm.regions mem, g.bitmap.inner < nextCell
  nodup : ((vm.regions mem).map (·.bitmap.inner)).Nodup

theorem Planned.disjoint {r : MemRequest} {p : MemPlan M} (hp : Planned d h r p)
    (hd : Disjoint d.vm h.atomicMem) : Disjoint d.vm p.mem := by
  cases hp with
  | table hmap hne hsorted => exact ⟨hsorted, fun g hg => ((mapRegions_ok hmap).2.2.1 g hg).size_ne⟩
  | insert hg hperm hsorted =>
    refine ⟨hsorted, fun g' hg' => ?_⟩
    rcases List.mem_cons.1 (hperm.subset hg') with rfl | hold
    · exact (newRegion_ok hg).2.1.size_ne
    · exact hd.size_ne g' hold
  | @remove region g pre post mem hkey hold hnew =>
    have hsub : (pre ++ post).Sublist (pre ++ g :: post) :=
      (List.sublist_cons_self g post).append_left pre
    rw [← hnew, ← hold] at hsub
    exact ⟨hd.sorted.sublist hsub, fun g' hg' => hd.size_ne g' (hsub.subset hg')⟩

theorem Planned.ownCells {r : MemRequest} {p : MemPlan M} (hp : Planned d h r p)
    (ho : OwnCells d.vm h.atomicMem h.nextCell) : OwnCells d.vm p.mem (h.nextCell + p.cells) := by
  cases hp with
  | @table ctx files mem ms hmap hne hsorted =>
    have hb := (mapRegions_ok hmap).2.2.2
    have hcells : (d.vm.regions mem).map (·.bitmap.inner) =
        List.range' h.nextCell (d.vm.regions mem).length := by
      simpa [List.map_map, Function.comp_def] using congrArg (List.map BitmapMmapRegion.inner) hb
    have hmem : ∀ g ∈ d.vm.regions mem, ∃ c < h.nextCell + (d.vm.regions mem).length, g.bitmap = ⟨c, 0⟩ := by
      intro g hg
      have hin : g.bitmap ∈ (d.vm.regions mem).map (·.bitmap) := List.mem_map_of_mem hg
      rw [hb] at hin
      obtain ⟨c, hc, heq⟩ := List.mem_map.1 hin
      exact ⟨c, (List.mem_range'_1.1 hc).2, heq.symm⟩
    refine ⟨fun g hg => ?_, fun g hg => ?_, hcells ▸ List.nodup_range'⟩
    · obtain ⟨c, -, heq⟩ := hmem g hg
      rw [heq]
    · obtain ⟨c, hc, heq⟩ := hmem g hg
      rw [heq]
      exact hc
  | @insert region file g mem hg hperm hsorted =>
    have hcell : g.bitmap = ⟨h.nextCell, 0⟩ := (newRegion_ok hg).2.2
    refine ⟨fun g' hg' => ?_, fun g' hg' => ?_, ?_⟩
    · rcases List.mem_cons.1 (hperm.subset hg') with rfl | hold
      · rw [hcell]
      · exact ho.base g' hold
    · rcases List.mem_cons.1 (hperm.subset hg') with rfl | hold
      · rw [hcell]
        exact Nat.lt_succ_self _
      · exact Nat.lt_succ_of_lt (ho.lt g' hold)
    · rw [(hperm.map _).nodup_iff, List.map_cons, List.nodup_cons, hcell]
      refine ⟨fun hmem => ?_, ho.nodup⟩
      obtain ⟨g', hold, heq⟩ := List.mem_map.1 hmem
      exact Nat.lt_irrefl _ (heq ▸ ho.lt g' hold)
  | @remove region g pre post mem hkey hold hnew =>
    have hsub : (pre ++ post).Sublist (pre ++ g :: post) :=
      (List.sublist_cons_self g post).append_left pre
    rw [← hnew, ← hold] at hsub
    exact ⟨fun g' hg' => ho.base g' (hsub.subset hg'), fun g' hg' => ho.lt g' (hsub.subset hg'),
      ho.nodup.sublist (hsub.map _)⟩

/-- A plan is never the memory that is there: it has a new cell or one region less. -/
theorem Planned.changes {r : MemRequest} {p : MemPlan M} (hp : Planned d h r p)
    (ho : OwnCells d.vm h.atomicMem h.nextCell) : d.vm.regions p.mem ≠ d.vm.regions h.atomicMem := by
  intro heq
  cases hp with
  | @table ctx files mem ms hmap hne hsorted =>
    obtain ⟨g, rest, hgs⟩ := List.exists_cons_of_ne_nil hne
    have hcells := (mapRegions_ok hmap).2.2.2
    rw [hgs] at hcells
    simp only [List.map_cons, List.length_cons, List.range'_succ, List.cons.injEq] at hcells
    have hlt := ho.lt g (by rw [← heq, hgs]; simp)
    rw [hcells.1] at hlt
    exact Nat.lt_irrefl _ hlt
  | insert hg hperm hsorted =>
    have := hperm.length_eq
    rw [heq, List.length_cons] at this
    omega
  | remove hkey hold hnew =>
    rw [hold, hnew] at heq
    have := congrArg List.length heq
    simp at this

/-! ## The table mirrors the memory -/

/-- One mapping per region, with its base and size, and nothing else. -/
def Mirror (vm : VmMemory M) (mem : M) (mappings : List AddrMapping) : Prop :=
  (mappings.map (·.key)).Perm ((vm.regions mem).map (·.key))

/-- Every other region begins elsewhere. -/
theorem Disjoint.base_ne {mem : M} {g : GuestRegionMmap} {pre post : List GuestRegionMmap}
    (hd : Disjoint d.vm mem) (hold : d.vm.regions mem = pre ++ g :: post) :
    ∀ g' ∈ pre ++ post, g'.guestBase ≠ g.guestBase := by
  have hsorted := hd.sorted
  rw [hold, List.pairwise_append, List.pairwise_cons] at hsorted
  have hsize : ∀ g' ∈ pre ++ g :: post, g'.size.toNat ≠ 0 := fun g' hg' h0 =>
    hd.size_ne g' (hold ▸ hg') (UInt64.toNat_inj.1 h0)
  intro g' hg' heq
  rcases List.mem_append.1 hg' with hpre | hpost
  · have hb : Before g' g := hsorted.2.2 g' hpre g (by simp)
    have hpos := hsize g' (by simp [hpre])
    simp only [Before, heq] at hb
    omega
  · have hb : Before g g' := hsorted.2.1.1 g' hpost
    have hpos := hsize g (by simp)
    simp only [Before, heq] at hb
    omega

theorem Planned.mirror {r : MemRequest} {p : MemPlan M} (hp : Planned d h r p)
    (hd : Disjoint d.vm h.atomicMem) (hm : Mirror d.vm h.atomicMem h.mappings) :
    Mirror d.vm p.mem p.mappings := by
  cases hp with
  | table hmap hne hsorted =>
    unfold Mirror
    rw [(mapRegions_ok hmap).2.1]
  | @insert region file g mem hg hperm hsorted =>
    have hadd : ((h.mappings ++ [addrMapping region.region]).map (·.key)).Perm
        (g.key :: h.mappings.map (·.key)) := by
      rw [List.map_append, (newRegion_ok hg).1]
      exact List.perm_append_singleton _ _
    exact hadd.trans ((hm.cons g.key).trans (hperm.map GuestRegionMmap.key).symm)
  | @remove region g pre post mem hkey hold hnew =>
    have hbase : g.guestBase = region.region.guestPhysAddr := congrArg Prod.fst hkey
    -- Retaining by base drops exactly the removed region.
    have hkeep : (pre ++ g :: post).filter (fun g' => g'.guestBase ≠ g.guestBase) = pre ++ post := by
      have hall := hd.base_ne hold
      simp only [List.mem_append] at hall
      rw [List.filter_append, List.filter_cons_of_neg (by simp),
        List.filter_eq_self.2 fun g' hg' => by simpa using hall g' (.inl hg'),
        List.filter_eq_self.2 fun g' hg' => by simpa using hall g' (.inr hg')]
    have hfilter := hm.filter fun k => k.1 ≠ region.region.guestPhysAddr
    rw [List.filter_map, List.filter_map, hold] at hfilter
    unfold Mirror
    rw [hnew, ← hkeep, hbase]
    exact hfilter

/-! ## Runs of memory requests -/

/-- A request with the answers `mmap` gives it. -/
abbrev MemAction := Mmap × MemRequest

def memRun (d : Deps B M) (h : VhostUserHandler B M) (a : MemAction) :
    Except Error Unit × VhostUserHandler B M :=
  a.2.run { d with mmap := a.1 } h

def memStep (d : Deps B M) (h : VhostUserHandler B M) (a : MemAction) : VhostUserHandler B M :=
  (memRun d h a).2

/-- A request that failed left the memory and the table alone. -/
def ErrKeeps (d : Deps B M) (h : VhostUserHandler B M) (a : MemAction) : Prop :=
  ∀ e h', memRun d h a = (.error e, h') →
    d.vm.regions h'.atomicMem = d.vm.regions h.atomicMem ∧ h'.mappings = h.mappings

/-- The backend takes the memory it is told of, if it is told of one. -/
def Accepted (d : Deps B M) (h : VhostUserHandler B M) (a : MemAction) : Prop :=
  ∀ p, a.2.plan { d with mmap := a.1 } h = .ok p →
    (d.backend.updateMemory p.mem h.backend).1 = .ok ()

structure MemInv (d : Deps B M) (h : VhostUserHandler B M) : Prop where
  disjoint : Disjoint d.vm h.atomicMem
  cells : OwnCells d.vm h.atomicMem h.nextCell
  mirror : Mirror d.vm h.atomicMem h.mappings

theorem mappings_new {b : B} {mem : M} {heap : LogHeap} {n : Nat} {h : VhostUserHandler B M}
    (hnew : new d b mem heap n = some h) : h.mappings = [] := by
  obtain ⟨vrings, -, rfl⟩ := new_eq hnew
  rfl

theorem memInv_new {b : B} {mem : M} {heap : LogHeap} {n : Nat} {h : VhostUserHandler B M}
    (hnew : new d b mem heap n = some h) (hempty : d.vm.regions mem = []) : MemInv d h := by
  obtain ⟨vrings, -, rfl⟩ := new_eq hnew
  refine ⟨⟨?_, ?_⟩, ⟨?_, ?_, ?_⟩, ?_⟩ <;> simp [hempty, Mirror]

/-- A request is refused, is undone by nobody when the backend fails, or is carried out. -/
theorem memRun_cases (hvm : VmMemorySpec d.vm) (h : VhostUserHandler B M) (a : MemAction) :
    (∃ e, a.2.plan { d with mmap := a.1 } h = .error e ∧ memRun d h a = (.error e, h)) ∨
    ∃ p, a.2.plan { d with mmap := a.1 } h = .ok p ∧ Planned { d with mmap := a.1 } h a.2 p ∧
      ((∃ e b, d.backend.updateMemory p.mem h.backend = (.error e, b) ∧ memRun d h a =
          (.error otherError, { h.allocCells p.cells with atomicMem := p.mem, backend := b })) ∨
        ∃ b, d.backend.updateMemory p.mem h.backend = (.ok (), b) ∧ memRun d h a =
          (.ok (), { h.allocCells p.cells with
            atomicMem := p.mem, backend := b, mappings := p.mappings })) := by
  have hrun := run_eq { d with mmap := a.1 } a.2 h
  cases hp : a.2.plan { d with mmap := a.1 } h with
  | error e =>
    rw [hp] at hrun
    exact .inl ⟨e, rfl, hrun⟩
  | ok p =>
    refine .inr ⟨p, rfl, planned (d := { d with mmap := a.1 }) hvm hp, ?_⟩
    rw [hp] at hrun
    simp only [replaceMem_eq] at hrun
    rcases hu : d.backend.updateMemory p.mem h.backend with ⟨res, b⟩
    rw [hu] at hrun
    cases res with
    | error e => exact .inl ⟨e, b, rfl, hrun⟩
    | ok u => exact .inr ⟨b, rfl, hrun⟩

theorem MemInv.carried {a : MemAction} {p : MemPlan M} {b : B} (hi : MemInv d h)
    (hp : Planned { d with mmap := a.1 } h a.2 p) :
    MemInv d { h.allocCells p.cells with atomicMem := p.mem, backend := b, mappings := p.mappings } where
  disjoint := hp.disjoint hi.disjoint
  cells := hp.ownCells hi.cells
  mirror := hp.mirror hi.disjoint hi.mirror

/-- After the request the table mirrors the memory; a failed one has left both alone. -/
def Mirrors (d : Deps B M) (h : VhostUserHandler B M) (a : MemAction) : Prop :=
  Mirror d.vm (memStep d h a).atomicMem (memStep d h a).mappings ∧ ErrKeeps d h a

/-- One request, from a state where the table mirrors the memory. -/
theorem mirrors_iff (hvm : VmMemorySpec d.vm) (hi : MemInv d h) (a : MemAction) :
    Mirrors d h a ↔ Accepted d h a := by
  rcases memRun_cases hvm h a with ⟨e, hp, hrun⟩ | ⟨p, hp, hpl, ⟨e, b, hu, hrun⟩ | ⟨b, hu, hrun⟩⟩
  · have hacc : Accepted d h a := fun p hp' => by rw [hp] at hp'; cases hp'
    refine iff_of_true ⟨?_, fun e' h' hr => ?_⟩ hacc
    · simp only [memStep, hrun]
      exact hi.mirror
    · rw [hrun] at hr
      cases hr
      exact ⟨rfl, rfl⟩
  · refine iff_of_false (fun hm => ?_) fun hacc => ?_
    · exact hpl.changes hi.cells (hm.2 _ _ hrun).1
    · have := hacc p hp
      rw [hu] at this
      cases this
  · refine iff_of_true ⟨?_, fun e' h' hr => ?_⟩ fun p' hp' => ?_
    · simp only [memStep, hrun]
      exact hpl.mirror hi.disjoint hi.mirror
    · rw [hrun] at hr
      cases hr
    · rw [hp] at hp'
      cases hp'
      rw [hu]

theorem MemInv.step (hvm : VmMemorySpec d.vm) (hi : MemInv d h) {a : MemAction} (hm : Mirrors d h a) :
    MemInv d (memStep d h a) := by
  rcases memRun_cases hvm h a with ⟨e, hp, hrun⟩ | ⟨p, hp, hpl, ⟨e, b, hu, hrun⟩ | ⟨b, hu, hrun⟩⟩
  · simpa only [memStep, hrun] using hi
  · exact absurd (hm.2 _ _ hrun).1 (hpl.changes hi.cells)
  · simpa only [memStep, hrun] using hi.carried hpl

/-- **The translation table mirrors the guest memory** in every state of a run of memory requests,
and a failed request leaves both alone, exactly when the backend's `update_memory` takes every
memory it is told of. -/
theorem mappings_mirror_iff (hvm : VmMemorySpec d.vm) {b : B} {mem : M} {heap : LogHeap} {n : Nat}
    (hnew : new d b mem heap n = some h) (hempty : d.vm.regions mem = []) (as : List MemAction) :
    Visits (memStep d) (fun h => Mirror d.vm h.atomicMem h.mappings) h as ∧
        Along (memStep d) (ErrKeeps d) h as ↔
      Along (memStep d) (Accepted d) h as := by
  have hi := memInv_new hnew hempty
  have hiff : Along (memStep d) (Mirrors d) h as ↔ Along (memStep d) (Accepted d) h as :=
    along_iff_along (fun (h : VhostUserHandler B M) _ hi hm => MemInv.step hvm hi hm)
      (fun h a hi => mirrors_iff (h := h) hvm hi a) as h hi
  rw [← hiff, visits_iff_along_next]
  constructor
  · rintro ⟨⟨-, hv⟩, he⟩
    exact hv.and he
  · intro hm
    exact ⟨⟨hi.mirror, hm.mono fun _ _ h => h.1⟩, hm.mono fun _ _ h => h.2⟩

end VhostUserHandler

/-! ## Devices for the examples -/

/-- A device with one ring and one worker, which takes a memory change or not. -/
def plainBackend (takesMemory : Bool) : VhostUserBackend Unit (List GuestRegionMmap) where
  numQueues _ := 1
  maxQueueSize _ := 256
  features _ := VhostUserVirtioFeatures.PROTOCOL_FEATURES
  ackedFeatures _ b := b
  protocolFeatures _ := 0
  resetDevice b := b
  setEventIdx _ b := b
  getConfig _ _ _ := []
  setConfig _ _ b := (.ok (), b)
  updateMemory _ b := (if takesMemory then .ok () else .error (.ofKind .other), b)
  setBackendReqFd _ b := b
  getSharedObject _ b := (.error (.ofKind .unsupported), b)
  setGpuSocket _ b := (.error (.ofKind .unsupported), b)
  queuesPerThread _ := [1]
  exitEvent _ _ := none
  setDeviceStateFd _ _ _ b := (.error (.ofKind .unsupported), b)
  checkDeviceState b := (.error (.ofKind .unsupported), b)
  getShmemConfig b := (.error (.ofKind .unsupported), b)

def plainDeps (takesMemory : Bool) : Deps Unit (List GuestRegionMmap) where
  backend := plainBackend takesMemory
  vm := vmRef
  mmap _ offset _ := .ok (0x7f0000000000 + offset)
  bitmap := .mmapRegion

/-- The device's handler as `new` makes it over empty memory. -/
def plainHandler : VhostUserHandler Unit (List GuestRegionMmap) where
  backend := ()
  handlers := [.new 1 none [0] 0]
  owned := false
  featuresAcked := false
  ackedFeatures := 0
  ackedProtocolFeatures := 0
  numQueues := 1
  maxQueueSize := 256
  queuesPerThread := [1]
  mappings := []
  atomicMem := []
  vrings := [⟨⟨256, 256, false, 0, 0, false, 0, 0, 0⟩, none, none, none, false⟩]
  heap := ⟨fun _ => none, fun _ => []⟩
  nextCell := 0

theorem new_plainHandler (takesMemory : Bool) :
    VhostUserHandler.new (plainDeps takesMemory) () [] ⟨fun _ => none, fun _ => []⟩ 0 =
      some plainHandler := by
  have hring : VringState.new 256 = some ⟨⟨256, 256, false, 0, 0, false, 0, 0, 0⟩, none, none, none, false⟩ := by
    decide
  exact VhostUserHandler.new_of_ring (d := plainDeps takesMemory) hring ..

/-- Guest memory `0x1000 .. 0x2000`, at `0x7000` in the frontend. -/
def plainRegion : VhostUserSingleMemoryRegion := ⟨0, 0x1000, 0x1000, 0x7000, 0⟩

def plainRun : List VhostUserHandler.MemAction :=
  [(fun _ _ _ => .ok 0x7f00, .addMemRegion plainRegion 5), (fun _ _ _ => .ok 0, .removeMemRegion plainRegion)]

/-- Adding a region and removing it, the backend agreeing. -/
theorem mappings_mirror_add_remove :
    Visits (VhostUserHandler.memStep (plainDeps true))
      (fun h => VhostUserHandler.Mirror vmRef h.atomicMem h.mappings) plainHandler plainRun := by
  refine ((VhostUserHandler.mappings_mirror_iff (d := plainDeps true) vmRef_spec
    (new_plainHandler true) rfl plainRun).2 ?_).1
  exact ⟨fun _ _ => rfl, fun _ _ => rfl, trivial⟩

/-- The backend fails: `add_mem_region` fails too, but the region stays, without a mapping. -/
theorem mappings_miss_refused_region :
    (VhostUserHandler.memRun (plainDeps false) plainHandler
      (fun _ _ _ => .ok 0x7f00, .addMemRegion plainRegion 5)).1 = .error otherError ∧
    ((VhostUserHandler.memRun (plainDeps false) plainHandler
      (fun _ _ _ => .ok 0x7f00, .addMemRegion plainRegion 5)).2.atomicMem.map (·.key) = [(0x1000, 0x1000)]) ∧
    ¬ (Visits (VhostUserHandler.memStep (plainDeps false))
        (fun h => VhostUserHandler.Mirror vmRef h.atomicMem h.mappings) plainHandler plainRun ∧
      Along (VhostUserHandler.memStep (plainDeps false)) (VhostUserHandler.ErrKeeps (plainDeps false))
        plainHandler plainRun) := by
  refine ⟨by decide, by decide, fun hv => ?_⟩
  have hmirror : VhostUserHandler.Mirror vmRef _ _ := hv.1.2.first
  exact absurd hmirror.length_eq (by decide)

end VhostUser
