import VhostUser.Memory
import VhostUser.Lib.Segments
/-!
# Guest memory region by region, and as one table

`add_mem_region` and `remove_mem_region` change the memory by one region; `set_mem_table` replaces it.
`insert_region` of vm-memory keeps the regions in guest order, `from_regions` takes them as they are.

| here | there |
| --- | --- |
| `RemovesPresent`, `AcceptsApart` | what vm-memory does not refuse |
| `addMemRegions`  | `add_mem_region` for each region of a list, until one fails |
| `view`           | a region of guest memory with its mapping, the bitmap apart |
| `TablesAgree`    | two orders of a table, and the regions one by one, give the same memory |

* `add_then_remove` — a region that was added is removed again without a trace: guest bases are
  unique in the memory, and `mappings` mirrors it;
* `tables_agree_iff` — `set_mem_table` (`handler.rs:330-371`) takes a table in ascending order only,
  where `add_mem_region` (`:621-659`) takes the regions in any.
-/
namespace VhostUser
open Trace Segments

namespace VhostUserHandler
variable {B M : Type} {d : Deps B M} {h h' : VhostUserHandler B M}

/-! ## Regions as segments -/

theorem size_pos {size : UInt64} (hne : size ≠ 0) : 0 < size.toNat :=
  Nat.pos_of_ne_zero fun h0 => hne (UInt64.toNat_inj.1 h0)

/-- The same regions in two memories are the same list. -/
theorem Disjoint.eq_of_perm {mem mem' : M} (hd : Disjoint d.vm mem) (hd' : Disjoint d.vm mem')
    (hp : (d.vm.regions mem).Perm (d.vm.regions mem')) : d.vm.regions mem = d.vm.regions mem' :=
  Segments.eq_of_perm hp hd.sorted hd'.sorted fun g hg => size_pos (hd.size_ne g hg)

/-- `remove_region` does not fail for a region that is there. -/
def RemovesPresent (vm : VmMemory M) : Prop :=
  ∀ {m : M} {g : GuestRegionMmap}, Disjoint vm m → g ∈ vm.regions m →
    ∃ p, vm.removeRegion m g.guestBase g.size = some p

/-- A request that has a plan carries it out when the backend takes the memory. -/
theorem run_of_plan {r : MemRequest} {p : MemPlan M} (hp : r.plan d h = .ok p)
    (hup : (d.backend.updateMemory p.mem h.backend).1 = .ok ()) :
    ∃ b, r.run d h =
      (.ok (), { h.allocCells p.cells with atomicMem := p.mem, backend := b, mappings := p.mappings }) := by
  rw [run_eq, hp]
  dsimp only
  rw [replaceMem_eq]
  rcases hres : d.backend.updateMemory p.mem h.backend with ⟨res, b⟩
  rw [hres] at hup
  cases res with
  | error e => cases hup
  | ok u => exact ⟨b, rfl⟩

/-! ## A region added and removed -/

theorem MemInv.ok (hvm : VmMemorySpec d.vm) (hi : MemInv d h) {a : MemAction}
    (hok : (memRun d h a).1 = .ok ()) : MemInv d (memStep d h a) := by
  rcases memRun_cases hvm h a with ⟨e, -, hrun⟩ | ⟨p, -, hpl, ⟨e, b, -, hrun⟩ | ⟨b, -, hrun⟩⟩
  · rw [hrun] at hok
    cases hok
  · rw [hrun] at hok
    cases hok
  · simpa only [memStep, hrun] using hi.carried hpl

/-- What is left after the removal of a region that was just inserted. -/
theorem regions_removed (hvm : VmMemorySpec d.vm) {mem mem' : M} {g g' : GuestRegionMmap}
    {rs : List GuestRegionMmap} (hd : Disjoint d.vm mem) (hperm : (d.vm.regions mem).Perm (g :: rs))
    (hrem : d.vm.removeRegion mem g.guestBase g.size = some (mem', g')) :
    (d.vm.regions mem').Perm rs ∧ Disjoint d.vm mem' ∧ ∀ g'' ∈ rs, g''.guestBase ≠ g.guestBase := by
  obtain ⟨hbase, -, pre, post, hold, hnew⟩ := hvm.removeRegion_ok hrem
  have hothers := hd.base_ne hold
  -- No other region begins where `g` does, so it is `g` that was found.
  have hmem : g ∈ pre ++ g' :: post := hold ▸ hperm.symm.subset (List.mem_cons_self ..)
  have hfound : g' = g := by
    by_contra hne
    have hin : g ∈ pre ++ post := by
      simp only [List.mem_append, List.mem_cons] at hmem ⊢
      rcases hmem with hpre | rfl | hpost
      · exact .inl hpre
      · exact absurd rfl hne
      · exact .inr hpost
    exact hothers g hin hbase.symm
  subst hfound
  have hrest : (pre ++ post).Perm rs := by
    rw [hold] at hperm
    exact List.Perm.cons_inv (List.perm_middle.symm.trans hperm)
  have hsub : (pre ++ post).Sublist (pre ++ g' :: post) := (List.sublist_cons_self g' post).append_left pre
  refine ⟨hnew ▸ hrest, ⟨?_, fun g'' hg'' => ?_⟩, fun g'' hg'' => hothers g'' (hrest.symm.subset hg'')⟩
  · rw [hnew]
    exact (hold ▸ hd.sorted).sublist hsub
  · rw [hnew] at hg''
    exact hd.size_ne g'' (hold ▸ hsub.subset hg'')

/-- `retain` drops the entry that was pushed last, and no other. -/
theorem mappings_retained (hi : MemInv d h) {r : VhostUserMemoryRegion}
    (hbase : ∀ g ∈ d.vm.regions h.atomicMem, g.guestBase ≠ r.guestPhysAddr) :
    (h.mappings ++ [addrMapping r]).filter (fun m => m.gpaBase ≠ r.guestPhysAddr) = h.mappings := by
  have hkeep : ∀ m ∈ h.mappings, m.gpaBase ≠ r.guestPhysAddr := by
    intro m hm
    have hkey : m.key ∈ (d.vm.regions h.atomicMem).map (·.key) := hi.mirror.subset (List.mem_map_of_mem hm)
    obtain ⟨g, hg, hgm⟩ := List.mem_map.1 hkey
    have hsame : g.guestBase = m.gpaBase := congrArg Prod.fst hgm
    exact hsame ▸ hbase g hg
  rw [List.filter_append, List.filter_eq_self.2 fun m hm => by simpa using hkeep m hm]
  simp [addrMapping]

/-- **A region added and removed leaves no trace**, in every state that requests which returned `Ok`
lead to from empty memory. -/
theorem add_then_remove (hvm : VmMemorySpec d.vm) (hrem : RemovesPresent d.vm) {b : B} {mem : M}
    {heap : LogHeap} {n : Nat} {h₀ : VhostUserHandler B M} (hnew : new d b mem heap n = some h₀)
    (hempty : d.vm.regions mem = []) (as : List MemAction)
    (has : Along (memStep d) (fun h a => (memRun d h a).1 = .ok ()) h₀ as)
    {r : VhostUserSingleMemoryRegion} {file : File} {mmap mmap' : Mmap} {h₁ : VhostUserHandler B M}
    (hadd : memRun d (run (memStep d) h₀ as) (mmap, .addMemRegion r file) = (.ok (), h₁))
    (hacc : Accepted d h₁ (mmap', .removeMemRegion r)) :
    ∃ h₂, memRun d h₁ (mmap', .removeMemRegion r) = (.ok (), h₂) ∧
      d.vm.regions h₂.atomicMem = d.vm.regions (run (memStep d) h₀ as).atomicMem ∧
      h₂.mappings = (run (memStep d) h₀ as).mappings ∧
      ∀ va, h₂.vmmVaToGpa va = (run (memStep d) h₀ as).vmmVaToGpa va := by
  have hvisits : Visits (memStep d) (MemInv d) h₀ as :=
    visits_of_along (I := MemInv d) (fun h a hi hok => MemInv.ok hvm hi hok) as h₀ (memInv_new hnew hempty) has
  have hi : MemInv d (run (memStep d) h₀ as) := hvisits.last
  generalize run (memStep d) h₀ as = h at hadd hi
  obtain ⟨p, bk, hplan, -, rfl⟩ := run_ok hadd
  have hpl : Planned { d with mmap := mmap } h (.addMemRegion r file) p :=
    planned (d := { d with mmap := mmap }) hvm hplan
  have hd₁ : Disjoint d.vm p.mem := hpl.disjoint hi.disjoint
  cases hpl with
  | @insert _ _ g mem₁ hg hperm hsorted =>
    have hkey : g.key = (addrMapping r.region).key := (newRegion_ok hg).1
    have hbase : g.guestBase = r.region.guestPhysAddr := congrArg Prod.fst hkey
    have hsize : g.size = r.region.memorySize := congrArg Prod.snd hkey
    have hmem : g ∈ d.vm.regions mem₁ := hperm.symm.subset (List.mem_cons_self ..)
    obtain ⟨⟨mem₂, g'⟩, hremoved⟩ := hrem hd₁ hmem
    obtain ⟨hrest, hd₂, hothers⟩ := regions_removed hvm hd₁ hperm hremoved
    rw [hbase] at hothers
    rw [hbase, hsize] at hremoved
    -- The plan of the removal, and its execution.
    have hplan' : (MemRequest.removeMemRegion r).plan { d with mmap := mmap' }
        { h.allocCells 1 with
          atomicMem := mem₁, backend := bk, mappings := h.mappings ++ [addrMapping r.region] } =
        .ok ⟨mem₂, h.mappings, 0⟩ := by
      simp only [MemRequest.plan, hremoved, mappings_retained hi hothers]
    obtain ⟨bk', hrun⟩ := run_of_plan hplan' (hacc _ hplan')
    exact ⟨_, hrun, hd₂.eq_of_perm hi.disjoint hrest, rfl, fun va => rfl⟩

/-! ## One table, or region by region -/

/-- Regions with their files, as a message brings them. -/
abbrev Table := List (VhostUserMemoryRegion × File)

/-- `from_regions` and `insert_region` refuse neither order nor disjointness where they have them. -/
structure AcceptsApart (vm : VmMemory M) : Prop where
  fromRegions_some : ∀ {rs : List GuestRegionMmap}, rs ≠ [] → rs.Pairwise Before → ∃ m, vm.fromRegions rs = some m
  insertRegion_some : ∀ {m : M} {r : GuestRegionMmap}, Disjoint vm m → r.size ≠ 0 →
    (∀ r' ∈ vm.regions m, Before r r' ∨ Before r' r) → ∃ m', vm.insertRegion m r = some m'

def addMemRegions (d : Deps B M) : Table → VhostUserHandler B M → Except Error Unit × VhostUserHandler B M
  | [], h => (.ok (), h)
  | (r, file) :: rest, h =>
    match h.addMemRegion d ⟨0, r⟩ file with
    | (.ok (), h) => addMemRegions d rest h
    | (.error e, h) => (.error e, h)

/-- A region of guest memory and the address it is mapped at. -/
def view (g : GuestRegionMmap) : UInt64 × UInt64 × Nat := (g.guestBase, g.size, g.hostAddr)

def viewOf (d : Deps B M) (rf : VhostUserMemoryRegion × File) : UInt64 × UInt64 × Nat :=
  (rf.1.guestPhysAddr, rf.1.memorySize,
    match d.mmap rf.2 rf.1.mmapOffset.toNat rf.1.memorySize.toNat with
    | .ok addr => addr
    | .error _ => 0)

/-- The guest memory of a handler, the bitmaps apart. -/
def views (d : Deps B M) (h : VhostUserHandler B M) : List (UInt64 × UInt64 × Nat) :=
  (d.vm.regions h.atomicMem).map view

def viewLo (v : UInt64 × UInt64 × Nat) : Nat := v.1.toNat
def viewLen (v : UInt64 × UInt64 × Nat) : Nat := v.2.1.toNat

/-- Valid regions, pairwise disjoint, that can be mapped. -/
structure Describes (d : Deps B M) (L : Table) : Prop where
  valid : ∀ rf ∈ L, rf.1.isValidCommon = true
  apart : (L.map (viewOf d)).Pairwise (Apart viewLo viewLen)
  mapped : ∀ rf ∈ L, ∃ addr, d.mmap rf.2 rf.1.mmapOffset.toNat rf.1.memorySize.toNat = .ok addr

/-- Ascending guest addresses, without overlap. -/
def Ascending (d : Deps B M) (L : Table) : Prop := (L.map (viewOf d)).Pairwise (Precedes viewLo viewLen)

instance (d : Deps B M) (L : Table) : Decidable (Ascending d L) :=
  inferInstanceAs (Decidable ((L.map (viewOf d)).Pairwise (Precedes viewLo viewLen)))

theorem Describes.perm {L L' : Table} (hL : Describes d L) (hp : L'.Perm L) : Describes d L' where
  valid rf hrf := hL.valid rf (hp.subset hrf)
  apart := (pairwise_apart_perm (hp.map _)).2 hL.apart
  mapped rf hrf := hL.mapped rf (hp.subset hrf)

theorem Describes.tail {L : Table} {rf : VhostUserMemoryRegion × File} (hL : Describes d (rf :: L)) : Describes d L where
  valid rf' hrf' := hL.valid rf' (List.mem_cons_of_mem _ hrf')
  apart := hL.apart.of_cons
  mapped rf' hrf' := hL.mapped rf' (List.mem_cons_of_mem _ hrf')

theorem newRegion_some {r : VhostUserMemoryRegion} {file : File} (hr : r.isValidCommon = true) {addr : Nat}
    (hmap : d.mmap file r.mmapOffset.toNat r.memorySize.toNat = .ok addr) (cell : Nat) :
    newRegion d r file cell = .ok ⟨r.guestPhysAddr, r.memorySize, addr, ⟨cell, 0⟩⟩ := by
  obtain ⟨hne, hfits, -, -⟩ := VhostUserMemoryRegion.isValidCommon_iff.1 hr
  simp only [newRegion, mmapRegion, if_neg hne, hmap, if_pos hfits]

theorem Describes.newRegion {L : Table} {rf : VhostUserMemoryRegion × File} (hL : Describes d L) (hrf : rf ∈ L)
    (cell : Nat) : ∃ g, VhostUserHandler.newRegion d rf.1 rf.2 cell = .ok g ∧ view g = viewOf d rf ∧ g.size ≠ 0 := by
  obtain ⟨addr, hmap⟩ := hL.mapped rf hrf
  refine ⟨_, newRegion_some (hL.valid rf hrf) hmap cell, ?_, ?_⟩
  · rw [view, viewOf, hmap]
  · exact (VhostUserMemoryRegion.isValidCommon_iff.1 (hL.valid rf hrf)).1

theorem Describes.mapRegions {L : Table} (hL : Describes d L) (cell : Nat) :
    ∃ gs ms, VhostUserHandler.mapRegions d L cell = .ok (gs, ms) ∧ gs.map view = L.map (viewOf d) := by
  induction L generalizing cell with
  | nil => exact ⟨[], [], rfl, rfl⟩
  | cons rf L ih =>
    obtain ⟨g, hg, hview, -⟩ := hL.newRegion (List.mem_cons_self ..) cell
    obtain ⟨gs, ms, hrest, hviews⟩ := ih hL.tail (cell + 1)
    refine ⟨g :: gs, addrMapping rf.1 :: ms, ?_, ?_⟩
    · rw [VhostUserHandler.mapRegions, hg]
      dsimp only
      rw [hrest]
    · rw [List.map_cons, List.map_cons, hview, hviews]

theorem pairwise_before {rs : List GuestRegionMmap} :
    rs.Pairwise Before ↔ (rs.map view).Pairwise (Precedes viewLo viewLen) := by
  rw [List.pairwise_map]
  exact Iff.rfl

theorem zip_map (L : Table) : (L.map Prod.fst).zip (L.map Prod.snd) = L := by
  induction L with
  | nil => rfl
  | cons rf L ih => rw [List.map_cons, List.map_cons, List.zip_cons_cons, ih]

theorem Describes.views_pos {L : Table} (hL : Describes d L) : ∀ v ∈ L.map (viewOf d), 0 < viewLen v := by
  intro v hv
  obtain ⟨rf, hrf, rfl⟩ := List.mem_map.1 hv
  exact size_pos (VhostUserMemoryRegion.isValidCommon_iff.1 (hL.valid rf hrf)).1

/-- A table that `set_mem_table` took: it is in order, and it is the guest memory now. -/
theorem setMemTable_views (hvm : VmMemorySpec d.vm) {L : Table} (hL : Describes d L)
    (hrun : h.setMemTable d (L.map Prod.fst) (L.map Prod.snd) = (.ok (), h')) :
    h'.views d = L.map (viewOf d) ∧ L ≠ [] ∧ Ascending d L := by
  obtain ⟨gs, ms, hmap, hviews⟩ := hL.mapRegions h.nextCell
  obtain ⟨p, b, hp, -, rfl⟩ := run_ok (r := .setMemTable (L.map Prod.fst) (L.map Prod.snd)) hrun
  simp only [MemRequest.plan, zip_map, hmap] at hp
  cases hm : d.vm.fromRegions gs with
  | none =>
    rw [hm] at hp
    cases hp
  | some mem =>
    rw [hm] at hp
    cases hp
    obtain ⟨hgs, hmem, hsorted⟩ := hvm.fromRegions_ok hm
    rw [pairwise_before, hviews] at hsorted
    refine ⟨by rw [views, hmem, hviews], fun hempty => hgs ?_, hsorted⟩
    rw [hempty] at hviews
    exact List.map_eq_nil_iff.1 hviews

theorem setMemTable_ok (hacc : AcceptsApart d.vm) (hup : ∀ mem b, (d.backend.updateMemory mem b).1 = .ok ())
    {L : Table} (hL : Describes d L) (h : VhostUserHandler B M) (hne : L ≠ []) (hasc : Ascending d L) :
    ∃ h', h.setMemTable d (L.map Prod.fst) (L.map Prod.snd) = (.ok (), h') := by
  obtain ⟨gs, ms, hmap, hviews⟩ := hL.mapRegions h.nextCell
  have hsorted : gs.Pairwise Before := by
    rw [pairwise_before, hviews]
    exact hasc
  have hgs : gs ≠ [] := by
    rintro rfl
    exact hne (List.map_eq_nil_iff.1 hviews.symm)
  obtain ⟨mem, hm⟩ := hacc.fromRegions_some hgs hsorted
  have hplan : MemRequest.plan d h (.setMemTable (L.map Prod.fst) (L.map Prod.snd)) = .ok ⟨mem, ms, gs.length⟩ := by
    simp only [MemRequest.plan, zip_map, hmap, hm]
  obtain ⟨b, hrun⟩ := run_of_plan hplan (hup _ _)
  exact ⟨_, hrun⟩

/-- **Added one by one**, regions apart from each other and from those present are all taken. -/
theorem addMemRegions_ok (hvm : VmMemorySpec d.vm) (hacc : AcceptsApart d.vm)
    (hup : ∀ mem b, (d.backend.updateMemory mem b).1 = .ok ()) (L : Table) (hL : Describes d L) (h : VhostUserHandler B M) (hd : Disjoint d.vm h.atomicMem)
    (hfree : ∀ v ∈ h.views d, ∀ w ∈ L.map (viewOf d), Apart viewLo viewLen v w) :
    ∃ h', addMemRegions d L h = (.ok (), h') ∧ Disjoint d.vm h'.atomicMem ∧
      (h'.views d).Perm (L.map (viewOf d) ++ h.views d) := by
  induction L generalizing h with
  | nil => exact ⟨h, rfl, hd, .refl _⟩
  | cons rf L ih =>
    obtain ⟨g, hg, hview, hsize⟩ := hL.newRegion (List.mem_cons_self ..) h.nextCell
    have hapart : ∀ r' ∈ d.vm.regions h.atomicMem, Before g r' ∨ Before r' g := fun r' hr' => by
      have hv := hfree (view r') (List.mem_map_of_mem hr') (viewOf d rf) (List.mem_cons_self ..)
      rw [← hview] at hv
      exact hv.symm
    obtain ⟨mem, hm⟩ := hacc.insertRegion_some hd hsize hapart
    have hplan : MemRequest.plan d h (.addMemRegion ⟨0, rf.1⟩ rf.2) =
        .ok ⟨mem, h.mappings ++ [addrMapping rf.1], 1⟩ := by
      simp only [MemRequest.plan, hg, hm]
    obtain ⟨b, hrun⟩ := run_of_plan hplan (hup _ _)
    have hd₁ : Disjoint d.vm mem := (planned hvm hplan).disjoint hd
    have hviews : ((d.vm.regions mem).map view).Perm (viewOf d rf :: h.views d) := by
      rw [← hview]
      exact (hvm.insertRegion_ok hm).1.map view
    have hpair := List.pairwise_cons.1 hL.apart
    obtain ⟨h', hrest, hd', hperm⟩ := ih hL.tail
      { h.allocCells 1 with atomicMem := mem, backend := b, mappings := h.mappings ++ [addrMapping rf.1] } hd₁
      (fun v hv w hw => by
        rcases List.mem_cons.1 (hviews.subset hv) with rfl | hv
        · exact hpair.1 w hw
        · exact hfree v hv w (List.mem_cons_of_mem _ hw))
    refine ⟨h', ?_, hd', hperm.trans ?_⟩
    · rw [addMemRegions]
      have hadd : h.addMemRegion d ⟨0, rf.1⟩ rf.2 = _ := hrun
      rw [hadd]
      exact hrest
    · exact (hviews.append_left _).trans List.perm_middle

/-- The tables `L` and `L'` are both taken, and give the same memory, which is also what the regions
give that are added one by one to the empty memory of `h₀`, in any order. -/
def TablesAgree (d : Deps B M) (h h₀ : VhostUserHandler B M) (L L' : Table) : Prop :=
  ∃ h₁ h₂, h.setMemTable d (L.map Prod.fst) (L.map Prod.snd) = (.ok (), h₁) ∧
    h.setMemTable d (L'.map Prod.fst) (L'.map Prod.snd) = (.ok (), h₂) ∧ h₂.views d = h₁.views d ∧
    ∀ L'' : Table, L''.Perm L → ∃ h₃, addMemRegions d L'' h₀ = (.ok (), h₃) ∧ h₃.views d = h₁.views d

/-- **The two ways of describing memory agree exactly when** the tables are in ascending order. -/
theorem tables_agree_iff (hvm : VmMemorySpec d.vm) (hacc : AcceptsApart d.vm)
    (hup : ∀ mem b, (d.backend.updateMemory mem b).1 = .ok ()) {h₀ : VhostUserHandler B M}
    (hempty : d.vm.regions h₀.atomicMem = []) {L L' : Table} (hL : Describes d L) (hp : L'.Perm L) :
    TablesAgree d h h₀ L L' ↔ L ≠ [] ∧ Ascending d L ∧ Ascending d L' := by
  have hL' : Describes d L' := hL.perm hp
  constructor
  · rintro ⟨h₁, h₂, hrun, hrun', -, -⟩
    obtain ⟨-, hne, hasc⟩ := setMemTable_views hvm hL hrun
    obtain ⟨-, -, hasc'⟩ := setMemTable_views hvm hL' hrun'
    exact ⟨hne, hasc, hasc'⟩
  · rintro ⟨hne, hasc, hasc'⟩
    have hne' : L' ≠ [] := fun h => hne (List.perm_nil.1 (h ▸ hp.symm))
    obtain ⟨h₁, hrun⟩ := setMemTable_ok hacc hup hL h hne hasc
    obtain ⟨h₂, hrun'⟩ := setMemTable_ok hacc hup hL' h hne' hasc'
    have hviews := (setMemTable_views hvm hL hrun).1
    refine ⟨h₁, h₂, hrun, hrun', ?_, fun L'' hp'' => ?_⟩
    · rw [hviews, (setMemTable_views hvm hL' hrun').1]
      exact Segments.eq_of_perm (hp.map _) hasc' hasc hL'.views_pos
    · have hd₀ : Disjoint d.vm h₀.atomicMem := ⟨by rw [hempty]; exact .nil, by rw [hempty]; simp⟩
      have hnone : h₀.views d = [] := by rw [views, hempty, List.map_nil]
      have hL'' : Describes d L'' := hL.perm hp''
      obtain ⟨h₃, hadd, hd₃, hperm⟩ := addMemRegions_ok hvm hacc hup L'' hL'' h₀ hd₀ (by rw [hnone]; simp)
      rw [hnone, List.append_nil] at hperm
      refine ⟨h₃, hadd, ?_⟩
      rw [hviews]
      have hpos : ∀ v ∈ h₃.views d, 0 < viewLen v := fun v hv => hL''.views_pos v (hperm.subset hv)
      exact Segments.eq_of_perm (hperm.trans (hp''.map _)) (pairwise_before.1 hd₃.sorted) hasc hpos

end VhostUserHandler

/-! ## Two regions of the one-ring device -/

theorem removesPresent_vmRef : VhostUserHandler.RemovesPresent vmRef := by
  intro m g _ hg
  have hsome : (m.find? fun r => r.guestBase = g.guestBase && r.size = g.size).isSome = true := by
    rw [List.find?_isSome]
    exact ⟨g, hg, by simp⟩
  obtain ⟨r, hr⟩ := Option.isSome_iff_exists.1 hsome
  exact ⟨(m.erase r, r), by simp only [vmRef, hr]⟩

theorem acceptsApart_vmRef : VhostUserHandler.AcceptsApart vmRef where
  fromRegions_some hne hs := ⟨_, if_pos ⟨hne, hs⟩⟩
  insertRegion_some {m r} hd hsize hapart := by
    have hperm := List.perm_orderedInsert (fun a b : GuestRegionMmap => a.guestBase ≤ b.guestBase) r m
    have hpos : ∀ g ∈ r :: m, 0 < g.size.toNat := by
      intro g hg
      rcases List.mem_cons.1 hg with rfl | hg
      · exact VhostUserHandler.size_pos hsize
      · exact VhostUserHandler.size_pos (hd.size_ne g hg)
    have hlo : m.Pairwise fun a b => a.guestBase ≤ b.guestBase := hd.sorted.imp fun {a b} hab => by
      have hle : a.guestBase.toNat ≤ b.guestBase.toNat := Nat.le_trans (Nat.le_add_right _ _) hab
      exact UInt64.le_iff_toNat_le.2 hle
    have hall : (r :: m).Pairwise (Apart (fun g => g.guestBase.toNat) fun g => g.size.toNat) :=
      List.pairwise_cons.2 ⟨hapart, apart_of_sorted hd.sorted⟩
    have hsorted : (m.orderedInsert (fun a b => a.guestBase ≤ b.guestBase) r).Pairwise Before := by
      refine sorted_of_apart ?_ ((pairwise_apart_perm hperm).2 hall) fun g hg => hpos g (hperm.subset hg)
      exact (hlo.orderedInsert r m).imp fun hab => UInt64.le_iff_toNat_le.1 hab
    exact ⟨_, if_pos hsorted⟩

/-- Guest memory `0x3000 .. 0x4000`, at `0x9000` in the frontend. -/
def secondRegion : VhostUserSingleMemoryRegion := ⟨0, 0x3000, 0x1000, 0x9000, 0⟩

/-- The device with one region. -/
def oneRegionHandler : VhostUserHandler Unit (List GuestRegionMmap) :=
  VhostUserHandler.memStep (plainDeps true) plainHandler (fun _ _ _ => .ok 0x7f00, .addMemRegion plainRegion 5)

/-- Another region is added to it and removed. -/
theorem second_region_leaves_no_trace :
    ∃ h₁ h₂, VhostUserHandler.memRun (plainDeps true) oneRegionHandler
        (fun _ _ _ => .ok 0x8f00, .addMemRegion secondRegion 6) = (.ok (), h₁) ∧
      VhostUserHandler.memRun (plainDeps true) h₁ (fun _ _ _ => .ok 0, .removeMemRegion secondRegion) = (.ok (), h₂) ∧
      h₂.mappings = [⟨0x7000, 0x1000, 0x1000⟩] ∧ h₁.mappings ≠ h₂.mappings := by
  have hadd : VhostUserHandler.memRun (plainDeps true)
      (run (VhostUserHandler.memStep (plainDeps true)) plainHandler
        [(fun _ _ _ => .ok 0x7f00, .addMemRegion plainRegion 5)])
      (fun _ _ _ => .ok 0x8f00, .addMemRegion secondRegion 6) = (.ok (), _) := rfl
  have hacc : ∀ h, VhostUserHandler.Accepted (plainDeps true) h (fun _ _ _ => .ok 0, .removeMemRegion secondRegion) :=
    fun _ _ _ => rfl
  obtain ⟨h₂, hrun, -, hmap, -⟩ := VhostUserHandler.add_then_remove (d := plainDeps true) vmRef_spec
    removesPresent_vmRef (new_plainHandler true) rfl [(fun _ _ _ => .ok 0x7f00, .addMemRegion plainRegion 5)] ⟨by decide, trivial⟩ hadd (hacc _)
  exact ⟨_, h₂, rfl, hrun, hmap, by rw [hmap]; decide⟩

def ascendingTable : VhostUserHandler.Table := [(plainRegion.region, 5), (secondRegion.region, 6)]

theorem describes_ascendingTable : VhostUserHandler.Describes (plainDeps true) ascendingTable :=
  ⟨by decide, by decide, fun _ _ => ⟨_, rfl⟩⟩

/-- In ascending order the table is the memory that the two regions make. -/
theorem ascending_table_agrees :
    VhostUserHandler.TablesAgree (plainDeps true) plainHandler plainHandler ascendingTable ascendingTable :=
  (VhostUserHandler.tables_agree_iff (d := plainDeps true) vmRef_spec acceptsApart_vmRef (fun _ _ => rfl) rfl
    describes_ascendingTable (.refl _)).2 ⟨by decide, by decide, by decide⟩

/-- In descending order `set_mem_table` fails; added in this order, both regions are taken. -/
theorem descending_table_refused :
    VhostUserHandler.Describes (plainDeps true) ascendingTable ∧ ascendingTable.reverse.Perm ascendingTable ∧
      ¬ VhostUserHandler.TablesAgree (plainDeps true) plainHandler plainHandler ascendingTable ascendingTable.reverse ∧
      (plainHandler.setMemTable (plainDeps true) [secondRegion.region, plainRegion.region] [6, 5]).1 =
        .error otherError ∧
      (VhostUserHandler.addMemRegions (plainDeps true) ascendingTable.reverse plainHandler).1 = .ok () := by
  have hrefused : (plainHandler.setMemTable (plainDeps true) [secondRegion.region, plainRegion.region] [6, 5]).1 =
      .error otherError := by decide
  refine ⟨describes_ascendingTable, List.reverse_perm _, ?_, hrefused, by decide⟩
  rintro ⟨h₁, h₂, -, hrun, -⟩
  have hok : (plainHandler.setMemTable (plainDeps true) [secondRegion.region, plainRegion.region] [6, 5]).1 =
      .ok () := congrArg Prod.fst hrun
  rw [hrefused] at hok
  cases hok

end VhostUser
