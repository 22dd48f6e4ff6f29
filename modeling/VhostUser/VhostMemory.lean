import VhostUser.VhostKern
import VhostUser.Lib.Buffer
/-!
# `VhostMemory` (`vhost/src/vhost_kern/vhost_binding.rs:289-331`)

The memory table of the kernel is a header of 8 bytes with a flexible array of 32-byte regions behind
it. `VhostMemory` keeps it in a `Vec` of headers, as many as have room for one header and all regions,
and reaches the regions through a pointer to the end of the first header.

| here | there |
| --- | --- |
| `VhostMemoryHeader`, `VhostMemoryRegion` | `vhost_memory` without its array, `vhost_memory_region` |
| `VhostMemory`      | the bytes of `buf` |
| `getHeader` `getRegion` `setRegion` | the methods; `none` is an access outside these bytes, or a panic |
| `Access`, `step`   | calls of `get_region` and `set_region` in any order |
| `setMemTable`      | `VhostBackend::set_mem_table` of the kernel backends (`mod.rs:143-166`) |

* `vhostMemory_sound` — after any calls the table is the array that `lastSet` describes;
* `setMemTable_eq` — the kernel is handed the header and the regions, one after the other.
-/
namespace VhostUser
open Bytes Buffer

structure VhostMemoryRegion where
  guestPhysAddr : UInt64
  memorySize : UInt64
  userspaceAddr : UInt64
  flagsPadding : UInt64
deriving DecidableEq, Repr

instance : ByteValued VhostMemoryRegion where
  size := 32
  asSlice r := u64le r.guestPhysAddr ++ (u64le r.memorySize ++ (u64le r.userspaceAddr ++ u64le r.flagsPadding))
  fromSlice bs := ⟨u64At 0 bs, u64At 8 bs, u64At 16 bs, u64At 24 bs⟩
  length_asSlice r := by simp
  fromSlice_asSlice r rest := by simp [u64At_skip]

structure VhostMemoryHeader where
  nregions : UInt32
  padding : UInt32
deriving DecidableEq, Repr

instance : ByteValued VhostMemoryHeader where
  size := 8
  asSlice h := u32le h.nregions ++ u32le h.padding
  fromSlice bs := ⟨u32At 0 bs, u32At 4 bs⟩
  length_asSlice h := by simp
  fromSlice_asSlice h rest := by simp [u32At_skip]

structure VhostMemory where
  buf : List UInt8
deriving DecidableEq

/-- All fields zero, as `Default` has it. -/
def VhostMemoryRegion.zero : VhostMemoryRegion := ⟨0, 0, 0, 0⟩

namespace VhostMemory

/-- The number of headers is rounded up. -/
def new (entries : UInt16) : Option VhostMemory :=
  let size := 32 * entries.toNat
  let count := (size + 2 * 8 - 1) / 8
  let buf := (List.replicate count (ByteValued.asSlice (⟨0, 0⟩ : VhostMemoryHeader))).flatten
  (store 0 (u32le entries.toUInt32) buf).map mk

def getHeader (m : VhostMemory) : Option VhostMemoryHeader := (load 0 8 m.buf).map ByteValued.fromSlice

/-- `as_slice(nregions)`, then the index. -/
def getRegion (m : VhostMemory) (index : UInt32) : Option (Option VhostMemoryRegion) :=
  match m.getHeader with
  | none => none
  | some header =>
    if index ≥ header.nregions then some none
    else match load 8 (32 * header.nregions.toNat) m.buf with
      | none => none
      | some regions => (load (32 * index.toNat) 32 regions).map fun bs => some (ByteValued.fromSlice bs)

/-- `as_mut_slice(index + 1)`, then the assignment to its last element. -/
def setRegion (m : VhostMemory) (index : UInt32) (region : VhostMemoryRegion) :
    Option (Except VhostError Unit × VhostMemory) :=
  match m.getHeader with
  | none => none
  | some header =>
    if index ≥ header.nregions then some (.error .invalidGuestMemory, m)
    else match load 8 (32 * (index.toNat + 1)) m.buf with
      | none => none
      | some _ =>
        (store (8 + 32 * index.toNat) (ByteValued.asSlice region) m.buf).map fun buf => (.ok (), ⟨buf⟩)

/-! ## The buffer as a table -/

/-- The buffer has one header and `entries` regions, which are those of `f`. -/
structure Sound (entries : UInt16) (f : Nat → VhostMemoryRegion) (m : VhostMemory) : Prop where
  length : m.buf.length = 8 + 32 * entries.toNat
  header : load 0 8 m.buf = some (ByteValued.asSlice (⟨entries.toUInt32, 0⟩ : VhostMemoryHeader))
  table : Table 8 32 entries.toNat (fun i => ByteValued.asSlice (f i)) m.buf

variable {entries : UInt16} {f : Nat → VhostMemoryRegion} {m : VhostMemory} {index : UInt32}

theorem count_eq (n : Nat) : (32 * n + 2 * 8 - 1) / 8 = 4 * n + 1 := by omega

theorem flatten_replicate_zero (n : Nat) :
    (List.replicate n (ByteValued.asSlice (⟨0, 0⟩ : VhostMemoryHeader))).flatten = List.replicate (8 * n) 0 := by
  have hzero : ByteValued.asSlice (⟨0, 0⟩ : VhostMemoryHeader) = List.replicate 8 0 := rfl
  rw [hzero, List.flatten_replicate_replicate, Nat.mul_comm]

theorem load_replicate {off n len : Nat} (h : off + n ≤ len) (x : UInt8) :
    load off n (List.replicate len x) = some (List.replicate n x) := by
  rw [load, if_pos (by rwa [List.length_replicate]), List.drop_replicate, List.take_replicate, Nat.min_eq_left (by omega)]

/-- **A new table** is the header and zeros. -/
theorem sound_new (entries : UInt16) : ∃ m, new entries = some m ∧ Sound entries (fun _ => .zero) m := by
  have hlen : 8 * (4 * entries.toNat + 1) = 8 + 32 * entries.toNat := by omega
  have hroom : 0 + (u32le entries.toUInt32).length ≤ (List.replicate (8 + 32 * entries.toNat) (0 : UInt8)).length := by
    rw [length_u32le, List.length_replicate]
    omega
  obtain ⟨buf, hw⟩ := store_some hroom
  refine ⟨⟨buf⟩, ?_, ?_, ?_, ?_, ?_⟩
  · simp only [new, count_eq, flatten_replicate_zero, hlen, hw, Option.map_some]
  · rw [length_store hw, List.length_replicate]
  · have hfirst := load_store hw
    have hlater : load (0 + 4) 4 buf = some (u32le 0) := by
      rw [load_store_of_apart hw (.inr (by rw [length_u32le])), load_replicate (by omega)]
      rfl
    rw [length_u32le] at hfirst
    exact load_add hfirst hlater
  · rw [length_store hw, List.length_replicate]
  · intro i hi
    have hslot : 32 * i + 32 ≤ 32 * entries.toNat := slot_le hi
    rw [load_store_of_apart hw (.inr (by rw [length_u32le]; omega)), load_replicate (by omega)]
    rfl

theorem Sound.getHeader (hm : Sound entries f m) : m.getHeader = some ⟨entries.toUInt32, 0⟩ := by
  rw [VhostMemory.getHeader, hm.header, Option.map_some, fromSlice_asSlice_nil]

theorem not_ge_iff : ¬ index ≥ entries.toUInt32 ↔ index.toNat < entries.toNat := by
  rw [ge_iff_le, UInt32.not_le, UInt32.lt_iff_toNat_lt, UInt16.toNat_toUInt32]

/-- Regions past the end of the table stand for nothing. -/
theorem Sound.congr {g : Nat → VhostMemoryRegion} (hm : Sound entries f m) (hfg : ∀ i < entries.toNat, f i = g i) :
    Sound entries g m where
  length := hm.length
  header := hm.header
  table := hm.table.congr fun i hi => by rw [hfg i hi]

theorem Sound.getRegion (hm : Sound entries f m) (index : UInt32) :
    m.getRegion index = some (if index.toNat < entries.toNat then some (f index.toNat) else none) := by
  rw [VhostMemory.getRegion, hm.getHeader]
  dsimp only
  by_cases hin : index.toNat < entries.toNat
  · have hslot : 32 * index.toNat + 32 ≤ 32 * entries.toNat := slot_le hin
    have hroom : 8 + 32 * entries.toUInt32.toNat ≤ m.buf.length := hm.table.room
    obtain ⟨regions, hregions, -⟩ := load_some hroom
    rw [if_neg (not_ge_iff.2 hin), hregions, if_pos hin]
    dsimp only
    rw [load_load hregions (by rw [UInt16.toNat_toUInt32]; omega), hm.table.entry _ hin, Option.map_some,
      fromSlice_asSlice_nil]
  · rw [if_pos (not_not.1 (mt not_ge_iff.1 hin)), if_neg hin]

theorem Sound.setRegion_lt (hm : Sound entries f m) (hin : index.toNat < entries.toNat) (region : VhostMemoryRegion) :
    ∃ m', m.setRegion index region = some (.ok (), m') ∧ Sound entries (Function.update f index.toNat region) m' := by
  have hslice : 8 + 32 * (index.toNat + 1) ≤ m.buf.length := by
    have hslot : 32 * index.toNat + 32 ≤ 32 * entries.toNat := slot_le hin
    have hlen := hm.length
    omega
  obtain ⟨slice, hslice, -⟩ := load_some hslice
  have hrec : (ByteValued.asSlice region).length = 32 := ByteValued.length_asSlice region
  obtain ⟨buf, hw⟩ := hm.table.writable hin hrec
  refine ⟨⟨buf⟩, ?_, ?_, ?_, ?_⟩
  · rw [VhostMemory.setRegion, hm.getHeader]
    dsimp only
    rw [if_neg (not_ge_iff.2 hin), hslice]
    dsimp only
    rw [hw]
    rfl
  · rw [length_store hw, hm.length]
  · -- The header lies before all regions.
    rw [load_store_of_apart hw (.inl (by omega)), hm.header]
  · refine (hm.table.write hrec hw).congr fun i _ => ?_
    by_cases hi : i = index.toNat
    · rw [hi, Function.update_self, Function.update_self]
    · rw [Function.update_of_ne hi, Function.update_of_ne hi]

theorem Sound.setRegion_ge (hm : Sound entries f m) (hout : ¬ index.toNat < entries.toNat) (region : VhostMemoryRegion) :
    m.setRegion index region = some (.error .invalidGuestMemory, m) := by
  rw [VhostMemory.setRegion, hm.getHeader]
  dsimp only
  rw [if_pos (not_not.1 (mt not_ge_iff.1 hout))]

/-! ## Runs of accesses -/

inductive Access where
  | set (index : UInt32) (region : VhostMemoryRegion)
  | get (index : UInt32)
deriving DecidableEq

def step (m : VhostMemory) : Access → Option VhostMemory
  | .set index region => (m.setRegion index region).map Prod.snd
  | .get index => (m.getRegion index).map fun _ => m

def wrote (f : Nat → VhostMemoryRegion) : Access → Nat → VhostMemoryRegion
  | .set index region => Function.update f index.toNat region
  | .get _ => f

/-- The region last set at an index, all zero if none was. -/
def lastSet (as : List Access) : Nat → VhostMemoryRegion := as.foldl wrote fun _ => .zero

theorem Sound.step (hm : Sound entries f m) (a : Access) :
    ∃ m', m.step a = some m' ∧ Sound entries (wrote f a) m' := by
  cases a with
  | set index region =>
    by_cases hin : index.toNat < entries.toNat
    · obtain ⟨m', hset, hm'⟩ := hm.setRegion_lt hin region
      exact ⟨m', by rw [VhostMemory.step, hset]; rfl, hm'⟩
    · refine ⟨m, by rw [VhostMemory.step, hm.setRegion_ge hin]; rfl, hm.congr fun i hi => ?_⟩
      rw [wrote, Function.update_of_ne (by omega)]
  | get index => exact ⟨m, by rw [VhostMemory.step, hm.getRegion]; rfl, hm⟩

theorem Sound.run (hm : Sound entries f m) (as : List Access) :
    ∃ m', as.foldlM VhostMemory.step m = some m' ∧ Sound entries (as.foldl wrote f) m' := by
  induction as generalizing m f with
  | nil => exact ⟨m, rfl, hm⟩
  | cons a as ih =>
    obtain ⟨m₁, hstep, hm₁⟩ := hm.step a
    obtain ⟨m', hrun, hm'⟩ := ih hm₁
    refine ⟨m', ?_, hm'⟩
    rw [List.foldlM_cons, hstep]
    exact hrun

end VhostMemory

/-- **`VhostMemory` is an array.** For every number of entries and after every sequence of accesses:
none left the buffer, the header is as it was made, an index is refused exactly when it is past the
end, and a region is the one last set there. -/
theorem vhostMemory_sound (entries : UInt16) :
    ∃ m₀, VhostMemory.new entries = some m₀ ∧ ∀ as : List VhostMemory.Access,
      ∃ m, as.foldlM VhostMemory.step m₀ = some m ∧ m.buf.length = 8 + 32 * entries.toNat ∧
        m.getHeader = some ⟨entries.toUInt32, 0⟩ ∧
        (∀ index, m.getRegion index =
          some (if index.toNat < entries.toNat then some (VhostMemory.lastSet as index.toNat) else none)) ∧
        ∀ index region, ∃ m', m.setRegion index region =
          some (if index.toNat < entries.toNat then .ok () else .error .invalidGuestMemory, m') := by
  obtain ⟨m₀, hnew, hm₀⟩ := VhostMemory.sound_new entries
  refine ⟨m₀, hnew, fun as => ?_⟩
  obtain ⟨m, hrun, hm⟩ := hm₀.run as
  refine ⟨m, hrun, hm.length, hm.getHeader, hm.getRegion, fun index region => ?_⟩
  by_cases hin : index.toNat < entries.toNat
  · obtain ⟨m', hset, -⟩ := hm.setRegion_lt hin region
    exact ⟨m', by rw [hset, if_pos hin]⟩
  · exact ⟨m, by rw [hm.setRegion_ge hin, if_neg hin]⟩

/-! ## The memory table for the kernel -/

def VHOST_MAX_MEMORY_REGIONS : Nat := 255

def VhostUserMemoryRegionInfo.toKernel (r : VhostUserMemoryRegionInfo) : VhostMemoryRegion :=
  ⟨r.guestPhysAddr, r.memorySize, r.userspaceAddr, 0⟩

namespace VhostMemory
variable {entries : UInt16} {f : Nat → VhostMemoryRegion} {m : VhostMemory}

/-- The loop of `set_mem_table`. -/
def setRegions : Nat → List VhostUserMemoryRegionInfo → VhostMemory → Option (Except VhostError Unit × VhostMemory)
  | _, [], m => some (.ok (), m)
  | index, region :: rest, m =>
    match m.setRegion (UInt32.ofNat index) region.toKernel with
    | none => none
    | some (.error e, m) => some (.error e, m)
    | some (.ok (), m) => setRegions (index + 1) rest m

/-- `ioctl` gets the bytes at `as_ptr`. -/
def setMemTable (ioctl : List UInt8 → Except VhostError Unit) (regions : List VhostUserMemoryRegionInfo) :
    Option (Except VhostError Unit) :=
  if regions.isEmpty || regions.length > VHOST_MAX_MEMORY_REGIONS then some (.error .invalidGuestMemory)
  else match new (UInt16.ofNat regions.length) with
    | none => none
    | some m =>
      match setRegions 0 regions m with
      | none => none
      | some (.error e, _) => some (.error e)
      | some (.ok (), m) => some (ioctl m.buf)

/-- The loop fills the table from `index` on, and leaves what is before. -/
theorem Sound.setRegions (hm : Sound entries f m) (index : Nat) (regions : List VhostUserMemoryRegionInfo)
    (hlen : index + regions.length ≤ entries.toNat) :
    ∃ m' g, VhostMemory.setRegions index regions m = some (.ok (), m') ∧ Sound entries g m' ∧
      (∀ i < index, g i = f i) ∧ ∀ i (hi : i < regions.length), g (index + i) = regions[i].toKernel := by
  induction regions generalizing index m f with
  | nil => exact ⟨m, f, rfl, hm, fun _ _ => rfl, fun i hi => absurd hi (Nat.not_lt_zero i)⟩
  | cons region rest ih =>
    have hentries := entries.toNat_lt
    rw [List.length_cons] at hlen
    have hidx : (UInt32.ofNat index).toNat = index := by
      rw [UInt32.toNat_ofNat', Nat.mod_eq_of_lt (by omega)]
    have hin : (UInt32.ofNat index).toNat < entries.toNat := by omega
    obtain ⟨m₁, hset, hm₁⟩ := hm.setRegion_lt hin region.toKernel
    rw [hidx] at hm₁
    obtain ⟨m', g, hrun, hm', hbefore, hfrom⟩ := ih hm₁ (index + 1) (by omega)
    refine ⟨m', g, ?_, hm', fun i hi => ?_, fun i hi => ?_⟩
    · rw [VhostMemory.setRegions, hset]
      exact hrun
    · rw [hbefore i (by omega), Function.update_of_ne (by omega)]
    · cases i with
      | zero => rw [Nat.add_zero, hbefore index (by omega), Function.update_self]; rfl
      | succ i =>
        have hi' : i < rest.length := by simpa using hi
        rw [show index + (i + 1) = index + 1 + i by omega, hfrom i hi', List.getElem_cons_succ]

/-- The buffer of a sound table is its header and its regions. -/
theorem Sound.buf_eq (hm : Sound entries f m) : m.buf =
    ByteValued.asSlice (⟨entries.toUInt32, 0⟩ : VhostMemoryHeader) ++
      (List.range entries.toNat).flatMap fun i => ByteValued.asSlice (f i) := by
  have hall := load_add hm.header (hm.table.load entries.toNat (Nat.le_refl _))
  rw [load, hm.length, if_pos (by omega), Option.some.injEq, List.drop_zero, ← hm.length, List.take_length] at hall
  exact hall

end VhostMemory

/-- **The kernel is handed the regions in their order**, behind a header with their number. -/
theorem setMemTable_eq (ioctl : List UInt8 → Except VhostError Unit) (regions : List VhostUserMemoryRegionInfo) :
    VhostMemory.setMemTable ioctl regions = some (
      if regions = [] ∨ VHOST_MAX_MEMORY_REGIONS < regions.length then .error .invalidGuestMemory
      else ioctl (ByteValued.asSlice (⟨UInt32.ofNat regions.length, 0⟩ : VhostMemoryHeader) ++
        regions.flatMap fun region => ByteValued.asSlice region.toKernel)) := by
  unfold VhostMemory.setMemTable
  by_cases hbad : regions = [] ∨ VHOST_MAX_MEMORY_REGIONS < regions.length
  · rw [if_pos (by simpa using hbad), if_pos hbad]
  · rw [if_neg (by simpa using hbad), if_neg hbad]
    have hmax : regions.length ≤ 255 := Nat.not_lt.1 fun hlt => hbad (.inr hlt)
    have hentries : (UInt16.ofNat regions.length).toNat = regions.length := by
      rw [UInt16.toNat_ofNat', Nat.mod_eq_of_lt (by omega)]
    obtain ⟨m₀, hnew, hm₀⟩ := VhostMemory.sound_new (UInt16.ofNat regions.length)
    obtain ⟨m, g, hrun, hm, -, hg⟩ := hm₀.setRegions 0 regions (by omega)
    have hheader : (UInt16.ofNat regions.length).toUInt32 = UInt32.ofNat regions.length := by
      apply UInt32.toNat_inj.1
      rw [UInt16.toNat_toUInt32, hentries, UInt32.toNat_ofNat', Nat.mod_eq_of_lt (by omega)]
    have hregions : (List.range regions.length).flatMap (fun i => ByteValued.asSlice (g i)) =
        regions.flatMap fun region => ByteValued.asSlice region.toKernel := by
      have hmap : (List.range regions.length).map g = regions.map fun region => region.toKernel := by
        refine List.ext_getElem (by simp) fun i hi _ => ?_
        have hi' : i < regions.length := by simpa using hi
        rw [List.getElem_map, List.getElem_map, List.getElem_range, ← hg i hi', Nat.zero_add]
      rw [← List.flatMap_map, hmap, List.flatMap_map]
    rw [hnew]
    dsimp only
    rw [hrun]
    dsimp only
    rw [hm.buf_eq, hheader, hentries, hregions]

end VhostUser
