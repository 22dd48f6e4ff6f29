import VhostUser.Frontend
import VhostUser.Vring
import VhostUser.Lib.Segments
/-!
# In-kernel backends: the rings given to the kernel (`vhost/src/vhost_kern/mod.rs`)

The kernel reads and writes a ring through one host address, that of its first byte.
`set_vring_addr` (`:212-224`) checks the configuration with `is_valid` (`:71-105`), then translates the
three addresses with `to_vhost_vring_addr` (`:445-474`).

| here | there |
| --- | --- |
| `KernRegion`, `GuestMemory` | **foreign code**: the memory of `vm_memory::GuestMemoryBackend`, as `memory()` returns it |
| `GuestMemorySpec`  | its documented behaviour |
| `VhostError`       | `vhost::Error`: what the functions here return |
| `isLogAddrValid`, `getLogAddr` | `backend.rs:47-64` |
| `endInRange`       | one of the three checks of `is_valid`, on the address after a ring |
| `Backed`           | all bytes of a ring are in guest memory, and in one piece from the translated address on |

* `accepted_rings_backed_iff` — first byte and address after the last are looked at, and nothing
  between them;
* `legal_rings_accepted_iff` — the address after the last byte is no byte of the ring, and must be in
  guest memory all the same.
-/
namespace VhostUser
open Segments

/-! ## Guest memory -/

structure KernRegion where
  guestBase : UInt64
  size : UInt64
  hostBase : UInt64
deriving DecidableEq, Repr

namespace KernRegion

def lo (r : KernRegion) : Nat := r.guestBase.toNat
def len (r : KernRegion) : Nat := r.size.toNat

end KernRegion

/-- `Option` stands for `Result`: the callers put an error of their own in its place. -/
structure GuestMemory where
  regions : List KernRegion
  addressInRange : UInt64 → Bool
  getHostAddress : UInt64 → Option UInt64

/-- Regions are disjoint, and an address is looked up in the one that has it. -/
structure GuestMemorySpec (m : GuestMemory) : Prop where
  apart : m.regions.Pairwise (Apart KernRegion.lo KernRegion.len)
  fits : ∀ r ∈ m.regions, r.lo + r.len ≤ 2 ^ 64
  addressInRange_iff : ∀ {a}, m.addressInRange a = true ↔
    ∃ r ∈ m.regions, Covers KernRegion.lo KernRegion.len r a.toNat
  getHostAddress_iff : ∀ {a host}, m.getHostAddress a = some host ↔
    ∃ r ∈ m.regions, Covers KernRegion.lo KernRegion.len r a.toNat ∧
      host = r.hostBase + UInt64.ofNat (a.toNat - r.lo)

/-- Guest memory that is its list of regions. -/
def memRef (regions : List KernRegion) : GuestMemory where
  regions := regions
  addressInRange a := regions.any fun r => Covers KernRegion.lo KernRegion.len r a.toNat
  getHostAddress a := (regions.find? fun r => Covers KernRegion.lo KernRegion.len r a.toNat).map fun r =>
    r.hostBase + UInt64.ofNat (a.toNat - r.lo)

theorem memRef_spec {regions : List KernRegion} (hapart : regions.Pairwise (Apart KernRegion.lo KernRegion.len))
    (hfits : ∀ r ∈ regions, r.lo + r.len ≤ 2 ^ 64) : GuestMemorySpec (memRef regions) where
  apart := hapart
  fits := hfits
  addressInRange_iff := by simp [memRef]
  getHostAddress_iff {a host} := by
    simp only [memRef, Option.map_eq_some_iff]
    constructor
    · rintro ⟨r, hr, rfl⟩
      have hcov := List.find?_some hr
      exact ⟨r, List.mem_of_find?_eq_some hr, by simpa using hcov, rfl⟩
    · rintro ⟨r, hr, hcov, rfl⟩
      cases hf : regions.find? fun r => Covers KernRegion.lo KernRegion.len r a.toNat with
      | none =>
        have := List.find?_eq_none.1 hf r hr
        simp [hcov] at this
      | some r' =>
        have hcov' := List.find?_some hf
        refine ⟨r', rfl, ?_⟩
        rw [eq_of_covers hapart (List.mem_of_find?_eq_some hf) hr (by simpa using hcov') hcov]

/-! ## The configuration of a ring -/

/-- `vhost::Error`. -/
inductive VhostError where
  | invalidGuestMemory | invalidQueue | descriptorTableAddress | usedAddress | availAddress | logAddress
  | ioctlError (e : IoError)
deriving DecidableEq, Repr

structure VhostVringAddr where
  index : UInt32
  flags : UInt32
  descUserAddr : UInt64
  usedUserAddr : UInt64
  availUserAddr : UInt64
  logGuestAddr : UInt64
deriving DecidableEq, Repr

namespace VringConfigData
variable (m : GuestMemory) (c : VringConfigData)

def isLogAddrValid : Bool := if (c.flags &&& 0x1) != 0 && c.logAddr.isNone then false else true

def getLogAddr : UInt64 := if (c.flags &&& 0x1) != 0 then c.logAddr.getD 0 else 0

def descTableSize : UInt64 := 16 * c.queueSize.toUInt64
def availRingSize : UInt64 := 6 + 2 * c.queueSize.toUInt64
def usedRingSize : UInt64 := 6 + 8 * c.queueSize.toUInt64

/-- Does the sum not overflow, and is it the address of a byte of guest memory? -/
def endInRange (addr size : UInt64) : Bool :=
  match checkedAdd addr size with
  | none => false
  | some v => m.addressInRange v

/-- `VhostKernBackend::is_valid`. -/
def isValid : Bool :=
  if c.queueSize > c.queueMaxSize || c.queueSize == 0 || (c.queueSize &&& (c.queueSize - 1)) != 0 then false
  else if !endInRange m c.descTableAddr c.descTableSize then false
  else if !endInRange m c.availRingAddr c.availRingSize then false
  else if !endInRange m c.usedRingAddr c.usedRingSize then false
  else c.isLogAddrValid

def toVhostVringAddr (queueIndex : UInt64) : Except VhostError VhostVringAddr :=
  match m.getHostAddress c.descTableAddr with
  | none => .error .descriptorTableAddress
  | some descAddr =>
    match m.getHostAddress c.availRingAddr with
    | none => .error .availAddress
    | some availAddr =>
      match m.getHostAddress c.usedRingAddr with
      | none => .error .usedAddress
      | some usedAddr =>
        .ok ⟨queueIndex.toUInt32, c.flags, descAddr, usedAddr, availAddr, c.getLogAddr⟩

/-- `set_vring_addr`; the ioctl is the kernel's. -/
def setVringAddr (ioctl : VhostVringAddr → Except VhostError Unit) (queueIndex : UInt64) : Except VhostError Unit :=
  if !c.isValid m then .error .invalidQueue
  else match c.toVhostVringAddr m queueIndex with
    | .error e => .error e
    | .ok vringAddr => ioctl vringAddr

/-- Guest address and size of descriptor table, available ring and used ring. -/
def rings : List (UInt64 × UInt64) :=
  [(c.descTableAddr, c.descTableSize), (c.availRingAddr, c.availRingSize), (c.usedRingAddr, c.usedRingSize)]

end VringConfigData

/-- The host addresses of the rings, in the same order. -/
def VhostVringAddr.users (a : VhostVringAddr) : List UInt64 := [a.descUserAddr, a.availUserAddr, a.usedUserAddr]

namespace VringConfigData
variable {m : GuestMemory} {c : VringConfigData} {addr size user : UInt64}

theorem forall_rings {P : UInt64 × UInt64 → Prop} : (∀ p ∈ c.rings, P p) ↔ P (c.descTableAddr, c.descTableSize) ∧
    P (c.availRingAddr, c.availRingSize) ∧ P (c.usedRingAddr, c.usedRingSize) := by
  simp only [rings, List.forall_mem_cons, List.not_mem_nil, false_imp_iff, implies_true, and_true]

theorem toNat_descTableSize (c : VringConfigData) : c.descTableSize.toNat = 16 * c.queueSize.toNat := by
  have := c.queueSize.toNat_lt
  simp [descTableSize]
  omega

theorem toNat_availRingSize (c : VringConfigData) : c.availRingSize.toNat = 6 + 2 * c.queueSize.toNat := by
  have := c.queueSize.toNat_lt
  simp [availRingSize]
  omega

theorem toNat_usedRingSize (c : VringConfigData) : c.usedRingSize.toNat = 6 + 8 * c.queueSize.toNat := by
  have := c.queueSize.toNat_lt
  simp [usedRingSize]
  omega

theorem endInRange_iff (hm : GuestMemorySpec m) : endInRange m addr size = true ↔
    ∃ r ∈ m.regions, Covers KernRegion.lo KernRegion.len r (addr.toNat + size.toNat) := by
  unfold endInRange checkedAdd
  by_cases hfits : addr.toNat + size.toNat < 2 ^ 64
  · have hsum : (addr + size).toNat = addr.toNat + size.toNat := by
      rw [UInt64.toNat_add, Nat.mod_eq_of_lt hfits]
    rw [if_pos hfits]
    dsimp only
    rw [hm.addressInRange_iff, hsum]
  · rw [if_neg hfits]
    refine iff_of_false Bool.false_ne_true ?_
    rintro ⟨r, hr, -, hlt⟩
    have := hm.fits r hr
    omega

/-- **What `is_valid` checks.** -/
theorem isValid_iff (hm : GuestMemorySpec m) : c.isValid m = true ↔
    c.queueSize ≤ c.queueMaxSize ∧ c.queueSize.toNat.isPowerOfTwo ∧ c.isLogAddrValid = true ∧
      ∀ p ∈ c.rings, ∃ r ∈ m.regions, Covers KernRegion.lo KernRegion.len r (p.1.toNat + p.2.toNat) := by
  have hsize : (c.queueSize > c.queueMaxSize || c.queueSize == 0 ||
      (c.queueSize &&& (c.queueSize - 1)) != 0) = true ↔
      ¬ (c.queueSize ≤ c.queueMaxSize ∧ c.queueSize.toNat.isPowerOfTwo) := by
    rw [← isPowerOfTwo_iff, isPowerOfTwo]
    by_cases hle : c.queueSize ≤ c.queueMaxSize
    · by_cases hzero : c.queueSize = 0
      · simp [hzero]
      · simp [hle, UInt16.not_lt.2 hle, hzero]
    · simp [hle, UInt16.not_le.1 hle]
  have hrings : (∀ p ∈ c.rings, ∃ r ∈ m.regions, Covers KernRegion.lo KernRegion.len r (p.1.toNat + p.2.toNat)) ↔
      endInRange m c.descTableAddr c.descTableSize = true ∧ endInRange m c.availRingAddr c.availRingSize = true ∧
        endInRange m c.usedRingAddr c.usedRingSize = true := by
    simp only [forall_rings, endInRange_iff hm]
  rw [hrings, isValid]
  split
  · rename_i hbad
    exact iff_of_false Bool.false_ne_true fun h => hsize.1 hbad ⟨h.1, h.2.1⟩
  · rename_i hgood
    have hgood := not_not.1 (mt hsize.2 hgood)
    simp only [hgood, true_and]
    cases endInRange m c.descTableAddr c.descTableSize <;> cases endInRange m c.availRingAddr c.availRingSize <;>
      cases endInRange m c.usedRingAddr c.usedRingSize <;> simp

theorem toVhostVringAddr_ok {queueIndex : UInt64} {a : VhostVringAddr} :
    c.toVhostVringAddr m queueIndex = .ok a ↔ m.getHostAddress c.descTableAddr = some a.descUserAddr ∧
      m.getHostAddress c.availRingAddr = some a.availUserAddr ∧
      m.getHostAddress c.usedRingAddr = some a.usedUserAddr ∧
      a.index = queueIndex.toUInt32 ∧ a.flags = c.flags ∧ a.logGuestAddr = c.getLogAddr := by
  unfold toVhostVringAddr
  obtain ⟨index, flags, desc, used, avail, log⟩ := a
  cases m.getHostAddress c.descTableAddr <;> cases m.getHostAddress c.availRingAddr <;>
    cases m.getHostAddress c.usedRingAddr <;> simp
  grind

/-- The kernel is handed the addresses of a ring only after both. -/
theorem setVringAddr_ok {ioctl : VhostVringAddr → Except VhostError Unit} {queueIndex : UInt64} :
    c.setVringAddr m ioctl queueIndex = .ok () ↔
      c.isValid m = true ∧ ∃ a, c.toVhostVringAddr m queueIndex = .ok a ∧ ioctl a = .ok () := by
  unfold setVringAddr
  by_cases hvalid : c.isValid m = true
  · rcases c.toVhostVringAddr m queueIndex with e | a
    · simp [hvalid]
    · simp [hvalid]
  · simp [hvalid]

end VringConfigData

/-! ## The bytes of a ring -/

namespace GuestMemory
variable {m : GuestMemory} {addr size user : UInt64}

/-- Byte `k` of the ring is in guest memory, at the host address `user + k`. -/
def Backed (m : GuestMemory) (addr size user : UInt64) : Prop :=
  ∀ k < size.toNat, m.addressInRange (addr + UInt64.ofNat k) = true ∧
    m.getHostAddress (addr + UInt64.ofNat k) = some (user + UInt64.ofNat k)

/-- Where a region ends inside the ring, another begins, in guest memory and in the host's. -/
def Seamless (m : GuestMemory) (addr size : UInt64) : Prop :=
  ∀ r ∈ m.regions, 0 < r.len → addr.toNat < r.lo + r.len → r.lo + r.len < addr.toNat + size.toNat →
    ∃ r' ∈ m.regions, 0 < r'.len ∧ r'.lo = r.lo + r.len ∧ r'.hostBase = r.hostBase + r.size

theorem iterate_next (n : Nat) (a : UInt64) : (fun a : UInt64 => a + 1)^[n] a = a + UInt64.ofNat n := by
  induction n with
  | zero => simp
  | succ n ih =>
    rw [Function.iterate_succ_apply', ih, UInt64.ofNat_add, UInt64.add_assoc]
    rfl

theorem seamless_eq (m : GuestMemory) (addr size : UInt64) : m.Seamless addr size =
    Segments.Seamless KernRegion.lo KernRegion.len KernRegion.hostBase (fun a => a + 1) m.regions addr.toNat size.toNat := by
  have hlen : ∀ r : KernRegion, UInt64.ofNat r.len = r.size := fun r => UInt64.ofNat_toNat
  simp only [Seamless, Segments.Seamless, iterate_next, hlen]

/-- The lookup of an address is its image in the regions. -/
theorem getHostAddress_eq (hm : GuestMemorySpec m) (a : UInt64) : m.getHostAddress a =
    image KernRegion.lo KernRegion.len KernRegion.hostBase (fun a => a + 1) m.regions a.toNat := by
  cases hg : m.getHostAddress a with
  | some host =>
    obtain ⟨r, hr, hcov, rfl⟩ := hm.getHostAddress_iff.1 hg
    rw [image_of_covers hm.apart hr hcov, iterate_next]
  | none =>
    cases hi : image KernRegion.lo KernRegion.len KernRegion.hostBase (fun a => a + 1) m.regions a.toNat with
    | none => rfl
    | some host =>
      obtain ⟨r, hr, hcov, rfl⟩ := image_eq_some hi
      rw [iterate_next] at hi
      have hsome := hm.getHostAddress_iff.2 ⟨r, hr, hcov, rfl⟩
      rw [hg] at hsome
      cases hsome

/-- A translated address is one of guest memory. -/
theorem addressInRange_of_getHostAddress (hm : GuestMemorySpec m) {a host : UInt64}
    (hg : m.getHostAddress a = some host) : m.addressInRange a = true := by
  obtain ⟨r, hr, hcov, -⟩ := hm.getHostAddress_iff.1 hg
  exact hm.addressInRange_iff.2 ⟨r, hr, hcov⟩

/-- **A ring is backed exactly when** its regions fit together. -/
theorem backed_iff (hm : GuestMemorySpec m) (hfits : addr.toNat + size.toNat ≤ 2 ^ 64)
    (haddr : m.getHostAddress addr = some user) : m.Backed addr size user ↔ m.Seamless addr size := by
  have hbyte : ∀ k < size.toNat, (addr + UInt64.ofNat k).toNat = addr.toNat + k := by
    intro k hk
    rw [UInt64.toNat_add, UInt64.toNat_ofNat', Nat.add_mod_mod, Nat.mod_eq_of_lt (by omega)]
  rw [getHostAddress_eq hm] at haddr
  rw [seamless_eq, ← contiguous_iff hm.apart haddr]
  constructor
  · intro hb k hk
    have hhost := (hb k hk).2
    rw [getHostAddress_eq hm, hbyte k hk] at hhost
    rw [hhost, iterate_next]
  · intro hall k hk
    have hhost : m.getHostAddress (addr + UInt64.ofNat k) = some (user + UInt64.ofNat k) := by
      rw [getHostAddress_eq hm, hbyte k hk, hall k hk, iterate_next]
    exact ⟨addressInRange_of_getHostAddress hm hhost, hhost⟩

end GuestMemory

/-- **The rings of an accepted configuration are backed exactly when** no region ends inside one of
them, or only where another begins and goes on with its host mapping. -/
theorem accepted_rings_backed_iff {m : GuestMemory} (hm : GuestMemorySpec m) {c : VringConfigData}
    (hvalid : c.isValid m = true) {queueIndex : UInt64} {a : VhostVringAddr}
    (haddr : c.toVhostVringAddr m queueIndex = .ok a) :
    (∀ p ∈ c.rings.zip a.users, m.Backed p.1.1 p.1.2 p.2) ↔ ∀ p ∈ c.rings, m.Seamless p.1 p.2 := by
  obtain ⟨-, -, -, hends⟩ := (VringConfigData.isValid_iff hm).1 hvalid
  have hfits : ∀ p ∈ c.rings, p.1.toNat + p.2.toNat ≤ 2 ^ 64 := by
    intro p hp
    obtain ⟨r, hr, -, hlt⟩ := hends p hp
    have := hm.fits r hr
    omega
  obtain ⟨hdesc, havail, hused, -⟩ := VringConfigData.toVhostVringAddr_ok.1 haddr
  rw [VringConfigData.forall_rings] at hfits ⊢
  obtain ⟨hfdesc, hfavail, hfused⟩ := hfits
  rw [← GuestMemory.backed_iff hm hfdesc hdesc, ← GuestMemory.backed_iff hm hfavail havail,
    ← GuestMemory.backed_iff hm hfused hused]
  simp only [VringConfigData.rings, VhostVringAddr.users, List.zip_cons_cons, List.zip_nil_right,
    List.forall_mem_cons, List.not_mem_nil, false_imp_iff, implies_true, and_true]

/-! Guest memory and configuration of the repository's `test_vsock_is_valid`. -/

def vsockMemory : GuestMemory := memRef [⟨0, 0x100000, 0x7f0000000000⟩]

theorem vsockMemory_spec : GuestMemorySpec vsockMemory := memRef_spec (by decide) (by decide)

def vsockConfig (descTableAddr : UInt64) : VringConfigData where
  queueMaxSize := 32
  queueSize := 32
  flags := 0
  descTableAddr := descTableAddr
  usedRingAddr := 0x2000
  availRingAddr := 0x3000
  logAddr := none

/-- All of memory is one region. -/
theorem vsock_rings_backed :
    ∃ a, (vsockConfig 0x1000).toVhostVringAddr vsockMemory 0 = .ok a ∧
      ∀ p ∈ (vsockConfig 0x1000).rings.zip a.users, vsockMemory.Backed p.1.1 p.1.2 p.2 := by
  have haddr : (vsockConfig 0x1000).toVhostVringAddr vsockMemory 0 =
      .ok ⟨0, 0, 0x7f0000001000, 0x7f0000002000, 0x7f0000003000, 0⟩ := by decide
  refine ⟨_, haddr, (accepted_rings_backed_iff vsockMemory_spec (by decide) haddr).2 ?_⟩
  intro p hp r hr _ _ hend
  cases List.mem_singleton.1 hr
  have hsmall : ∀ p ∈ (vsockConfig 0x1000).rings, p.1.toNat + p.2.toNat ≤ 0x100000 :=
    VringConfigData.forall_rings.2 ⟨by decide, by decide, by decide⟩
  have hregion : KernRegion.lo ⟨0, 0x100000, 0x7f0000000000⟩ + KernRegion.len ⟨0, 0x100000, 0x7f0000000000⟩ =
      0x100000 := rfl
  have := hsmall p hp
  omega

/-- The descriptor table, `0xf00 .. 0x1100`, runs over a hole in guest memory, or into a region with a
mapping of its own; it is accepted. -/
theorem broken_table_accepted :
    (GuestMemorySpec (memRef [⟨0, 0x1000, 0x7f0000000000⟩, ⟨0x1080, 0x100000, 0x7f0000001080⟩]) ∧
      (vsockConfig 0xf00).isValid (memRef [⟨0, 0x1000, 0x7f0000000000⟩, ⟨0x1080, 0x100000, 0x7f0000001080⟩]) = true ∧
      (vsockConfig 0xf00).toVhostVringAddr
          (memRef [⟨0, 0x1000, 0x7f0000000000⟩, ⟨0x1080, 0x100000, 0x7f0000001080⟩]) 0 =
        .ok ⟨0, 0, 0x7f0000000f00, 0x7f0000002000, 0x7f0000003000, 0⟩ ∧
      ¬ (memRef [⟨0, 0x1000, 0x7f0000000000⟩, ⟨0x1080, 0x100000, 0x7f0000001080⟩]).Backed
        0xf00 (vsockConfig 0xf00).descTableSize 0x7f0000000f00) ∧
    (vsockConfig 0xf00).isValid (memRef [⟨0, 0x1000, 0x7f0000000000⟩, ⟨0x1000, 0x100000, 0x7e0000000000⟩]) = true ∧
    (memRef [⟨0, 0x1000, 0x7f0000000000⟩, ⟨0x1000, 0x100000, 0x7e0000000000⟩]).getHostAddress (0xf00 + 0x100) =
      some 0x7e0000000000 := by
  refine ⟨⟨memRef_spec (by decide) (by decide), by decide, by decide, fun hb => ?_⟩, by decide, by decide⟩
  exact absurd (hb 0x100 (by decide)).1 (by decide)

/-- A ring configuration as the specification allows it: each ring lies in one region. -/
structure VringConfigData.Legal (m : GuestMemory) (c : VringConfigData) : Prop where
  pow : c.queueSize.toNat.isPowerOfTwo
  le : c.queueSize ≤ c.queueMaxSize
  log : (c.flags &&& 0x1) ≠ 0 → c.logAddr.isSome = true
  inside : ∀ p ∈ c.rings, ∃ r ∈ m.regions, r.lo ≤ p.1.toNat ∧ p.1.toNat + p.2.toNat ≤ r.lo + r.len

theorem VringConfigData.isLogAddrValid_iff {c : VringConfigData} :
    c.isLogAddrValid = true ↔ ((c.flags &&& 0x1) ≠ 0 → c.logAddr.isSome = true) := by
  unfold isLogAddrValid
  cases c.logAddr <;> by_cases hflag : (c.flags &&& 0x1) = 0 <;> simp [hflag]

theorem VringConfigData.rings_pos {c : VringConfigData} (hpow : c.queueSize.toNat.isPowerOfTwo) :
    ∀ p ∈ c.rings, 0 < p.2.toNat := by
  have hpos := Nat.pos_of_isPowerOfTwo hpow
  rw [forall_rings]
  simp only [toNat_descTableSize, toNat_availRingSize, toNat_usedRingSize]
  omega

/-- The first byte of each ring of a legal configuration has a host address. -/
theorem VringConfigData.Legal.translated {m : GuestMemory} (hm : GuestMemorySpec m) {c : VringConfigData}
    (hl : c.Legal m) (queueIndex : UInt64) : ∃ a, c.toVhostVringAddr m queueIndex = .ok a := by
  have hfirst : ∀ p ∈ c.rings, ∃ host, m.getHostAddress p.1 = some host := by
    intro p hp
    obtain ⟨r, hr, hlo, hle⟩ := hl.inside p hp
    have hpos := rings_pos hl.pow p hp
    exact ⟨_, hm.getHostAddress_iff.2 ⟨r, hr, ⟨hlo, by omega⟩, rfl⟩⟩
  obtain ⟨⟨desc, hdesc⟩, ⟨avail, havail⟩, ⟨used, hused⟩⟩ := forall_rings.1 hfirst
  exact ⟨⟨queueIndex.toUInt32, c.flags, desc, used, avail, c.getLogAddr⟩,
    toVhostVringAddr_ok.2 ⟨hdesc, havail, hused, rfl, rfl, rfl⟩⟩

/-- **A legal configuration is accepted exactly when** the address after each ring is one of guest
memory too: the ring does not end where its region does, or another region begins there. -/
theorem legal_rings_accepted_iff {m : GuestMemory} (hm : GuestMemorySpec m) {c : VringConfigData}
    (hl : c.Legal m) (queueIndex : UInt64) :
    (c.isValid m = true ∧ ∃ a, c.toVhostVringAddr m queueIndex = .ok a) ↔
      ∀ p ∈ c.rings, ∃ r ∈ m.regions, r.lo ≤ p.1.toNat + p.2.toNat ∧ p.1.toNat + p.2.toNat < r.lo + r.len := by
  rw [VringConfigData.isValid_iff hm]
  constructor
  · rintro ⟨⟨-, -, -, hends⟩, -⟩
    exact hends
  · intro hends
    exact ⟨⟨hl.le, hl.pow, VringConfigData.isLogAddrValid_iff.2 hl.log, hends⟩, hl.translated hm queueIndex⟩

/-- A table in the middle of memory. -/
theorem vsock_config_accepted : (vsockConfig 0x1000).isValid vsockMemory = true := by
  have hl : (vsockConfig 0x1000).Legal vsockMemory :=
    ⟨⟨5, rfl⟩, by decide, by decide, VringConfigData.forall_rings.2 ⟨by decide, by decide, by decide⟩⟩
  exact ((legal_rings_accepted_iff vsockMemory_spec hl 0).2
    (VringConfigData.forall_rings.2 ⟨by decide, by decide, by decide⟩)).1

/-- A table whose last byte is the last one of guest memory is refused. -/
theorem table_at_end_refused :
    (vsockConfig 0xffe00).Legal vsockMemory ∧ (vsockConfig 0xffe00).isValid vsockMemory = false ∧
      (vsockConfig 0xffe00).setVringAddr vsockMemory (fun _ => .ok ()) 0 = .error .invalidQueue :=
  ⟨⟨⟨5, rfl⟩, by decide, by decide, VringConfigData.forall_rings.2 ⟨by decide, by decide, by decide⟩⟩,
    by decide, by decide⟩

end VhostUser
