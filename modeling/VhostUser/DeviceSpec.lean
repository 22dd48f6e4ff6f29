import Mathlib.Data.Nat.SuccPred
import VhostUser.Device
import VhostUser.Lib.Segments
import VhostUser.Session
/-!
# What the frontend asked for is what the device has

`DeviceSpec` says what a vhost-user device is to its frontend, in the frontend's own words: rings that are started
and enabled, and guest memory as a map from guest addresses to the addresses of the process. Its steps are the
methods of `Frontend`; there are no messages, no descriptors in flight, no region lists and no epoll sets. The
device of a session goes through the steps of the methods called, in their order (`Session.session_refines`).

| here | there |
| --- | --- |
| `GuestSpace`    | what `GuestMemoryMmap` is for: where a guest address is mapped |
| `Asked`         | `SET_MEM_TABLE`, `ADD_MEM_REG`, `REM_MEM_REG` as changes of this map |
| `RingMachine.ask` | the requests on rings and features, one method of the frontend each |
| `deviceOf`      | `VhostUserHandler` as the device of a session, with what `mmap` gives it each time |
-/
namespace VhostUser
open Segments Bytes

/-! ## The specification -/

/-- Where the process has the byte at a guest address. -/
abbrev GuestSpace := Nat → Option Nat

namespace GuestSpace

/-- `len` bytes from `lo` on are at `host`. -/
def put (lo len host : Nat) (m : GuestSpace) : GuestSpace := fun x =>
  if lo ≤ x ∧ x < lo + len then some (host + (x - lo)) else m x

def cut (lo len : Nat) (m : GuestSpace) : GuestSpace := fun x => if lo ≤ x ∧ x < lo + len then none else m x

variable (Maps : VhostUserMemoryRegionInfo → Nat → Prop)

/-- A region is mapped where there was nothing. -/
inductive Adds (r : VhostUserMemoryRegionInfo) (m : GuestSpace) : GuestSpace → Prop
  | intro (host : Nat) : Maps r host →
      (∀ x, r.guestPhysAddr.toNat ≤ x → x < r.guestPhysAddr.toNat + r.memorySize.toNat → m x = none) →
      Adds r m (m.put r.guestPhysAddr.toNat r.memorySize.toNat host)

/-- The memory that is made of these regions and nothing else. -/
inductive MadeOf : List VhostUserMemoryRegionInfo → GuestSpace → Prop
  | nil : MadeOf [] fun _ => none
  | cons {r : VhostUserMemoryRegionInfo} {rs : List VhostUserMemoryRegionInfo} {m m' : GuestSpace} : MadeOf rs m →
      Adds Maps r m m' → MadeOf (r :: rs) m'

/-- What a method does to the memory, `ok` being what the device answered. A device that does not take a memory
has it all the same. -/
inductive Asked : FrontendOp → Bool → GuestSpace → GuestSpace → Prop
  | other {op : FrontendOp} {ok : Bool} {m : GuestSpace} : (∀ rs, op ≠ .setMemTable rs) → (∀ r, op ≠ .addMemRegion r) →
      (∀ r, op ≠ .removeMemRegion r) → Asked op ok m m
  | refused (op : FrontendOp) (m : GuestSpace) : Asked op false m m
  | table {rs : List VhostUserMemoryRegionInfo} {m m' : GuestSpace} (ok : Bool) : MadeOf Maps rs m' →
      Asked (.setMemTable rs) ok m m'
  | add {r : VhostUserMemoryRegionInfo} {m m' : GuestSpace} (ok : Bool) : Adds Maps r m m' →
      Asked (.addMemRegion r) ok m m'
  | remove {r : VhostUserMemoryRegionInfo} {m : GuestSpace} (ok : Bool) :
      (∀ x, r.guestPhysAddr.toNat ≤ x → x < r.guestPhysAddr.toNat + r.memorySize.toNat → (m x).isSome = true) →
      Asked (.removeMemRegion r) ok m (m.cut r.guestPhysAddr.toNat r.memorySize.toNat)

end GuestSpace

/-- What a method does to the rings. -/
def RingMachine.ask (m : RingMachine) : FrontendOp → Bool → RingMachine
  | .setVringKick queueIndex _, _ => { m with rings := m.rings.modify queueIndex.toNat .start }
  | .getVringBase queueIndex, _ => { m with rings := m.rings.modify queueIndex.toNat .stop }
  | .setFeatures features, true =>
    if features &&& VhostUserVirtioFeatures.PROTOCOL_FEATURES = 0 then
      ⟨features, m.rings.map (.setEnabled true)⟩
    else { m with acked := features }
  | .setVringEnable queueIndex enable, _ =>
    if m.acked &&& VhostUserVirtioFeatures.PROTOCOL_FEATURES ≠ 0 then
      { m with rings := m.rings.modify queueIndex.toNat (.setEnabled enable) }
    else m
  | .resetDevice, _ => ⟨0, m.rings.map (.setEnabled false)⟩
  | .resetOwner, _ => { m with acked := 0 }
  | _, _ => m

/-- What the frontend has a device for. -/
structure DeviceSpec where
  rings : RingMachine
  memory : GuestSpace

namespace DeviceSpec

def init (numQueues : Nat) : DeviceSpec := ⟨.init numQueues, fun _ => none⟩

/-- One method after the other, each with the answer of the device. -/
inductive Runs (Maps : VhostUserMemoryRegionInfo → Nat → Prop) :
    DeviceSpec → List FrontendOp → List Bool → DeviceSpec → Prop
  | nil (σ : DeviceSpec) : Runs Maps σ [] [] σ
  | cons {σ σ' : DeviceSpec} {ops : List FrontendOp} {oks : List Bool} {m : GuestSpace} (op : FrontendOp) (ok : Bool) :
      GuestSpace.Asked Maps op ok σ.memory m → Runs Maps ⟨σ.rings.ask op ok, m⟩ ops oks σ' →
      Runs Maps σ (op :: ops) (ok :: oks) σ'

end DeviceSpec

/-! ## The handler as such a device -/

namespace VhostUserHandler
variable {B M : Type} {d : Deps B M} {h : VhostUserHandler B M}

/-- Where these regions have an address. -/
def spaceOf (gs : List GuestRegionMmap) : GuestSpace :=
  image (fun g => g.guestBase.toNat) (fun g => g.size.toNat) GuestRegionMmap.hostAddr Nat.succ gs

def space (vm : VmMemory M) (mem : M) : GuestSpace := spaceOf (vm.regions mem)

section Space
variable {g : GuestRegionMmap} {gs gs' : List GuestRegionMmap}

theorem apart_of_before (hs : gs.Pairwise Before) :
    gs.Pairwise (Apart (fun g => g.guestBase.toNat) fun g => g.size.toNat) :=
  apart_of_sorted hs

theorem spaceOf_cons : spaceOf (g :: gs) = (spaceOf gs).put g.guestBase.toNat g.size.toNat g.hostAddr := by
  funext x
  rw [spaceOf, image_cons, Nat.succ_iterate]
  rfl

theorem spaceOf_perm (hs : gs'.Pairwise Before) (hp : gs'.Perm gs) : spaceOf gs' = spaceOf gs :=
  funext fun _ => image_perm (apart_of_before hs) hp

/-- Where a region is, the others are not. -/
theorem spaceOf_free (hs : (g :: gs).Pairwise (Apart (fun g => g.guestBase.toNat) fun g => g.size.toNat)) {x : Nat}
    (hlo : g.guestBase.toNat ≤ x) (hhi : x < g.guestBase.toNat + g.size.toNat) : spaceOf gs x = none :=
  image_eq_none.2 fun g' hg' => ((List.pairwise_cons.1 hs).1 g' hg').not_covers ⟨hlo, hhi⟩

theorem spaceOf_remove {pre post : List GuestRegionMmap} (hs : (pre ++ g :: post).Pairwise Before) :
    spaceOf (pre ++ post) = (spaceOf (pre ++ g :: post)).cut g.guestBase.toNat g.size.toNat :=
  funext fun _ => image_remove (apart_of_before hs)

theorem spaceOf_mem (hs : gs.Pairwise Before) (hg : g ∈ gs) {x : Nat} (hlo : g.guestBase.toNat ≤ x)
    (hhi : x < g.guestBase.toNat + g.size.toNat) : (spaceOf gs x).isSome = true := by
  rw [spaceOf, image_of_covers (apart_of_before hs) hg ⟨hlo, hhi⟩]
  rfl

end Space

/-! ### Requests on the memory -/

theorem newRegion_host {r : VhostUserMemoryRegion} {file : File} {cell : Nat} {g : GuestRegionMmap}
    (hn : newRegion d r file cell = .ok g) :
    g.guestBase = r.guestPhysAddr ∧ g.size = r.memorySize ∧
      d.mmap file r.mmapOffset.toNat r.memorySize.toNat = .ok g.hostAddr := by
  simp only [newRegion, mmapRegion] at hn
  split at hn
  · cases hn
  · rename_i hostAddr hmap
    split at hmap
    · cases hmap
    · split at hmap
      · cases hmap
      · rename_i addr haddr
        cases hmap
        split at hn
        · cases hn
          exact ⟨rfl, rfl, haddr⟩
        · cases hn

section Asked
variable {Maps : VhostUserMemoryRegionInfo → Nat → Prop}

/-- What `mmap` gives for the descriptor of a region is where the region is. -/
def Gives (mmap : Mmap) (Maps : VhostUserMemoryRegionInfo → Nat → Prop) : Prop :=
  ∀ (info : VhostUserMemoryRegionInfo) (file : File) (host : Nat), (file : RawFd) = info.mmapHandle →
    mmap file info.mmapOffset.toNat info.memorySize.toNat = .ok host → Maps info host

/-- A new region, apart from the others. -/
theorem adds_newRegion (hgives : Gives d.mmap Maps) {info : VhostUserMemoryRegionInfo} {r : VhostUserMemoryRegion}
    {file : File} {cell : Nat} {g : GuestRegionMmap} {gs : List GuestRegionMmap} (hr : r = info.toRegion)
    (hfile : (file : RawFd) = info.mmapHandle) (hn : newRegion d r file cell = .ok g)
    (hs : (g :: gs).Pairwise (Apart (fun g => g.guestBase.toNat) fun g => g.size.toNat)) :
    GuestSpace.Adds Maps info (spaceOf gs) (spaceOf (g :: gs)) := by
  subst hr
  obtain ⟨hbase, hsize, haddr⟩ := newRegion_host hn
  have hfree {x : Nat} := @spaceOf_free g gs hs x
  rw [spaceOf_cons]
  rw [hbase, hsize] at hfree ⊢
  exact .intro _ (hgives info file _ hfile haddr) fun x hlo hhi => hfree hlo hhi

/-- The regions of a table are mapped one by one. -/
theorem madeOf_mapRegions (hgives : Gives d.mmap Maps) {infos : List VhostUserMemoryRegionInfo} {files : List File}
    {cell : Nat} {gs : List GuestRegionMmap} {ms : List AddrMapping}
    (hfiles : files.map (fun f : File => (f : RawFd)) = infos.map VhostUserMemoryRegionInfo.mmapHandle)
    (hm : mapRegions d ((infos.map VhostUserMemoryRegionInfo.toRegion).zip files) cell = .ok (gs, ms))
    (hs : gs.Pairwise (Apart (fun g => g.guestBase.toNat) fun g => g.size.toNat)) :
    GuestSpace.MadeOf Maps infos (spaceOf gs) := by
  induction infos generalizing files cell gs ms with
  | nil =>
    cases hm
    exact .nil
  | cons info infos ih =>
    obtain _ | ⟨file, files⟩ := files
    · cases hfiles
    · obtain ⟨hfile, hfiles⟩ := List.cons.inj hfiles
      simp only [List.map_cons, List.zip_cons_cons, mapRegions] at hm
      split at hm
      · cases hm
      · rename_i g hg
        split at hm
        · cases hm
        · rename_i gs' ms' hrest
          cases hm
          exact .cons (ih hfiles hrest (List.pairwise_cons.1 hs).2) (adds_newRegion hgives rfl hfile hg hs)

/-- The method asks for this change of the memory. -/
def AsksMemory : FrontendOp → MemRequest → Prop
  | .setMemTable regions, .setMemTable ctx files =>
    ctx = regions.map VhostUserMemoryRegionInfo.toRegion ∧
      files.map (fun f : File => (f : RawFd)) = regions.map VhostUserMemoryRegionInfo.mmapHandle
  | .addMemRegion region, .addMemRegion region' file =>
    region'.region = region.toRegion ∧ (file : RawFd) = region.mmapHandle
  | .removeMemRegion region, .removeMemRegion region' => region'.region = region.toRegion
  | _, _ => False

/-- **What a request hands over is what was asked for.** -/
theorem asked_planned (hgives : Gives d.mmap Maps) (hd : Disjoint d.vm h.atomicMem) {op : FrontendOp} {r : MemRequest}
    {q : MemPlan M} (hop : AsksMemory op r) (hq : Planned d h r q) (ok : Bool) :
    GuestSpace.Asked Maps op ok (space d.vm h.atomicMem) (space d.vm q.mem) := by
  have hnew := hq.disjoint hd
  cases hq with
  | table hmap hne hsorted =>
    cases op with
    | setMemTable regions =>
      obtain ⟨rfl, hfiles⟩ := hop
      exact .table ok (madeOf_mapRegions hgives hfiles hmap (apart_of_before hsorted))
    | _ => exact hop.elim
  | insert hg hperm hsorted =>
    cases op with
    | addMemRegion region =>
      obtain ⟨hr, hfile⟩ := hop
      have hs := (pairwise_apart_perm hperm).1 (apart_of_before hsorted)
      rw [space, space, spaceOf_perm hsorted hperm]
      exact .add ok (adds_newRegion hgives hr hfile hg hs)
    | _ => exact hop.elim
  | @remove region' g pre post mem hkey hold hmem =>
    cases op with
    | removeMemRegion region =>
      obtain ⟨hbase, hsize⟩ := Prod.mk.inj hkey
      have hsorted := hd.sorted
      have hin : g ∈ d.vm.regions h.atomicMem := by simp [hold]
      have hmapped {x : Nat} := @spaceOf_mem g _ hsorted hin x
      rw [hold] at hsorted
      rw [space, space, hmem, hold, spaceOf_remove hsorted]
      rw [hbase, hsize] at hmapped ⊢
      simp only [addrMapping, show region'.region = region.toRegion from hop, VhostUserMemoryRegionInfo.toRegion,
        hold] at hmapped ⊢
      exact .remove ok fun x hlo hhi => hmapped hlo hhi
    | _ => exact hop.elim

theorem invoke_toCall (d : Deps B M) (h : VhostUserHandler B M) (mmap : Mmap) (r : MemRequest) :
    r.toCall.accepted (h.invoke { d with mmap := mmap } r.toCall).1 = (memRun d h (mmap, r)).1.isOk ∧
      (h.invoke { d with mmap := mmap } r.toCall).2 = memStep d h (mmap, r) := by
  cases r with
  | setMemTable ctx files => exact ⟨rfl, rfl⟩
  | addMemRegion region file => exact ⟨rfl, rfl⟩
  | removeMemRegion region => exact ⟨rfl, rfl⟩

/-- Whether or not it comes with a region. -/
theorem setLogBase_delivers {base : UInt64} {region : Option VhostUserDirtyLogRegion} {c : Call}
    (hop : (FrontendOp.setLogBase base region).Delivers c) : ∃ log file, c = .setLogBase log file := by
  cases region with
  | none => exact hop.elim
  | some region =>
    cases c with
    | setLogBase log file => exact ⟨log, file, rfl⟩
    | _ => exact hop.elim

theorem asksMemory_of_delivers {op : FrontendOp} {c : Call} (hop : op.Delivers c) (hc : isMemRequest c = true) :
    ∃ r : MemRequest, c = r.toCall ∧ AsksMemory op r := by
  cases op with
  | setMemTable regions =>
    cases c with
    | setMemTable ctx files => exact ⟨.setMemTable ctx files, rfl, hop⟩
    | _ => exact hop.elim
  | addMemRegion region =>
    cases c with
    | addMemRegion region' file => exact ⟨.addMemRegion region' file, rfl, hop⟩
    | _ => exact hop.elim
  | removeMemRegion region =>
    cases c with
    | removeMemRegion region' => exact ⟨.removeMemRegion region', rfl, hop⟩
    | _ => exact hop.elim
  | setLogBase base region =>
    obtain ⟨log, file, rfl⟩ := setLogBase_delivers hop
    cases hc
  | _ =>
    cases c with
    | setMemTable _ _ | addMemRegion _ _ | removeMemRegion _ => exact hop.elim
    | _ => cases hc

/-- **One call** does to the memory what its method asked for, or nothing and says so. -/
theorem asked_invoke (hvm : VmMemorySpec d.vm) (hd : Disjoint d.vm h.atomicMem) {mmap : Mmap} (hgives : Gives mmap Maps)
    {op : FrontendOp} {c : Call} (hop : op.Delivers c) :
    GuestSpace.Asked Maps op (c.accepted (h.invoke { d with mmap := mmap } c).1) (space d.vm h.atomicMem)
      (space d.vm (h.invoke { d with mmap := mmap } c).2.atomicMem) := by
  cases hc : isMemRequest c with
  | false =>
    have hmem : (h.invoke { d with mmap := mmap } c).2.atomicMem = h.atomicMem :=
      congrArg Prod.fst (memPart_invoke (d := { d with mmap := mmap }) hc)
    rw [hmem]
    refine .other (fun rs hrs => ?_) (fun r hr => ?_) fun r hr => ?_
    · subst hrs
      cases c with
      | setMemTable ctx files => cases hc
      | _ => exact hop.elim
    · subst hr
      cases c with
      | addMemRegion region file => cases hc
      | _ => exact hop.elim
    · subst hr
      cases c with
      | removeMemRegion region => cases hc
      | _ => exact hop.elim
  | true =>
    obtain ⟨r, rfl, hasks⟩ := asksMemory_of_delivers hop hc
    obtain ⟨hok, hstep⟩ := invoke_toCall d h mmap r
    rw [hok, hstep, memStep]
    obtain ⟨e, -, hrun⟩ | ⟨q, -, hpl, ⟨e, b, -, hrun⟩ | ⟨b, -, hrun⟩⟩ := memRun_cases hvm h (mmap, r)
    · rw [hrun]
      exact .refused op _
    · rw [hrun]
      exact asked_planned (d := { d with mmap := mmap }) hgives hd hasks hpl false
    · rw [hrun]
      exact asked_planned (d := { d with mmap := mmap }) hgives hd hasks hpl true

end Asked

/-! ### Requests on the rings -/

/-- A vring fd request has room for eight bits of the index. -/
def SmallKick (op : FrontendOp) : Prop :=
  ∀ queueIndex fd, op = .setVringKick queueIndex fd → queueIndex.toNat < 256

/-- **One call** does to the rings what its method asked for. -/
theorem ask_of_delivers {op : FrontendOp} {c : Call} (hop : op.Delivers c)
    (hsmall : SmallKick op) (m : RingMachine) (ok : Bool) :
    m.step (c, ok) = m.ask op ok := by
  cases op with
  | setVringKick queueIndex fd =>
    cases c with
    | setVringKick index file =>
      obtain ⟨rfl, rfl⟩ := hop
      have hindex : queueIndex.toUInt8.toNat = queueIndex.toNat := by
        rw [UInt64.toNat_toUInt8]
        exact Nat.mod_eq_of_lt (hsmall queueIndex fd rfl)
      show { m with rings := m.rings.modify queueIndex.toUInt8.toNat .start } = _
      rw [hindex]
      rfl
    | _ => exact hop.elim
  | getVringBase queueIndex =>
    cases c with
    | getVringBase index =>
      have hindex : index.toNat = queueIndex.toNat := hop
      show { m with rings := m.rings.modify index.toNat .stop } = _
      rw [hindex]
      rfl
    | _ => exact hop.elim
  | setVringEnable queueIndex enable =>
    cases c with
    | setVringEnable index enable' =>
      obtain ⟨hindex, rfl⟩ := hop
      show (if m.acked &&& VhostUserVirtioFeatures.PROTOCOL_FEATURES ≠ 0 then
        { m with rings := m.rings.modify index.toNat (.setEnabled enable') } else m) = _
      rw [hindex]
      rfl
    | _ => exact hop.elim
  | setFeatures features =>
    cases c with
    | setFeatures features' =>
      obtain rfl : features' = features := hop
      cases ok with
      | false => rfl
      | true => rfl
    | _ => exact hop.elim
  | setLogBase base region =>
    obtain ⟨log, file, rfl⟩ := setLogBase_delivers hop
    rfl
  | _ =>
    cases c with
    | _ => first | rfl | exact hop.elim

/-! ### Runs -/

/-- The handler has what the specification has. -/
structure Stands (d : Deps B M) (h : VhostUserHandler B M) (σ : DeviceSpec) : Prop where
  safe : h.Safe d
  rings : Follows h σ.rings
  memory : space d.vm h.atomicMem = σ.memory

/-- `VhostUserHandler` as the device of a session: each call of a method finds its own `mmap`. -/
def deviceOf (d : Deps B M) (mmaps : Nat → Mmap) (c : Call) (s : VhostUserHandler B M × Nat) :
    c.Res × (VhostUserHandler B M × Nat) :=
  let r := s.1.invoke { d with mmap := mmaps s.2 } c
  (r.1, (r.2, s.2 + 1))

/-- Which of the calls the device accepts. -/
def oks (d : Deps B M) (mmaps : Nat → Mmap) (s : VhostUserHandler B M × Nat) : List Call → List Bool
  | [] => []
  | c :: cs => c.accepted (deviceOf d mmaps c s).1 :: oks d mmaps (deviceOf d mmaps c s).2 cs

/-- Where the process has mapped what a region is in, at one time or another. -/
def Mapped (mmaps : Nat → Mmap) (info : VhostUserMemoryRegionInfo) (host : Nat) : Prop :=
  ∃ (k : Nat) (file : File), (file : RawFd) = info.mmapHandle ∧
    mmaps k file info.mmapOffset.toNat info.memorySize.toNat = .ok host

section Runs
variable (mmaps : Nat → Mmap) {s : VhostUserHandler B M × Nat} {σ : DeviceSpec}

/-- **One call** of the device is one step of the specification. -/
theorem Stands.call (hvm : VmMemorySpec d.vm) (hs : Stands d s.1 σ) {op : FrontendOp} {c : Call} (hop : op.Delivers c)
    (hsmall : SmallKick op) : ∃ m, GuestSpace.Asked (Mapped mmaps) op (c.accepted (deviceOf d mmaps c s).1) σ.memory m ∧
      Stands d (deviceOf d mmaps c s).2.1 ⟨σ.rings.ask op (c.accepted (deviceOf d mmaps c s).1), m⟩ := by
  have hgives : Gives (mmaps s.2) (Mapped mmaps) := fun info file host hfile hhost => ⟨s.2, file, hfile, hhost⟩
  have hmem := asked_invoke hvm hs.safe.memory hgives hop
  rw [hs.memory] at hmem
  refine ⟨_, hmem, hs.safe.ringEvent hvm (.request (mmaps s.2) c), ?_, rfl⟩
  have hrings := hs.rings.invoke { d with mmap := mmaps s.2 } c
  rw [ask_of_delivers hop hsmall] at hrings
  exact hrings

/-- **A run** of calls is a run of the specification. -/
theorem Stands.run (hvm : VmMemorySpec d.vm) {ops : List FrontendOp} {cs : List Call}
    (hops : List.Forall₂ (fun op c => op.Delivers c) ops cs) (hsmall : ∀ op ∈ ops, SmallKick op) (hs : Stands d s.1 σ) :
    ∃ σ', DeviceSpec.Runs (Mapped mmaps) σ ops (oks d mmaps s cs) σ' ∧
      Stands d (cs.foldl (fun s c => (deviceOf d mmaps c s).2) s).1 σ' := by
  induction hops generalizing s σ with
  | nil => exact ⟨σ, .nil σ, hs⟩
  | @cons op c ops cs hop _ ih =>
    obtain ⟨hfirst, hrest⟩ := List.forall_mem_cons.1 hsmall
    obtain ⟨m, hasked, hnext⟩ := hs.call mmaps hvm hop hfirst
    obtain ⟨σ', hrun, hend⟩ := ih hrest hnext
    exact ⟨σ', .cons op _ hasked hrun, hend⟩

theorem stands_new {b : B} {mem : M} {heap : LogHeap} {n : Nat} (hnew : new d b mem heap n = some h)
    (hempty : d.vm.regions mem = []) : Stands d h (.init (d.backend.numQueues b)) := by
  refine ⟨safe_new hnew hempty, follows_new hnew, ?_⟩
  obtain ⟨vrings, -, rfl⟩ := new_eq hnew
  show spaceOf (d.vm.regions mem) = _
  rw [hempty]
  rfl

end Runs
end VhostUserHandler

/-! ## The session -/

namespace Session
open VhostUserHandler
variable {B M : Type}

/-- Of the requests that were sent the first ones are carried out, and the device is where the specification is
after their methods; the others are on their way, unless the thread has given up. -/
def Refines (d : Deps B M) (mmaps : Nat → Mmap) (h : VhostUserHandler B M) (numQueues : Nat)
    (s : Session (VhostUserHandler B M × Nat)) : Prop :=
  ∃ done rest σ, s.issued = done ++ rest ∧ (s.gaveUp = false → s.toBackend = rest.flatMap Pending.cells) ∧
    DeviceSpec.Runs (Mapped mmaps) (.init numQueues) (done.map Pending.op) (oks d mmaps (h, 0) s.peer.calls) σ ∧
    σ.rings = ⟨s.peer.backend.1.ackedFeatures, s.peer.backend.1.vrings.map ringOf⟩ ∧
    σ.memory = space d.vm s.peer.backend.1.atomicMem

/-- **The device is what the frontend asked for**, in every state that the two parties can come to: the rings it
has started and enabled, and the guest memory at every address, are those that the methods called so far make of a
new device. -/
theorem session_refines (d : Deps B M) (hvm : VmMemorySpec d.vm) (mmaps : Nat → Mmap) (p : Platform)
    (maxQueueNum : UInt64) (hmax : maxQueueNum ≤ 0x8000) {b : B} {mem : M} {heap : LogHeap} {n : Nat}
    {h : VhostUserHandler B M} (hnew : VhostUserHandler.new d b mem heap n = some h) (hempty : d.vm.regions mem = [])
    (s : Session (VhostUserHandler B M × Nat)) (hs : Reachable (deviceOf d mmaps) p maxQueueNum (h, 0) s)
    (hsmall : ∀ q ∈ s.issued, SmallKick q.op) : Refines d mmaps h (d.backend.numQueues b) s := by
  have hinv := hs.inv hmax
  obtain ⟨done, rest, hissued, hcalls, hback⟩ := hinv.ledger
  have hops : List.Forall₂ (fun (op : FrontendOp) c => op.Delivers c) (done.map Pending.op) s.peer.calls :=
    List.forall₂_map_left_iff.2 hcalls
  have hkicks : ∀ op ∈ done.map Pending.op, SmallKick op := by
    intro op hop
    obtain ⟨q, hq, rfl⟩ := List.mem_map.1 hop
    exact hsmall q (by rw [hissued]; exact List.mem_append_left _ hq)
  obtain ⟨σ, hrun, hend⟩ := Stands.run (s := (h, 0)) mmaps hvm hops hkicks (stands_new hnew hempty)
  rw [← hinv.device] at hend
  exact ⟨done, rest, σ, hissued, hback, hrun, by rw [hend.rings.acked, hend.rings.rings], hend.memory.symm⟩

/-- `SET_MEM_TABLE` with one region. -/
def tableOp : FrontendOp := .setMemTable [⟨0x1000, 0x1000, 0x7000, 0, 5⟩]

def tablePending : Pending :=
  ⟨tableOp, Frontend.new 1, ⟨.setMemTable, ByteValued.asSlice (⟨1, 0⟩ : VhostUserMemory) ++
    ByteValued.asSlice (⟨0x1000, 0x1000, 0x7000, 0⟩ : VhostUserMemoryRegion), [5]⟩⟩

/-- It has been sent. -/
def tableAsked : Session (VhostUserHandler Unit (List GuestRegionMmap) × Nat) :=
  { new 1 (plainHandler, 0) with
    calling := some (tablePending.op, tablePending.hdr)
    toBackend := tablePending.cells
    issued := [tablePending] }

/-- The request is sent and served. -/
theorem session_refines_table : ∃ s : Session (VhostUserHandler Unit (List GuestRegionMmap) × Nat),
    s.peer.backend.1.atomicMem.map (·.hostAddr) = [0x7f00] ∧
      Refines (plainDeps true) (fun _ _ _ _ => .ok 0x7f00) plainHandler 1 s := by
  have hsent : Step (deviceOf (plainDeps true) fun _ _ _ _ => .ok 0x7f00) ⟨false, fun _ _ => .ok 1⟩
      (new 1 (plainHandler, 0)) tableAsked :=
    .sent tablePending.op tablePending.msg tablePending.hdr
      ⟨Frontend.new 1, ⟨tablePending.cells, ⟨[], []⟩, false⟩⟩ rfl rfl rfl
  have hserve : Serves (deviceOf (plainDeps true) fun _ _ _ _ => .ok 0x7f00) ⟨false, fun _ _ => .ok 1⟩ tableAsked _ :=
    ⟨[.bytes 12, .bytes 40], .EINTR, .ok (), _, ⟨[], [], .EINTR⟩, rfl, rfl, rfl⟩
  have hs := Relation.ReflTransGen.refl.tail hsent |>.tail (.served _ hserve)
  exact ⟨_, rfl, session_refines (plainDeps true) vmRef_spec _ _ 1 (by decide) (new_plainHandler true) rfl _ hs
    fun q hq => by
      obtain rfl := List.mem_singleton.1 hq
      intro queueIndex fd hop
      cases hop⟩

end Session

end VhostUser
