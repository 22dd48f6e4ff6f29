import VhostUser.BackendReqHandler
import VhostUser.Bitmap
import VhostUser.Vring
/-!
# `VhostUserHandler` (`vhost-user-backend/src/handler.rs`)

| here | there |
| --- | --- |
| `VhostUserBackend`  | the device's trait (`backend.rs:42-188`), as functions on the device's state `B` |
| `VmMemory`          | **foreign code**: the operations of `vm_memory::GuestMemoryMmap` the handler calls |
| `Deps`              | what a handler is built on: device, vm-memory, `mmap`, and the kind of `T::Bitmap` |
| `VhostUserHandler`  | `handler.rs:93-110`; `heap` and `nextCell` are the cells of the region bitmaps |
| `new`               | `VhostUserHandler::new` (`:119-170`), the worker threads apart |
| `vmmVaToGpa`        | `vmm_va_to_gpa` (`:181-189`); outer `none` is the panic of a build with overflow checks |
| `updateVringRegistration` … | the private helpers (`:200-247`) |
| `setOwner` … `setLogBase` | the `VhostUserBackendReqHandlerMut` methods (`:260-799`), in source order |
| `invoke`            | the methods as the calls of a `BackendReqHandler` |

Built without the `postcopy` and `xen` features. Shifts of a `u64` by its width or more wrap, as in
a release build. A method returns its result and the handler after it.
-/
namespace VhostUser

/-! ## What the handler is built on -/

/-- A mapped region of guest memory with its bitmap. -/
structure GuestRegionMmap where
  guestBase : UInt64
  size : UInt64
  hostAddr : Nat
  bitmap : BitmapMmapRegion
deriving DecidableEq, Repr

/-- `Option` stands for `Result`: the handler wraps every error as `io::Error::other`. -/
structure VmMemory (M : Type) where
  regions : M → List GuestRegionMmap
  fromRegions : List GuestRegionMmap → Option M
  insertRegion : M → GuestRegionMmap → Option M
  removeRegion : M → UInt64 → UInt64 → Option (M × GuestRegionMmap)
  /-- `Queue::used_idx`: the used index field in guest memory. -/
  usedIdx : M → UInt64 → Option UInt16

/-- A `Backend` for requests to the frontend: its socket and the three feature flags. -/
structure BackendReqChannel where
  sock : File
  replyAck : Bool
  sharedObject : Bool
  shmem : Bool
deriving DecidableEq, Repr

structure VhostUserBackend (B M : Type) where
  numQueues : B → Nat
  maxQueueSize : B → Nat
  features : B → UInt64
  ackedFeatures : UInt64 → B → B
  protocolFeatures : B → UInt64
  resetDevice : B → B
  setEventIdx : Bool → B → B
  getConfig : UInt32 → UInt32 → B → List UInt8
  setConfig : UInt32 → List UInt8 → B → Except IoError Unit × B
  updateMemory : M → B → Except IoError Unit × B
  setBackendReqFd : BackendReqChannel → B → B
  getSharedObject : VhostUserSharedMsg → B → Except IoError File × B
  setGpuSocket : File → B → Except IoError Unit × B
  queuesPerThread : B → List UInt64
  exitEvent : Nat → B → Option File
  setDeviceStateFd : VhostTransferStateDirection → VhostTransferStatePhase → File → B →
    Except IoError (Option File) × B
  checkDeviceState : B → Except IoError Unit × B
  getShmemConfig : B → Except IoError VhostUserShMemConfig × B

/-- `T::Bitmap`: the unit bitmap, or the replaceable one. -/
inductive BitmapKind where
  | unit | mmapRegion
deriving DecidableEq, Repr

structure Deps (B M : Type) where
  backend : VhostUserBackend B M
  vm : VmMemory M
  /-- descriptor, offset, length ↦ address -/
  mmap : File → Nat → Nat → Except IoError Nat
  bitmap : BitmapKind

/-- `InnerBitmap::new`. -/
def BitmapKind.newInner (k : BitmapKind) (startAddr len : UInt64) (logmem : MmapLogReg) :
    Except IoError AtomicBitmapMmap :=
  match k with
  | unit => .error (.ofKind .unsupported)
  | mmapRegion => AtomicBitmapMmap.new startAddr len logmem

structure AddrMapping where
  vmmAddr : UInt64
  size : UInt64
  gpaBase : UInt64
deriving DecidableEq, Repr

structure VhostUserHandler (B M : Type) where
  backend : B
  handlers : List VringEpollHandler
  owned : Bool
  featuresAcked : Bool
  ackedFeatures : UInt64
  ackedProtocolFeatures : UInt64
  numQueues : Nat
  maxQueueSize : Nat
  queuesPerThread : List UInt64
  mappings : List AddrMapping
  atomicMem : M
  vrings : List VringState
  heap : LogHeap
  nextCell : Nat

/-- `io::Error::other(e)` as the handler reports it. -/
def otherError : Error := .reqHandlerError (.ofKind .other)

namespace VhostUserHandler
variable {B M : Type}

def MAX_MEM_SLOTS : UInt64 := 509

/-- The rings of a worker: those whose bit is set in its mask. -/
def threadVrings (queuesMask : UInt64) (numQueues : Nat) : List Nat :=
  (List.range numQueues).filter fun index => (queuesMask >>> UInt64.ofNat index) &&& 1 == 1

def newHandlers (d : Deps B M) (backend : B) (numQueues : Nat) (masks : List UInt64) :
    List VringEpollHandler :=
  masks.zipIdx.map fun (mask, threadId) =>
    .new numQueues (d.backend.exitEvent threadId backend) (threadVrings mask numQueues) threadId

/-- `None` for `VhostUserHandlerError::CreateVring`. -/
def new (d : Deps B M) (backend : B) (atomicMem : M) (heap : LogHeap) (nextCell : Nat) :
    Option (VhostUserHandler B M) :=
  let numQueues := d.backend.numQueues backend
  let maxQueueSize := d.backend.maxQueueSize backend
  let queuesPerThread := d.backend.queuesPerThread backend
  match (List.replicate numQueues ()).mapM fun _ => VringState.new (UInt16.ofNat maxQueueSize) with
  | none => none
  | some vrings => some {
      backend, handlers := newHandlers d backend numQueues queuesPerThread, owned := false
      featuresAcked := false, ackedFeatures := 0, ackedProtocolFeatures := 0, numQueues
      maxQueueSize, queuesPerThread, mappings := [], atomicMem, vrings, heap, nextCell }

/-- A handler as `new` makes it. -/
theorem new_eq {d : Deps B M} {b : B} {mem : M} {heap : LogHeap} {n : Nat} {h : VhostUserHandler B M}
    (hnew : new d b mem heap n = some h) :
    ∃ vrings, (List.replicate (d.backend.numQueues b) ()).mapM
        (fun _ => VringState.new (UInt16.ofNat (d.backend.maxQueueSize b))) = some vrings ∧
      h = { backend := b, handlers := newHandlers d b (d.backend.numQueues b) (d.backend.queuesPerThread b)
            owned := false, featuresAcked := false, ackedFeatures := 0, ackedProtocolFeatures := 0
            numQueues := d.backend.numQueues b, maxQueueSize := d.backend.maxQueueSize b
            queuesPerThread := d.backend.queuesPerThread b, mappings := [], atomicMem := mem, vrings
            heap, nextCell := n } := by
  simp only [new] at hnew
  split at hnew
  · cases hnew
  · rename_i vrings hvrings
    exact ⟨vrings, hvrings, (Option.some.inj hnew).symm⟩

/-- All rings are made alike. -/
theorem new_of_ring {d : Deps B M} {b : B} {v : VringState}
    (hring : VringState.new (UInt16.ofNat (d.backend.maxQueueSize b)) = some v) (mem : M) (heap : LogHeap) (n : Nat) :
    new d b mem heap n = some {
      backend := b, handlers := newHandlers d b (d.backend.numQueues b) (d.backend.queuesPerThread b)
      owned := false, featuresAcked := false, ackedFeatures := 0, ackedProtocolFeatures := 0
      numQueues := d.backend.numQueues b, maxQueueSize := d.backend.maxQueueSize b
      queuesPerThread := d.backend.queuesPerThread b, mappings := [], atomicMem := mem
      vrings := List.replicate (d.backend.numQueues b) v, heap, nextCell := n } := by
  have hrings : (List.replicate (d.backend.numQueues b) ()).mapM
      (fun _ => VringState.new (UInt16.ofNat (d.backend.maxQueueSize b))) =
      some (List.replicate (d.backend.numQueues b) v) := by
    rw [hring]
    exact List.mapM_pure.trans (congrArg some (List.map_replicate ..))
  simp only [new, hrings]

/-- One step of the loop: does this mapping cover `vmmVa`? The sum may overflow. -/
def vmmVaToGpaIn (vmmVa : UInt64) : List AddrMapping → Option (Option UInt64)
  | [] => some none
  | m :: ms =>
    if vmmVa ≥ m.vmmAddr then
      match checkedAdd m.vmmAddr m.size with
      | none => none
      | some stop =>
        if vmmVa < stop then (checkedAdd (vmmVa - m.vmmAddr) m.gpaBase).map some
        else vmmVaToGpaIn vmmVa ms
    else vmmVaToGpaIn vmmVa ms

/-- Outer `none`: an addition overflowed. Inner `none`: `MissingMemoryMapping`. -/
def vmmVaToGpa (h : VhostUserHandler B M) (vmmVa : UInt64) : Option (Option UInt64) :=
  vmmVaToGpaIn vmmVa h.mappings

/-- The same without overflow checks: the sums wrap around. -/
def vmmVaToGpaWrapping (h : VhostUserHandler B M) (vmmVa : UInt64) : Option UInt64 :=
  (h.mappings.find? fun m => vmmVa ≥ m.vmmAddr && vmmVa < m.vmmAddr + m.size).map fun m =>
    vmmVa - m.vmmAddr + m.gpaBase

/-- A locked write to vring number `i`. -/
def modVring (h : VhostUserHandler B M) (i : Nat) (f : VringState → VringState) : VhostUserHandler B M :=
  { h with vrings := h.vrings.modify i f }

def vringNeedsInit (v : VringState) : Bool := !v.queue.ready && v.kick.isSome

/-- First worker whose mask has the bit, and the event id of the ring there: the number of mask
bits below it. -/
def findWorker (index : UInt8) : Nat → List UInt64 → Option (Nat × UInt64)
  | _, [] => none
  | threadIndex, queuesMask :: masks =>
    let shifted := queuesMask >>> index.toUInt64
    if shifted &&& 1 == 1 then
      some (threadIndex, UInt64.ofNat (countOnes queuesMask - countOnes shifted))
    else findWorker index (threadIndex + 1) masks

/-- One locked access of vring `i`; `index` is its number as a `u8`. -/
def updateVringRegistration (h : VhostUserHandler B M) (i : Nat) (index : UInt8) :
    Except Error Unit × VhostUserHandler B M :=
  match h.vrings[i]? with
  | none => (.ok (), h)
  | some v =>
    match v.kick with
    | none => (.ok (), h)
    | some fd =>
      match findWorker index 0 h.queuesPerThread with
      | none => (.ok (), h)
      | some (threadIndex, evtIdx) =>
        match h.handlers[threadIndex]? with
        | none => (.ok (), h)
        | some w =>
          if v.queue.ready && v.enabled then
            match w.registerEvent fd evtIdx with
            | .ok w => (.ok (), { h with handlers := h.handlers.set threadIndex w })
            | .error e =>
              if e.kind ≠ .alreadyExists then (.error (.reqHandlerError e), h) else (.ok (), h)
          else
            match w.unregisterEvent fd with
            | .ok w => (.ok (), { h with handlers := h.handlers.set threadIndex w })
            | .error _ => (.ok (), h)

def initializeVring (h : VhostUserHandler B M) (i : Nat) (index : UInt8) :
    Except Error Unit × VhostUserHandler B M :=
  (h.modVring i fun v => v.setQueueReady true).updateVringRegistration i index

def checkFeature (h : VhostUserHandler B M) (feat : UInt64) : Except Error Unit :=
  if h.ackedFeatures &&& feat ≠ 0 then .ok () else .error (.inactiveFeature feat)

/-! ## Requests -/

def setOwner (h : VhostUserHandler B M) : Except Error Unit × VhostUserHandler B M :=
  if h.owned then (.error (.invalidOperation "already claimed"), h) else (.ok (), { h with owned := true })

def resetOwner (h : VhostUserHandler B M) : Except Error Unit × VhostUserHandler B M :=
  (.ok (), { h with owned := false, featuresAcked := false, ackedFeatures := 0, ackedProtocolFeatures := 0 })

/-- Enable or disable each ring of the list and refresh its registration; the first error ends it. -/
def setEnabledAll (enabled : Bool) : List Nat → VhostUserHandler B M →
    Except Error Unit × VhostUserHandler B M
  | [], h => (.ok (), h)
  | i :: is, h =>
    match (h.modVring i fun v => v.setEnabled enabled).updateVringRegistration i (UInt8.ofNat i) with
    | (.ok (), h) => setEnabledAll enabled is h
    | (.error e, h) => (.error e, h)

def resetDevice (d : Deps B M) (h : VhostUserHandler B M) : Except Error Unit × VhostUserHandler B M :=
  match setEnabledAll false (List.range h.vrings.length) h with
  | (.error e, h) => (.error e, h)
  | (.ok (), h) =>
    (.ok (), { h with featuresAcked := false, ackedFeatures := 0, backend := d.backend.resetDevice h.backend })

def getFeatures (d : Deps B M) (h : VhostUserHandler B M) : Except Error UInt64 × VhostUserHandler B M :=
  (.ok (d.backend.features h.backend), h)

def VIRTIO_RING_F_EVENT_IDX : UInt64 := 29

/-- Without `PROTOCOL_FEATURES` the rings start enabled. -/
def enableUnlessProtocol (features : UInt64) (h : VhostUserHandler B M) :
    Except Error Unit × VhostUserHandler B M :=
  if (features &&& VhostUserVirtioFeatures.PROTOCOL_FEATURES) = 0 then
    setEnabledAll true (List.range h.vrings.length) h
  else (.ok (), h)

/-- The end of `set_features`: the event index flag, and the backend's two callbacks. -/
def ackFeatures (d : Deps B M) (h : VhostUserHandler B M) : VhostUserHandler B M :=
  let eventIdx := (h.ackedFeatures &&& (1 <<< VIRTIO_RING_F_EVENT_IDX)) != 0
  { h with
    vrings := h.vrings.map fun v => v.setQueueEventIdx eventIdx
    backend := d.backend.ackedFeatures h.ackedFeatures (d.backend.setEventIdx eventIdx h.backend) }

def setFeatures (d : Deps B M) (features : UInt64) (h : VhostUserHandler B M) :
    Except Error Unit × VhostUserHandler B M :=
  if (features &&& ~~~(d.backend.features h.backend)) ≠ 0 then (.error .invalidParam, h)
  else
    match enableUnlessProtocol features { h with ackedFeatures := features, featuresAcked := true } with
    | (.error e, h) => (.error e, h)
    | (.ok (), h) => (.ok (), h.ackFeatures d)

/-- `MmapRegion::from_file`: a mapping of length zero fails (`EINVAL`). -/
def mmapRegion (d : Deps B M) (r : VhostUserMemoryRegion) (file : File) : Except Error Nat :=
  if r.memorySize = 0 then .error otherError
  else match d.mmap file r.mmapOffset.toNat r.memorySize.toNat with
    | .error _ => .error otherError
    | .ok addr => .ok addr

/-- `GuestRegionMmap::new` over the mapping, with a fresh bitmap in cell `cell`. -/
def newRegion (d : Deps B M) (r : VhostUserMemoryRegion) (file : File) (cell : Nat) :
    Except Error GuestRegionMmap :=
  match mmapRegion d r file with
  | .error e => .error e
  | .ok hostAddr =>
    if r.guestPhysAddr.toNat + r.memorySize.toNat < 2 ^ 64 then
      .ok ⟨r.guestPhysAddr, r.memorySize, hostAddr, ⟨cell, 0⟩⟩
    else .error (.reqHandlerError (.ofKind .invalidInput))

def addrMapping (r : VhostUserMemoryRegion) : AddrMapping := ⟨r.userAddr, r.memorySize, r.guestPhysAddr⟩

/-- The loop of `set_mem_table`; `cell` is the next free bitmap cell. -/
def mapRegions (d : Deps B M) : List (VhostUserMemoryRegion × File) → Nat →
    Except Error (List GuestRegionMmap × List AddrMapping)
  | [], _ => .ok ([], [])
  | (r, file) :: rest, cell =>
    match newRegion d r file cell with
    | .error e => .error e
    | .ok g =>
      match mapRegions d rest (cell + 1) with
      | .error e => .error e
      | .ok (gs, ms) => .ok (g :: gs, addrMapping r :: ms)

/-- `with_len`: the cells from `h.nextCell` on are new and empty. -/
def allocCells (h : VhostUserHandler B M) (n : Nat) : VhostUserHandler B M :=
  { h with
    nextCell := h.nextCell + n
    heap := { h.heap with
      inner := fun c => if h.nextCell ≤ c ∧ c < h.nextCell + n then none else h.heap.inner c } }

/-- Install `mem`, tell the backend, and only then change the mappings. -/
def replaceMem (d : Deps B M) (mem : M) (mappings : List AddrMapping) (h : VhostUserHandler B M) :
    Except Error Unit × VhostUserHandler B M :=
  let h := { h with atomicMem := mem }
  match d.backend.updateMemory mem h.backend with
  | (.error _, b) => (.error otherError, { h with backend := b })
  | (.ok (), b) => (.ok (), { h with backend := b, mappings := mappings })

def setMemTable (d : Deps B M) (ctx : List VhostUserMemoryRegion) (files : List File)
    (h : VhostUserHandler B M) : Except Error Unit × VhostUserHandler B M :=
  match mapRegions d (ctx.zip files) h.nextCell with
  | .error e => (.error e, h)
  | .ok (regions, mappings) =>
    match d.vm.fromRegions regions with
    | none => (.error otherError, h)
    | some mem => replaceMem d mem mappings (h.allocCells regions.length)

/-- `self.vrings.get(index).ok_or(InvalidParam)?`, then the rest. -/
def withVring {α : Type} (h : VhostUserHandler B M) (i : Nat)
    (f : VringState → Except Error α × VhostUserHandler B M) : Except Error α × VhostUserHandler B M :=
  match h.vrings[i]? with
  | none => (.error .invalidParam, h)
  | some v => f v

def setVringNum (index num : UInt32) (h : VhostUserHandler B M) :
    Except Error Unit × VhostUserHandler B M :=
  h.withVring index.toNat fun _ =>
    if num = 0 || num.toNat > h.maxQueueSize then (.error .invalidParam, h)
    else (.ok (), h.modVring index.toNat fun v => v.setQueueSize num.toUInt16)

/-- The rest of `set_vring_addr`, once the addresses are translated. -/
def storeAddrs (d : Deps B M) (index : UInt32) (v : VringState) (descTable availRing usedRing : UInt64)
    (h : VhostUserHandler B M) : Except Error Unit × VhostUserHandler B M :=
  match v.setQueueInfo descTable availRing usedRing with
  | (false, v') => (.error .invalidParam, h.modVring index.toNat fun _ => v')
  | (true, v') =>
    let h := h.modVring index.toNat fun _ => v'
    match d.vm.usedIdx h.atomicMem v'.queue.usedRing with
    | none => (.error .backendInternalError, h)
    | some idx => (.ok (), h.modVring index.toNat fun v => v.setQueueNextUsed idx)

/-- `none` when a translation overflows. -/
def setVringAddr (d : Deps B M) (index : UInt32) (descriptor used available : UInt64)
    (h : VhostUserHandler B M) : Option (Except Error Unit × VhostUserHandler B M) :=
  match h.vrings[index.toNat]? with
  | none => some (.error .invalidParam, h)
  | some v =>
    if h.mappings.isEmpty then some (.error .invalidParam, h)
    else match h.vmmVaToGpa descriptor with
      | none => none
      | some none => some (.error otherError, h)
      | some (some descTable) =>
        match h.vmmVaToGpa available with
        | none => none
        | some none => some (.error otherError, h)
        | some (some availRing) =>
          match h.vmmVaToGpa used with
          | none => none
          | some none => some (.error otherError, h)
          | some (some usedRing) => some (h.storeAddrs d index v descTable availRing usedRing)

/-- What a build without overflow checks does. -/
def setVringAddrWrapping (d : Deps B M) (index : UInt32) (descriptor used available : UInt64)
    (h : VhostUserHandler B M) : Except Error Unit × VhostUserHandler B M :=
  h.withVring index.toNat fun v =>
    if h.mappings.isEmpty then (.error .invalidParam, h)
    else match h.vmmVaToGpaWrapping descriptor with
      | none => (.error otherError, h)
      | some descTable =>
        match h.vmmVaToGpaWrapping available with
        | none => (.error otherError, h)
        | some availRing =>
          match h.vmmVaToGpaWrapping used with
          | none => (.error otherError, h)
          | some usedRing => h.storeAddrs d index v descTable availRing usedRing

def setVringBase (index base : UInt32) (h : VhostUserHandler B M) :
    Except Error Unit × VhostUserHandler B M :=
  h.withVring index.toNat fun _ =>
    (.ok (), h.modVring index.toNat fun v => v.setQueueNextAvail base.toUInt16)

def getVringBase (index : UInt32) (h : VhostUserHandler B M) :
    Except Error VhostUserVringState × VhostUserHandler B M :=
  h.withVring index.toNat fun v =>
    match (h.modVring index.toNat fun v => v.setQueueReady false).updateVringRegistration index.toNat
        index.toUInt8 with
    | (.error e, h) => (.error e, h)
    | (.ok (), h) =>
      let h := h.modVring index.toNat fun v => v.setKick none
      let h := h.modVring index.toNat fun v => v.setCall none
      (.ok ⟨index, v.queue.nextAvail.toUInt32⟩, h)

/-- Tail of `set_vring_kick` and `set_vring_call`. -/
def initIfNeeded (h : VhostUserHandler B M) (index : UInt8) : Except Error Unit × VhostUserHandler B M :=
  h.withVring index.toNat fun v =>
    if vringNeedsInit v then h.initializeVring index.toNat index else (.ok (), h)

def setVringKick (index : UInt8) (file : Option File) (h : VhostUserHandler B M) :
    Except Error Unit × VhostUserHandler B M :=
  h.withVring index.toNat fun _ => (h.modVring index.toNat fun v => v.setKick file).initIfNeeded index

def setVringCall (index : UInt8) (file : Option File) (h : VhostUserHandler B M) :
    Except Error Unit × VhostUserHandler B M :=
  h.withVring index.toNat fun _ => (h.modVring index.toNat fun v => v.setCall file).initIfNeeded index

def setVringErr (index : UInt8) (file : Option File) (h : VhostUserHandler B M) :
    Except Error Unit × VhostUserHandler B M :=
  h.withVring index.toNat fun _ => (.ok (), h.modVring index.toNat fun v => v.setErr file)

def getProtocolFeatures (d : Deps B M) (h : VhostUserHandler B M) :
    Except Error UInt64 × VhostUserHandler B M :=
  (.ok (d.backend.protocolFeatures h.backend), h)

def setProtocolFeatures (features : UInt64) (h : VhostUserHandler B M) :
    Except Error Unit × VhostUserHandler B M :=
  (.ok (), { h with ackedProtocolFeatures := features })

def getQueueNum (h : VhostUserHandler B M) : Except Error UInt64 × VhostUserHandler B M :=
  (.ok (UInt64.ofNat h.numQueues), h)

def setVringEnable (index : UInt32) (enable : Bool) (h : VhostUserHandler B M) :
    Except Error Unit × VhostUserHandler B M :=
  match h.checkFeature VhostUserVirtioFeatures.PROTOCOL_FEATURES with
  | .error e => (.error e, h)
  | .ok () =>
    h.withVring index.toNat fun _ =>
      (h.modVring index.toNat fun v => v.setEnabled enable).updateVringRegistration index.toNat
        index.toUInt8

def getConfig (d : Deps B M) (offset size : UInt32) (h : VhostUserHandler B M) :
    Except Error (List UInt8) × VhostUserHandler B M :=
  (.ok (d.backend.getConfig offset size h.backend), h)

/-- The backend's answer, its error wrapped by `wrap`. -/
def ofBackend {α : Type} (wrap : IoError → Error) (h : VhostUserHandler B M) (r : Except IoError α × B) :
    Except Error α × VhostUserHandler B M :=
  (match r.1 with
    | .ok a => .ok a
    | .error e => .error (wrap e), { h with backend := r.2 })

def setConfig (d : Deps B M) (offset : UInt32) (buf : List UInt8) (h : VhostUserHandler B M) :
    Except Error Unit × VhostUserHandler B M :=
  ofBackend .reqHandlerError h (d.backend.setConfig offset buf h.backend)

def setBackendReqFd (d : Deps B M) (sock : File) (h : VhostUserHandler B M) : Unit × VhostUserHandler B M :=
  let has (feat : UInt64) : Bool := (h.ackedProtocolFeatures &&& feat) != 0
  let channel : BackendReqChannel :=
    ⟨sock, has VhostUserProtocolFeatures.REPLY_ACK, has VhostUserProtocolFeatures.SHARED_OBJECT,
      has VhostUserProtocolFeatures.SHMEM⟩
  ((), { h with backend := d.backend.setBackendReqFd channel h.backend })

def setGpuSocket (d : Deps B M) (sock : File) (h : VhostUserHandler B M) :
    Except Error Unit × VhostUserHandler B M :=
  ofBackend .reqHandlerError h (d.backend.setGpuSocket sock h.backend)

def getSharedObject (d : Deps B M) (uuid : VhostUserSharedMsg) (h : VhostUserHandler B M) :
    Except Error File × VhostUserHandler B M :=
  ofBackend (fun _ => otherError) h (d.backend.getSharedObject uuid h.backend)

def getMaxMemSlots (h : VhostUserHandler B M) : Except Error UInt64 × VhostUserHandler B M :=
  (.ok MAX_MEM_SLOTS, h)

def addMemRegion (d : Deps B M) (region : VhostUserSingleMemoryRegion) (file : File)
    (h : VhostUserHandler B M) : Except Error Unit × VhostUserHandler B M :=
  match newRegion d region.region file h.nextCell with
  | .error e => (.error e, h)
  | .ok g =>
    match d.vm.insertRegion h.atomicMem g with
    | none => (.error otherError, h)
    | some mem => replaceMem d mem (h.mappings ++ [addrMapping region.region]) (h.allocCells 1)

def removeMemRegion (d : Deps B M) (region : VhostUserSingleMemoryRegion) (h : VhostUserHandler B M) :
    Except Error Unit × VhostUserHandler B M :=
  match d.vm.removeRegion h.atomicMem region.region.guestPhysAddr region.region.memorySize with
  | none => (.error otherError, h)
  | some (mem, _) =>
    replaceMem d mem (h.mappings.filter fun m => m.gpaBase ≠ region.region.guestPhysAddr) h

def setDeviceStateFd (d : Deps B M) (direction : VhostTransferStateDirection)
    (phase : VhostTransferStatePhase) (file : File) (h : VhostUserHandler B M) :
    Except Error (Option File) × VhostUserHandler B M :=
  ofBackend .reqHandlerError h (d.backend.setDeviceStateFd direction phase file h.backend)

def checkDeviceState (d : Deps B M) (h : VhostUserHandler B M) :
    Except Error Unit × VhostUserHandler B M :=
  ofBackend .reqHandlerError h (d.backend.checkDeviceState h.backend)

def getShmemConfig (d : Deps B M) (h : VhostUserHandler B M) :
    Except Error VhostUserShMemConfig × VhostUserHandler B M :=
  ofBackend .reqHandlerError h (d.backend.getShmemConfig h.backend)

/-- All bitmaps first; one that fails leaves every region as it is. -/
def newBitmaps (d : Deps B M) (logmem : MmapLogReg) : List GuestRegionMmap →
    Except IoError (List (GuestRegionMmap × AtomicBitmapMmap))
  | [] => .ok []
  | r :: rs =>
    match d.bitmap.newInner r.guestBase r.size logmem with
    | .error e => .error e
    | .ok b =>
      match newBitmaps d logmem rs with
      | .error e => .error e
      | .ok bs => .ok ((r, b) :: bs)

def replaceBitmaps (heap : LogHeap) (bitmaps : List (GuestRegionMmap × AtomicBitmapMmap)) : LogHeap :=
  bitmaps.foldl (fun heap (r, b) => r.bitmap.replace heap b) heap

def setLogBase (d : Deps B M) (log : VhostUserLog) (file : File) (h : VhostUserHandler B M) :
    Except Error Unit × VhostUserHandler B M :=
  match MmapLogReg.fromFile d.mmap file log.mmapOffset log.mmapSize with
  | .error e => (.error (.reqHandlerError e), h)
  | .ok logmem =>
    match newBitmaps d logmem (d.vm.regions h.atomicMem) with
    | .error e => (.error (.reqHandlerError e), h)
    | .ok bitmaps => (.ok (), { h with heap := replaceBitmaps (h.heap.mapped logmem) bitmaps })

/-- The handler as the object behind a `BackendReqHandler`. Where the translation of `set_vring_addr` overflows,
a build with overflow checks panics (`setVringAddr` is `none`); the calls do what one without them does. -/
def invoke (d : Deps B M) : (c : Call) → VhostUserHandler B M → c.Res × VhostUserHandler B M
  | .setOwner, h => h.setOwner
  | .resetOwner, h => h.resetOwner
  | .resetDevice, h => h.resetDevice d
  | .getFeatures, h => h.getFeatures d
  | .setFeatures f, h => h.setFeatures d f
  | .setMemTable ctx files, h => h.setMemTable d ctx files
  | .setVringNum index num, h => h.setVringNum index num
  | .setVringAddr index _ descriptor used available _, h =>
    (h.setVringAddr d index descriptor used available).getD (h.setVringAddrWrapping d index descriptor used available)
  | .setVringBase index base, h => h.setVringBase index base
  | .getVringBase index, h => h.getVringBase index
  | .setVringKick index fd, h => h.setVringKick index fd
  | .setVringCall index fd, h => h.setVringCall index fd
  | .setVringErr index fd, h => h.setVringErr index fd
  | .getProtocolFeatures, h => h.getProtocolFeatures d
  | .setProtocolFeatures f, h => h.setProtocolFeatures f
  | .getQueueNum, h => h.getQueueNum
  | .setVringEnable index enable, h => h.setVringEnable index enable
  | .getConfig offset size _, h => h.getConfig d offset size
  | .setConfig offset buf _, h => h.setConfig d offset buf
  | .setBackendReqFd sock, h => h.setBackendReqFd d sock
  | .setGpuSocket sock, h => h.setGpuSocket d sock
  | .getSharedObject uuid, h => h.getSharedObject d uuid
  | .getInflightFd _, h => (.error (.invalidOperation "not supported"), h)
  | .setInflightFd _ _, h => (.error (.invalidOperation "not supported"), h)
  | .getMaxMemSlots, h => h.getMaxMemSlots
  | .addMemRegion region fd, h => h.addMemRegion d region fd
  | .removeMemRegion region, h => h.removeMemRegion d region
  | .setDeviceStateFd direction phase fd, h => h.setDeviceStateFd d direction phase fd
  | .checkDeviceState, h => h.checkDeviceState d
  | .getShmemConfig, h => h.getShmemConfig d
  | .postcopyAdvice, h => (.error .invalidMessage, h)
  | .postcopyListen, h => (.error .invalidMessage, h)
  | .postcopyEnd, h => (.error .invalidMessage, h)
  | .setLogBase log file, h => h.setLogBase d log file

/-! ## `set_vring_addr`, with and without overflow checks -/

section SetVringAddr
variable {d : Deps B M} {h : VhostUserHandler B M} {index : UInt32} {descriptor used available : UInt64}

/-- Where nothing overflows the checks make no difference. -/
theorem vmmVaToGpaWrapping_eq {va : UInt64} {r : Option UInt64} (hr : h.vmmVaToGpa va = some r) :
    h.vmmVaToGpaWrapping va = r := by
  unfold vmmVaToGpaWrapping
  rw [vmmVaToGpa] at hr
  generalize h.mappings = ms at hr ⊢
  induction ms with
  | nil =>
    cases hr
    rfl
  | cons m ms ih =>
    rw [vmmVaToGpaIn] at hr
    split at hr
    · rename_i hge
      split at hr
      · cases hr
      · rename_i stop hstop
        split at hr
        · rename_i hlt
          obtain ⟨g, hg, rfl⟩ := Option.map_eq_some_iff.1 hr
          simp [hge, hlt, eq_add_of_checkedAdd hstop, eq_add_of_checkedAdd hg]
        · rename_i hnlt
          simpa [hge, hnlt, eq_add_of_checkedAdd hstop] using ih hr
    · rename_i hnge
      simpa [hnge] using ih hr

theorem setVringAddrWrapping_eq {r : Except Error Unit × VhostUserHandler B M}
    (hr : h.setVringAddr d index descriptor used available = some r) :
    h.setVringAddrWrapping d index descriptor used available = r := by
  unfold setVringAddr at hr
  unfold setVringAddrWrapping withVring
  split at hr
  · cases hr
    simp [*]
  · dsimp only
    split at hr
    · rename_i hempty
      cases hr
      rw [if_pos hempty]
    · rename_i hmaps
      rw [if_neg hmaps]
      split at hr
      · cases hr
      · rename_i hD
        cases hr
        rw [vmmVaToGpaWrapping_eq hD]
      · rename_i D hD
        rw [vmmVaToGpaWrapping_eq hD]
        dsimp only
        split at hr
        · cases hr
        · rename_i hA
          cases hr
          rw [vmmVaToGpaWrapping_eq hA]
        · rename_i A hA
          rw [vmmVaToGpaWrapping_eq hA]
          dsimp only
          split at hr
          · cases hr
          · rename_i hU
            cases hr
            rw [vmmVaToGpaWrapping_eq hU]
          · rename_i U hU
            cases hr
            rw [vmmVaToGpaWrapping_eq hU]

/-- So the calls never need the checked form. -/
theorem invoke_setVringAddr (flags : UInt32) (log : UInt64) :
    invoke d (.setVringAddr index flags descriptor used available log) h =
      h.setVringAddrWrapping d index descriptor used available := by
  show (h.setVringAddr d index descriptor used available).getD _ = _
  cases hr : h.setVringAddr d index descriptor used available with
  | none => rfl
  | some r => exact (setVringAddrWrapping_eq hr).symm

/-- Nothing happens before the addresses are stored. -/
theorem invoke_setVringAddr_cases (flags : UInt32) (log : UInt64) :
    (∃ e, invoke d (.setVringAddr index flags descriptor used available log) h = (.error e, h)) ∨
      ∃ v D A U, h.vrings[index.toNat]? = some v ∧
        invoke d (.setVringAddr index flags descriptor used available log) h = h.storeAddrs d index v D A U := by
  rw [invoke_setVringAddr]
  unfold setVringAddrWrapping withVring
  split
  · exact .inl ⟨_, rfl⟩
  · rename_i v hv
    split
    · exact .inl ⟨_, rfl⟩
    · split
      · exact .inl ⟨_, rfl⟩
      · split
        · exact .inl ⟨_, rfl⟩
        · split
          · exact .inl ⟨_, rfl⟩
          · exact .inr ⟨v, _, _, _, hv, rfl⟩

end SetVringAddr

end VhostUserHandler

end VhostUser
