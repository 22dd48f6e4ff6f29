import VhostUser.Request
/-!
# `Frontend` (`vhost/src/vhost_user/frontend.rs`)

| here | there |
| --- | --- |
| `FrontendInternal`  | the state behind the mutex (`:705-724`); the socket is in `FrontendCtx` |
| `Channel`           | the socket: send one complete message, receive up to `n` bytes of one (`Transmission`) |
| `Wire`              | **ghost**: a channel that is a FIFO of bytes |
| `VringConfigData` `VhostUserMemoryRegionInfo` `VhostUserDirtyLogRegion` | the arguments' types (`backend.rs:29-156`) |
| `sendRequestHeader` … `waitForAck` | the internal helpers (`:726-886`) |
| `setVringCall` `setVringKick` `setVringErr` | the three vring fd requests (`:344-383`), one body with three codes |
| `getFeatures` … `getVringBase` | the rest of `VhostBackend for Frontend` (`:197-342`) |
| `getProtocolFeatures` … `postcopyEnd` | `VhostUserFrontend for Frontend` (`:386-645`) |

A `RawFd` is a number and may be negative; a descriptor that comes as an open file is a `File`.
-/
namespace VhostUser
open Bytes EState

structure FrontendInternal where
  virtioFeatures : UInt64
  ackedVirtioFeatures : UInt64
  protocolFeatures : UInt64
  ackedProtocolFeatures : UInt64
  protocolFeaturesReady : Bool
  maxQueueNum : UInt64
  error : Option Int32
  hdrFlags : UInt32
deriving DecidableEq, Repr

structure FrontendCtx (τ : Type) where
  node : FrontendInternal
  sock : τ

/-- What the frontend needs of its socket. -/
structure Channel (τ : Type) where
  send : List UInt8 → List File → τ → Except Error Unit × τ
  recv : Nat → τ → Except Error (List UInt8 × Option (List File)) × τ

/-- A descriptor number as the caller gives it. -/
abbrev RawFd := Int

structure VringConfigData where
  queueMaxSize : UInt16
  queueSize : UInt16
  flags : UInt32
  descTableAddr : UInt64
  usedRingAddr : UInt64
  availRingAddr : UInt64
  logAddr : Option UInt64
deriving DecidableEq, Repr

def VhostUserVringAddr.fromConfigData (index : UInt32) (configData : VringConfigData) : VhostUserVringAddr :=
  ⟨index, configData.flags, configData.descTableAddr, configData.usedRingAddr, configData.availRingAddr,
    configData.logAddr.getD 0⟩

structure VhostUserMemoryRegionInfo where
  guestPhysAddr : UInt64
  memorySize : UInt64
  userspaceAddr : UInt64
  mmapOffset : UInt64
  mmapHandle : RawFd
deriving DecidableEq, Repr

namespace VhostUserMemoryRegionInfo

def toRegion (r : VhostUserMemoryRegionInfo) : VhostUserMemoryRegion :=
  ⟨r.guestPhysAddr, r.memorySize, r.userspaceAddr, r.mmapOffset⟩

def toSingleRegion (r : VhostUserMemoryRegionInfo) : VhostUserSingleMemoryRegion := ⟨0, r.toRegion⟩

end VhostUserMemoryRegionInfo

structure VhostUserDirtyLogRegion where
  mmapSize : UInt64
  mmapOffset : UInt64
  mmapHandle : RawFd
deriving DecidableEq, Repr

/-- One direction of a connection: the bytes on their way, and every message that was sent. -/
structure Wire where
  inFlight : List Cell
  sent : List (List UInt8 × List File)
deriving DecidableEq, Repr

namespace Wire

def post (bytes : List UInt8) (fds : List File) (w : Wire) : Except Error Unit × Wire :=
  (.ok (), ⟨w.inFlight ++ cells bytes fds, w.sent ++ [(bytes, fds)]⟩)

/-- Receive `n` bytes. Where fewer are to come the call takes those that are there and waits for the rest
(`recv_into_iovec_all`); it is reported as a failure here. -/
def read (n : Nat) (w : Wire) : Except Error (List UInt8 × Option (List File)) × Wire :=
  if n ≤ w.inFlight.length then
    (.ok ((w.inFlight.take n).map Cell.byte, toFiles (chunkFds (w.inFlight.take n))),
      { w with inFlight := w.inFlight.drop n })
  else (.error .disconnected, { w with inFlight := [] })

/-- Nothing is there to be read. -/
theorem read_quiet {w : Wire} {n : Nat} (h : w.inFlight = []) (hpos : 0 < n) : w.read n = (.error .disconnected, w) := by
  rw [read, if_neg (by rw [h]; exact Nat.not_le.2 hpos), ← h]

/-- One message, read whole. -/
theorem read_cells {w : Wire} {bytes : List UInt8} {fds : List File} (h : w.inFlight = cells bytes fds)
    (hpos : bytes ≠ []) : w.read bytes.length = (.ok (bytes, toFiles fds), { w with inFlight := [] }) := by
  have hlen : w.inFlight.length = bytes.length := by rw [h, length_cells]
  have hfds : chunkFds (cells bytes fds) = fds := by
    cases bytes with
    | nil => exact absurd rfl hpos
    | cons b bs => rfl
  rw [read, if_pos hlen.ge, ← hlen, List.take_length, List.drop_length, h, map_byte_cells, hfds]

end Wire

namespace Frontend

abbrev M (τ : Type) := EStateM Error (FrontendCtx τ)

def new (maxQueueNum : UInt64) : FrontendInternal := ⟨0, 0, 0, 0, false, maxQueueNum, none, 0⟩

def setHdrFlags (node : FrontendInternal) (flags : UInt32) : FrontendInternal :=
  { node with hdrFlags := flags }

section
variable {τ α : Type}

def orThrow : Except Error α → M τ α
  | .ok a => pure a
  | .error e => throw e

def getNode : M τ FrontendInternal := do
  let x ← get
  pure x.node

def checkState (node : FrontendInternal) : Except Error Unit :=
  match node.error with
  | some e => .error (.socketBroken (.errno e))
  | none => .ok ()

theorem checkState_broken {node : FrontendInternal} (h : node.error ≠ none) : ∃ e, checkState node = .error e := by
  cases herr : node.error with
  | none => exact absurd herr h
  | some n => exact ⟨_, by rw [checkState, herr]⟩

def checkProtoFeature (node : FrontendInternal) (feat : UInt64) : Except Error Unit :=
  if node.ackedProtocolFeatures &&& feat ≠ 0 then .ok () else .error (.inactiveOperation feat)

def checkFeature (node : FrontendInternal) (feat : UInt64) : Except Error Unit :=
  if node.virtioFeatures &&& feat ≠ 0 then .ok () else .error (.inactiveFeature feat)

def newRequestHeader (node : FrontendInternal) (request : FrontendReq) (size : UInt32) :
    VhostUserMsgHeader FrontendReq :=
  VhostUserMsgHeader.new request (node.hdrFlags ||| 0x1) size

variable (ch : Channel τ)

def sendBytes (bytes : List UInt8) (fds : List File) : M τ Unit := do
  let x ← get
  let (r, sock) := ch.send bytes fds x.sock
  set { x with sock := sock }
  orThrow r

def recvBytes (n : Nat) : M τ (List UInt8 × Option (List File)) := do
  let x ← get
  let (r, sock) := ch.recv n x.sock
  set { x with sock := sock }
  orThrow r

/-- `main_sock.recv_body::<T>()`. -/
def recvBody (T : Type) [ByteValued T] [VhostUserMsgValidator T] :
    M τ (VhostUserMsgHeader FrontendReq × T × Option (List File)) := do
  let total := ByteValued.size (VhostUserMsgHeader FrontendReq) + ByteValued.size T
  let (bytes, files) ← recvBytes ch total
  let hdr : VhostUserMsgHeader FrontendReq := ByteValued.fromSlice bytes
  let body : T := ByteValued.fromSlice (bytes.drop (ByteValued.size (VhostUserMsgHeader FrontendReq)))
  if bytes.length ≠ total then throw .partialMessage
  if !hdr.isValid || !VhostUserMsgValidator.isValid body then throw .invalidMessage
  pure (hdr, body, files)

def sendRequestHeader (code : FrontendReq) (fds : List File) : M τ (VhostUserMsgHeader FrontendReq) := do
  let node ← getNode
  orThrow (checkState node)
  let hdr := newRequestHeader node code 0
  sendBytes ch (ByteValued.asSlice hdr) fds
  pure hdr

def sendRequestWithBody {T : Type} [ByteValued T] (code : FrontendReq) (msg : T) (fds : List File) :
    M τ (VhostUserMsgHeader FrontendReq) := do
  if ByteValued.size T > maxMsgSize then throw .invalidParam
  let node ← getNode
  orThrow (checkState node)
  let hdr := newRequestHeader node code (UInt32.ofNat (ByteValued.size T))
  sendBytes ch (ByteValued.asSlice hdr ++ ByteValued.asSlice msg) fds
  pure hdr

def sendRequestWithPayload {T : Type} [ByteValued T] (code : FrontendReq) (msg : T) (payload : List UInt8)
    (fds : List File) : M τ (VhostUserMsgHeader FrontendReq) := do
  let len := ByteValued.size T + payload.length
  if len > maxMsgSize then throw .invalidParam
  if fds.length > maxAttachedFdEntries then throw .invalidParam
  let node ← getNode
  orThrow (checkState node)
  let hdr := newRequestHeader node code (UInt32.ofNat len)
  sendBytes ch (ByteValued.asSlice hdr ++ (ByteValued.asSlice msg ++ payload)) fds
  pure hdr

/-- The `u64` body has bit 8 as the invalid fd flag; a descriptor always comes along here. -/
def sendFdForVring (code : FrontendReq) (queueIndex : UInt64) (fd : File) :
    M τ (VhostUserMsgHeader FrontendReq) := do
  let node ← getNode
  if queueIndex ≥ node.maxQueueNum then throw .invalidParam
  orThrow (checkState node)
  let msg : VhostUserU64 := ⟨queueIndex⟩
  let hdr := newRequestHeader node code 8
  sendBytes ch (ByteValued.asSlice hdr ++ ByteValued.asSlice msg) [fd]
  pure hdr

def recvReply (T : Type) [ByteValued T] [VhostUserMsgValidator T] (hdr : VhostUserMsgHeader FrontendReq) :
    M τ T := do
  if ByteValued.size T > maxMsgSize || hdr.isReply then throw .invalidParam
  orThrow (checkState (← getNode))
  let (reply, body, rfds) ← recvBody ch T
  if !reply.isReplyFor hdr || rfds.isSome || !VhostUserMsgValidator.isValid body then throw .invalidMessage
  pure body

def recvReplyWithOptionalFiles (T : Type) [ByteValued T] [VhostUserMsgValidator T]
    (hdr : VhostUserMsgHeader FrontendReq) : M τ (T × Option (List File)) := do
  if ByteValued.size T > maxMsgSize || hdr.isReply then throw .invalidParam
  orThrow (checkState (← getNode))
  let (reply, body, files) ← recvBody ch T
  if !reply.isReplyFor hdr || !VhostUserMsgValidator.isValid body then throw .invalidMessage
  pure (body, files)

def recvReplyWithFiles (T : Type) [ByteValued T] [VhostUserMsgValidator T]
    (hdr : VhostUserMsgHeader FrontendReq) : M τ (T × Option (List File)) := do
  let (body, files) ← recvReplyWithOptionalFiles ch T hdr
  if files.isNone then throw .invalidMessage
  pure (body, files)

/-- `main_sock.recv_payload_into_buf::<T>(&mut buf)` for a zeroed `buf` of `len` bytes. -/
def recvPayloadIntoBuf (T : Type) [ByteValued T] [VhostUserMsgValidator T] (len : Nat) :
    M τ (VhostUserMsgHeader FrontendReq × T × List UInt8 × Nat × Option (List File)) := do
  let total := ByteValued.size (VhostUserMsgHeader FrontendReq) + ByteValued.size T
  let (bytes, files) ← recvBytes ch (total + len)
  let hdr : VhostUserMsgHeader FrontendReq := ByteValued.fromSlice bytes
  let body : T := ByteValued.fromSlice (bytes.drop (ByteValued.size (VhostUserMsgHeader FrontendReq)))
  if bytes.length < total then throw .partialMessage
  if !hdr.isValid || !VhostUserMsgValidator.isValid body then throw .invalidMessage
  let buf := Scatter.overwrite (List.replicate len 0) 0 (bytes.drop total)
  pure (hdr, body, buf, bytes.length - total, files)

def recvReplyWithPayload (T : Type) [ByteValued T] [VhostUserMsgValidator T]
    (hdr : VhostUserMsgHeader FrontendReq) : M τ (T × List UInt8 × Option (List File)) := do
  if ByteValued.size T > maxMsgSize || hdr.getSize.toNat ≤ ByteValued.size T || hdr.getSize.toNat > maxMsgSize
      || hdr.isReply then throw .invalidParam
  orThrow (checkState (← getNode))
  let (reply, body, buf, bytes, files) ← recvPayloadIntoBuf ch T (hdr.getSize.toNat - ByteValued.size T)
  if !reply.isReplyFor hdr || reply.getSize.toNat ≠ ByteValued.size T + bytes || files.isSome
      || !VhostUserMsgValidator.isValid body || bytes ≠ buf.length then throw .invalidMessage
  pure (body, buf, files)

def waitForAck (hdr : VhostUserMsgHeader FrontendReq) : M τ Unit := do
  let node ← getNode
  if (node.ackedProtocolFeatures &&& VhostUserProtocolFeatures.REPLY_ACK) == 0 || !hdr.isNeedReply then
    pure ()
  else
    orThrow (checkState node)
    let (reply, body, rfds) ← recvBody ch VhostUserU64
    if !reply.isReplyFor hdr || rfds.isSome || !VhostUserMsgValidator.isValid body then throw .invalidMessage
    if body.value ≠ 0 then throw .backendInternalError

/-- Common body of the three vring fd requests. -/
def setVringFd (code : FrontendReq) (queueIndex : UInt64) (fd : File) : M τ Unit := do
  let node ← getNode
  if queueIndex ≥ node.maxQueueNum then throw .invalidParam
  let hdr ← sendFdForVring ch code queueIndex fd
  waitForAck ch hdr

def setVringCall (queueIndex : UInt64) (fd : File) : M τ Unit := setVringFd ch .setVringCall queueIndex fd
def setVringKick (queueIndex : UInt64) (fd : File) : M τ Unit := setVringFd ch .setVringKick queueIndex fd
def setVringErr (queueIndex : UInt64) (fd : File) : M τ Unit := setVringFd ch .setVringErr queueIndex fd

def getQueueNum : M τ UInt64 := do
  orThrow (checkProtoFeature (← getNode) VhostUserProtocolFeatures.MQ)
  let hdr ← sendRequestHeader ch .getQueueNum []
  let val ← recvReply ch VhostUserU64 hdr
  if val.value > vhostUserMaxVrings then throw .invalidMessage
  modify fun x => { x with node := { x.node with maxQueueNum := val.value } }
  pure val.value

def modNode (f : FrontendInternal → FrontendInternal) : M τ Unit := modify fun x => { x with node := f x.node }

def EBADF : Errno := .errno 9

/-- `sendmsg` refuses a negative descriptor; the state is looked at before. -/
def attach (fd : RawFd) : M τ File := do
  orThrow (checkState (← getNode))
  if fd < 0 then throw (Error.fromErrno EBADF)
  pure fd.toNat

/-! ### `VhostBackend` -/

def getFeatures : M τ UInt64 := do
  let hdr ← sendRequestHeader ch .getFeatures []
  let val ← recvReply ch VhostUserU64 hdr
  modNode fun node => { node with virtioFeatures := val.value }
  pure val.value

def setFeatures (features : UInt64) : M τ Unit := do
  let hdr ← sendRequestWithBody ch .setFeatures (⟨features⟩ : VhostUserU64) []
  modNode fun node => { node with ackedVirtioFeatures := features &&& node.virtioFeatures }
  waitForAck ch hdr

def setOwner : M τ Unit := do
  let hdr ← sendRequestHeader ch .setOwner []
  waitForAck ch hdr

def resetOwner : M τ Unit := do
  let hdr ← sendRequestHeader ch .resetOwner []
  waitForAck ch hdr

def setMemTable (regions : List VhostUserMemoryRegionInfo) : M τ Unit := do
  if regions.isEmpty || regions.length > maxAttachedFdEntries then throw .invalidParam
  if regions.any fun r => r.memorySize == 0 || r.mmapHandle < 0 then throw .invalidParam
  let body : VhostUserMemory := ⟨UInt32.ofNat regions.length, 0⟩
  let payload := regions.flatMap fun r => ByteValued.asSlice r.toRegion
  let hdr ← sendRequestWithPayload ch .setMemTable body payload (regions.map fun r => r.mmapHandle.toNat)
  waitForAck ch hdr

/-- Without a log region, or without `LOG_SHMFD`, only the address is sent and nothing is awaited. -/
def setLogBase (base : UInt64) (region : Option VhostUserDirtyLogRegion) : M τ Unit := do
  let node ← getNode
  match region with
  | some region =>
    if node.ackedProtocolFeatures &&& VhostUserProtocolFeatures.LOG_SHMFD ≠ 0 then
      let log : VhostUserLog := ⟨region.mmapSize, region.mmapOffset⟩
      let fd ← attach region.mmapHandle
      let hdr ← sendRequestWithBody ch .setLogBase log [fd]
      let _ ← recvReply ch VhostUserLog hdr
    else let _ ← sendRequestWithBody ch .setLogBase (⟨base⟩ : VhostUserU64) []
  | none => let _ ← sendRequestWithBody ch .setLogBase (⟨base⟩ : VhostUserU64) []

def setLogFd (fd : RawFd) : M τ Unit := do
  let fd ← attach fd
  let hdr ← sendRequestHeader ch .setLogFd [fd]
  waitForAck ch hdr

/-- Requests about one queue refuse an index outside the queues. -/
def checkQueue (queueIndex : UInt64) : M τ Unit := do
  if queueIndex ≥ (← getNode).maxQueueNum then throw .invalidParam

def setVringNum (queueIndex : UInt64) (num : UInt16) : M τ Unit := do
  checkQueue queueIndex
  let hdr ← sendRequestWithBody ch .setVringNum (⟨queueIndex.toUInt32, num.toUInt32⟩ : VhostUserVringState) []
  waitForAck ch hdr

def setVringAddr (queueIndex : UInt64) (configData : VringConfigData) : M τ Unit := do
  if queueIndex ≥ (← getNode).maxQueueNum || (configData.flags &&& ~~~vhostUserVringAddrFlagsAll) != 0 then
    throw .invalidParam
  let hdr ← sendRequestWithBody ch .setVringAddr
    (VhostUserVringAddr.fromConfigData queueIndex.toUInt32 configData) []
  waitForAck ch hdr

def setVringBase (queueIndex : UInt64) (base : UInt16) : M τ Unit := do
  checkQueue queueIndex
  let hdr ← sendRequestWithBody ch .setVringBase (⟨queueIndex.toUInt32, base.toUInt32⟩ : VhostUserVringState) []
  waitForAck ch hdr

def getVringBase (queueIndex : UInt64) : M τ UInt32 := do
  checkQueue queueIndex
  let hdr ← sendRequestWithBody ch .getVringBase (⟨queueIndex.toUInt32, 0⟩ : VhostUserVringState) []
  let reply ← recvReply ch VhostUserVringState hdr
  pure reply.num

/-! ### `VhostUserFrontend` -/

def getProtocolFeatures : M τ UInt64 := do
  orThrow (checkFeature (← getNode) VhostUserVirtioFeatures.PROTOCOL_FEATURES)
  let hdr ← sendRequestHeader ch .getProtocolFeatures []
  let val ← recvReply ch VhostUserU64 hdr
  modNode fun node => { node with protocolFeatures := val.value }
  pure (val.value &&& VhostUserProtocolFeatures.ALL)

def setProtocolFeatures (features : UInt64) : M τ Unit := do
  orThrow (checkFeature (← getNode) VhostUserVirtioFeatures.PROTOCOL_FEATURES)
  let hdr ← sendRequestWithBody ch .setProtocolFeatures (⟨features⟩ : VhostUserU64) []
  modNode fun node => { node with ackedProtocolFeatures := features, protocolFeaturesReady := true }
  waitForAck ch hdr

def resetDevice : M τ Unit := do
  orThrow (checkProtoFeature (← getNode) VhostUserProtocolFeatures.RESET_DEVICE)
  let hdr ← sendRequestHeader ch .resetDevice []
  waitForAck ch hdr

def setVringEnable (queueIndex : UInt64) (enable : Bool) : M τ Unit := do
  let node ← getNode
  if node.ackedVirtioFeatures &&& VhostUserVirtioFeatures.PROTOCOL_FEATURES = 0 then
    throw (.inactiveFeature VhostUserVirtioFeatures.PROTOCOL_FEATURES)
  if queueIndex ≥ node.maxQueueNum then throw .invalidParam
  let flag : UInt32 := if enable then 1 else 0
  let hdr ← sendRequestWithBody ch .setVringEnable (⟨queueIndex.toUInt32, flag⟩ : VhostUserVringState) []
  waitForAck ch hdr

def getConfig (offset size flags : UInt32) (buf : List UInt8) : M τ (VhostUserConfig × List UInt8) := do
  let body : VhostUserConfig := ⟨offset, size, flags⟩
  if !VhostUserMsgValidator.isValid body then throw .invalidParam
  orThrow (checkProtoFeature (← getNode) VhostUserProtocolFeatures.CONFIG)
  let hdr ← sendRequestWithPayload ch .getConfig body buf []
  let (bodyReply, bufReply, rfds) ← recvReplyWithPayload ch VhostUserConfig hdr
  if rfds.isSome then throw .invalidMessage
  if bodyReply.size = 0 then throw .backendInternalError
  if bodyReply.size ≠ body.size || bodyReply.size.toNat ≠ buf.length || bodyReply.offset ≠ body.offset then
    throw .invalidMessage
  pure (bodyReply, bufReply)

def setConfig (offset flags : UInt32) (buf : List UInt8) : M τ Unit := do
  if buf.length > maxMsgSize then throw .invalidParam
  let body : VhostUserConfig := ⟨offset, UInt32.ofNat buf.length, flags⟩
  if !VhostUserMsgValidator.isValid body then throw .invalidParam
  orThrow (checkProtoFeature (← getNode) VhostUserProtocolFeatures.CONFIG)
  let hdr ← sendRequestWithPayload ch .setConfig body buf []
  waitForAck ch hdr

def setBackendRequestFd (fd : File) : M τ Unit := do
  orThrow (checkProtoFeature (← getNode) VhostUserProtocolFeatures.BACKEND_REQ)
  let hdr ← sendRequestHeader ch .setBackendReqFd [fd]
  waitForAck ch hdr

/-- The one file of a reply. -/
def singleFile (files : Option (List File)) : M τ File :=
  match takeSingleFile files with
  | some file => pure file
  | none => throw .incorrectFds

def getSharedObject (uuid : VhostUserSharedMsg) : M τ File := do
  orThrow (checkProtoFeature (← getNode) VhostUserProtocolFeatures.SHARED_OBJECT)
  if !VhostUserMsgValidator.isValid uuid then throw .invalidParam
  let hdr ← sendRequestWithBody ch .getSharedObject uuid []
  let (_, files) ← recvReplyWithFiles ch VhostUserEmpty hdr
  singleFile files

def getInflightFd (inflight : VhostUserInflight) : M τ (VhostUserInflight × File) := do
  orThrow (checkProtoFeature (← getNode) VhostUserProtocolFeatures.INFLIGHT_SHMFD)
  let hdr ← sendRequestWithBody ch .getInflightFd inflight []
  let (inflight, files) ← recvReplyWithFiles ch VhostUserInflight hdr
  let file ← singleFile files
  pure (inflight, file)

def setInflightFd (inflight : VhostUserInflight) (fd : RawFd) : M τ Unit := do
  orThrow (checkProtoFeature (← getNode) VhostUserProtocolFeatures.INFLIGHT_SHMFD)
  if inflight.mmapSize = 0 || inflight.numQueues = 0 || inflight.queueSize = 0 || fd < 0 then throw .invalidParam
  let hdr ← sendRequestWithBody ch .setInflightFd inflight [fd.toNat]
  waitForAck ch hdr

def getMaxMemSlots : M τ UInt64 := do
  orThrow (checkProtoFeature (← getNode) VhostUserProtocolFeatures.CONFIGURE_MEM_SLOTS)
  let hdr ← sendRequestHeader ch .getMaxMemSlots []
  let val ← recvReply ch VhostUserU64 hdr
  pure val.value

def addMemRegion (region : VhostUserMemoryRegionInfo) : M τ Unit := do
  orThrow (checkProtoFeature (← getNode) VhostUserProtocolFeatures.CONFIGURE_MEM_SLOTS)
  if region.memorySize = 0 || region.mmapHandle < 0 then throw .invalidParam
  let hdr ← sendRequestWithBody ch .addMemReg region.toSingleRegion [region.mmapHandle.toNat]
  waitForAck ch hdr

def removeMemRegion (region : VhostUserMemoryRegionInfo) : M τ Unit := do
  orThrow (checkProtoFeature (← getNode) VhostUserProtocolFeatures.CONFIGURE_MEM_SLOTS)
  if region.memorySize = 0 then throw .invalidParam
  let hdr ← sendRequestWithBody ch .remMemReg region.toSingleRegion []
  waitForAck ch hdr

def getShmemConfig : M τ VhostUserShMemConfig := do
  orThrow (checkProtoFeature (← getNode) VhostUserProtocolFeatures.SHMEM)
  let hdr ← sendRequestHeader ch .getShmemConfig []
  recvReply ch VhostUserShMemConfig hdr

def setDeviceStateFd (direction : VhostTransferStateDirection) (phase : VhostTransferStatePhase) (fd : File) :
    M τ (Option File) := do
  orThrow (checkProtoFeature (← getNode) VhostUserProtocolFeatures.DEVICE_STATE)
  let body : VhostUserTransferDeviceState := ⟨direction.code, phase.code⟩
  if !VhostUserMsgValidator.isValid body then throw .invalidParam
  let hdr ← sendRequestWithBody ch .setDeviceStateFd body [fd]
  let (body, files) ← recvReplyWithOptionalFiles ch VhostUserU64 hdr
  if body.value = 0x100 && files.isNone then return none
  if body.value = 0 && files.isSome then
    let file ← singleFile files
    return some file
  throw .backendInternalError

def checkDeviceState : M τ Unit := do
  orThrow (checkProtoFeature (← getNode) VhostUserProtocolFeatures.DEVICE_STATE)
  let hdr ← sendRequestHeader ch .checkDeviceState []
  let body ← recvReply ch VhostUserU64 hdr
  if body.value ≠ 0 then throw .backendInternalError

def postcopyAdvise : M τ File := do
  orThrow (checkProtoFeature (← getNode) VhostUserProtocolFeatures.PAGEFAULT)
  let hdr ← sendRequestHeader ch .postcopyAdvise []
  let (_, files) ← recvReplyWithFiles ch VhostUserEmpty hdr
  singleFile files

def postcopyListen : M τ Unit := do
  orThrow (checkProtoFeature (← getNode) VhostUserProtocolFeatures.PAGEFAULT)
  let hdr ← sendRequestHeader ch .postcopyListen []
  waitForAck ch hdr

def postcopyEnd : M τ Unit := do
  orThrow (checkProtoFeature (← getNode) VhostUserProtocolFeatures.PAGEFAULT)
  let hdr ← sendRequestHeader ch .postcopyEnd []
  waitForAck ch hdr

/-! Running the primitives. -/

@[simp] theorem orThrow_ok_apply (a : α) (x : FrontendCtx τ) : (orThrow (.ok a) : M τ α) x = .ok a x := rfl

@[simp] theorem orThrow_error_apply (e : Error) (x : FrontendCtx τ) :
    (orThrow (.error e) : M τ α) x = .error e x := rfl

@[simp] theorem getNode_apply (x : FrontendCtx τ) : (getNode : M τ _) x = .ok x.node x := rfl

@[simp] theorem sendBytes_apply (bytes : List UInt8) (fds : List File) (x : FrontendCtx τ) :
    sendBytes ch bytes fds x =
      orThrow (ch.send bytes fds x.sock).1 { x with sock := (ch.send bytes fds x.sock).2 } := rfl

@[simp] theorem recvBytes_apply (n : Nat) (x : FrontendCtx τ) :
    recvBytes ch n x = orThrow (ch.recv n x.sock).1 { x with sock := (ch.recv n x.sock).2 } := rfl

theorem keeps_orThrow {γ : Type} {p : FrontendCtx τ → γ} (r : Except Error α) :
    Keeps p (orThrow r : M τ α) := by
  cases r with
  | ok a => exact .pure a
  | error e => exact .throw e

end

end Frontend

end VhostUser
