import VhostUser.Frontend
/-!
# The frontend's operations in two halves

Every method of `Frontend` decides from its arguments and the cached state what to send, sends one
message, and then updates the state and waits for what belongs to the request. `compose` is the
first half, a pure function; `finish` is the second. `run_eq` puts them together again.

| here | there |
| --- | --- |
| `FrontendOp`      | the methods of `VhostBackend` and `VhostUserFrontend` for `Frontend` (`frontend.rs:197-645`) |
| `compose`         | a method up to its send |
| `issue`           | the send: state check, header, one message |
| `finish`          | the rest of the method |
-/
namespace VhostUser
open Bytes EState

/-- One call of a `Frontend` method. -/
inductive FrontendOp where
  | getFeatures
  | setFeatures (features : UInt64)
  | setOwner
  | resetOwner
  | setMemTable (regions : List VhostUserMemoryRegionInfo)
  | setLogBase (base : UInt64) (region : Option VhostUserDirtyLogRegion)
  | setLogFd (fd : RawFd)
  | setVringNum (queueIndex : UInt64) (num : UInt16)
  | setVringAddr (queueIndex : UInt64) (configData : VringConfigData)
  | setVringBase (queueIndex : UInt64) (base : UInt16)
  | getVringBase (queueIndex : UInt64)
  | setVringCall (queueIndex : UInt64) (fd : File)
  | setVringKick (queueIndex : UInt64) (fd : File)
  | setVringErr (queueIndex : UInt64) (fd : File)
  | getProtocolFeatures
  | setProtocolFeatures (features : UInt64)
  | getQueueNum
  | resetDevice
  | setVringEnable (queueIndex : UInt64) (enable : Bool)
  | getConfig (offset size flags : UInt32) (buf : List UInt8)
  | setConfig (offset flags : UInt32) (buf : List UInt8)
  | setBackendRequestFd (fd : File)
  | getSharedObject (uuid : VhostUserSharedMsg)
  | getInflightFd (inflight : VhostUserInflight)
  | setInflightFd (inflight : VhostUserInflight) (fd : RawFd)
  | getMaxMemSlots
  | addMemRegion (region : VhostUserMemoryRegionInfo)
  | removeMemRegion (region : VhostUserMemoryRegionInfo)
  | getShmemConfig
  | setDeviceStateFd (direction : VhostTransferStateDirection) (phase : VhostTransferStatePhase) (fd : File)
  | checkDeviceState
  | postcopyAdvise
  | postcopyListen
  | postcopyEnd
deriving DecidableEq, Repr

/-- A message before its header. -/
structure Outgoing where
  code : FrontendReq
  body : List UInt8
  fds : List File
deriving DecidableEq, Repr

/-- A message is no longer than the protocol allows and has no more files. -/
structure Outgoing.Fits (m : Outgoing) : Prop where
  body_le : m.body.length ≤ maxMsgSize
  fds_le : m.fds.length ≤ maxAttachedFdEntries

theorem Outgoing.Fits.bare (code : FrontendReq) {fds : List File} (h : fds.length ≤ maxAttachedFdEntries) :
    Outgoing.Fits ⟨code, [], fds⟩ := ⟨Nat.zero_le _, h⟩

theorem Outgoing.Fits.withBody {T : Type} [ByteValued T] (hT : ByteValued.size T ≤ maxMsgSize) (code : FrontendReq)
    (msg : T) {fds : List File} (h : fds.length ≤ maxAttachedFdEntries) :
    Outgoing.Fits ⟨code, ByteValued.asSlice msg, fds⟩ :=
  ⟨(ByteValued.length_asSlice msg).trans_le hT, h⟩

/-- Messages as they were handed to the socket. -/
abbrev Log := List (List UInt8 × List File)

/-- A send that also records the messages that went out. -/
def logSend {τ : Type} (send : List UInt8 → List File → τ → Except Error Unit × τ) (bytes : List UInt8)
    (fds : List File) (t : τ × Log) : Except Error Unit × τ × Log :=
  let (r, sock) := send bytes fds t.1
  (r, sock, if r matches .ok () then t.2 ++ [(bytes, fds)] else t.2)

def Channel.logged {τ : Type} (ch : Channel τ) : Channel (τ × Log) where
  send := logSend ch.send
  recv n t :=
    let (r, sock) := ch.recv n t.1
    (r, sock, t.2)

/-- A socket that takes every message and never has an answer. -/
def Channel.mute : Channel Unit where
  send _ _ t := (.ok (), t)
  recv _ t := (.error .disconnected, t)

namespace FrontendOp
open Frontend

section Run
variable {τ : Type} (ch : Channel τ)

/-- The method; its value is dropped. -/
def run : FrontendOp → M τ Unit
  | getFeatures => do let _ ← Frontend.getFeatures ch
  | setFeatures features => Frontend.setFeatures ch features
  | setOwner => Frontend.setOwner ch
  | resetOwner => Frontend.resetOwner ch
  | setMemTable regions => Frontend.setMemTable ch regions
  | setLogBase base region => Frontend.setLogBase ch base region
  | setLogFd fd => Frontend.setLogFd ch fd
  | setVringNum queueIndex num => Frontend.setVringNum ch queueIndex num
  | setVringAddr queueIndex configData => Frontend.setVringAddr ch queueIndex configData
  | setVringBase queueIndex base => Frontend.setVringBase ch queueIndex base
  | getVringBase queueIndex => do let _ ← Frontend.getVringBase ch queueIndex
  | setVringCall queueIndex fd => Frontend.setVringCall ch queueIndex fd
  | setVringKick queueIndex fd => Frontend.setVringKick ch queueIndex fd
  | setVringErr queueIndex fd => Frontend.setVringErr ch queueIndex fd
  | getProtocolFeatures => do let _ ← Frontend.getProtocolFeatures ch
  | setProtocolFeatures features => Frontend.setProtocolFeatures ch features
  | getQueueNum => do let _ ← Frontend.getQueueNum ch
  | resetDevice => Frontend.resetDevice ch
  | setVringEnable queueIndex enable => Frontend.setVringEnable ch queueIndex enable
  | getConfig offset size flags buf => do let _ ← Frontend.getConfig ch offset size flags buf
  | setConfig offset flags buf => Frontend.setConfig ch offset flags buf
  | setBackendRequestFd fd => Frontend.setBackendRequestFd ch fd
  | getSharedObject uuid => do let _ ← Frontend.getSharedObject ch uuid
  | getInflightFd inflight => do let _ ← Frontend.getInflightFd ch inflight
  | setInflightFd inflight fd => Frontend.setInflightFd ch inflight fd
  | getMaxMemSlots => do let _ ← Frontend.getMaxMemSlots ch
  | addMemRegion region => Frontend.addMemRegion ch region
  | removeMemRegion region => Frontend.removeMemRegion ch region
  | getShmemConfig => do let _ ← Frontend.getShmemConfig ch
  | setDeviceStateFd direction phase fd => do let _ ← Frontend.setDeviceStateFd ch direction phase fd
  | checkDeviceState => Frontend.checkDeviceState ch
  | postcopyAdvise => do let _ ← Frontend.postcopyAdvise ch
  | postcopyListen => Frontend.postcopyListen ch
  | postcopyEnd => Frontend.postcopyEnd ch

end Run

/-! ## Before the send -/

/-- `attach` without the state. -/
def fileOf (node : FrontendInternal) (fd : RawFd) : Except Error File := do
  checkState node
  if fd < 0 then throw (Error.fromErrno EBADF)
  pure fd.toNat

def queueOk (node : FrontendInternal) (queueIndex : UInt64) : Except Error Unit :=
  if queueIndex ≥ node.maxQueueNum then .error .invalidParam else .ok ()

/-- A message with a body and a payload, both together of limited size. -/
def payloadOk (size len : Nat) : Except Error Unit := if size + len > maxMsgSize then .error .invalidParam else .ok ()

def compose (node : FrontendInternal) : FrontendOp → Except Error Outgoing
  | getFeatures => pure ⟨.getFeatures, [], []⟩
  | setFeatures features => pure ⟨.setFeatures, ByteValued.asSlice (⟨features⟩ : VhostUserU64), []⟩
  | setOwner => pure ⟨.setOwner, [], []⟩
  | resetOwner => pure ⟨.resetOwner, [], []⟩
  | setMemTable regions => do
    if regions.isEmpty || regions.length > maxAttachedFdEntries then throw .invalidParam
    if regions.any fun r => r.memorySize == 0 || r.mmapHandle < 0 then throw .invalidParam
    pure ⟨.setMemTable, ByteValued.asSlice (⟨UInt32.ofNat regions.length, 0⟩ : VhostUserMemory) ++
      regions.flatMap fun r => ByteValued.asSlice r.toRegion, regions.map fun r => r.mmapHandle.toNat⟩
  | setLogBase base region =>
    match region with
    | some region =>
      if node.ackedProtocolFeatures &&& VhostUserProtocolFeatures.LOG_SHMFD ≠ 0 then do
        let fd ← fileOf node region.mmapHandle
        pure ⟨.setLogBase, ByteValued.asSlice (⟨region.mmapSize, region.mmapOffset⟩ : VhostUserLog), [fd]⟩
      else pure ⟨.setLogBase, ByteValued.asSlice (⟨base⟩ : VhostUserU64), []⟩
    | none => pure ⟨.setLogBase, ByteValued.asSlice (⟨base⟩ : VhostUserU64), []⟩
  | setLogFd fd => do
    let fd ← fileOf node fd
    pure ⟨.setLogFd, [], [fd]⟩
  | setVringNum queueIndex num => do
    queueOk node queueIndex
    pure ⟨.setVringNum, ByteValued.asSlice (⟨queueIndex.toUInt32, num.toUInt32⟩ : VhostUserVringState), []⟩
  | setVringAddr queueIndex configData => do
    if queueIndex ≥ node.maxQueueNum || (configData.flags &&& ~~~vhostUserVringAddrFlagsAll) != 0 then
      throw .invalidParam
    pure ⟨.setVringAddr, ByteValued.asSlice (VhostUserVringAddr.fromConfigData queueIndex.toUInt32 configData), []⟩
  | setVringBase queueIndex base => do
    queueOk node queueIndex
    pure ⟨.setVringBase, ByteValued.asSlice (⟨queueIndex.toUInt32, base.toUInt32⟩ : VhostUserVringState), []⟩
  | getVringBase queueIndex => do
    queueOk node queueIndex
    pure ⟨.getVringBase, ByteValued.asSlice (⟨queueIndex.toUInt32, 0⟩ : VhostUserVringState), []⟩
  | setVringCall queueIndex fd => do
    queueOk node queueIndex
    pure ⟨.setVringCall, ByteValued.asSlice (⟨queueIndex⟩ : VhostUserU64), [fd]⟩
  | setVringKick queueIndex fd => do
    queueOk node queueIndex
    pure ⟨.setVringKick, ByteValued.asSlice (⟨queueIndex⟩ : VhostUserU64), [fd]⟩
  | setVringErr queueIndex fd => do
    queueOk node queueIndex
    pure ⟨.setVringErr, ByteValued.asSlice (⟨queueIndex⟩ : VhostUserU64), [fd]⟩
  | getProtocolFeatures => do
    checkFeature node VhostUserVirtioFeatures.PROTOCOL_FEATURES
    pure ⟨.getProtocolFeatures, [], []⟩
  | setProtocolFeatures features => do
    checkFeature node VhostUserVirtioFeatures.PROTOCOL_FEATURES
    pure ⟨.setProtocolFeatures, ByteValued.asSlice (⟨features⟩ : VhostUserU64), []⟩
  | getQueueNum => do
    checkProtoFeature node VhostUserProtocolFeatures.MQ
    pure ⟨.getQueueNum, [], []⟩
  | resetDevice => do
    checkProtoFeature node VhostUserProtocolFeatures.RESET_DEVICE
    pure ⟨.resetDevice, [], []⟩
  | setVringEnable queueIndex enable => do
    if node.ackedVirtioFeatures &&& VhostUserVirtioFeatures.PROTOCOL_FEATURES = 0 then
      throw (.inactiveFeature VhostUserVirtioFeatures.PROTOCOL_FEATURES)
    queueOk node queueIndex
    pure ⟨.setVringEnable, ByteValued.asSlice
      (⟨queueIndex.toUInt32, if enable then 1 else 0⟩ : VhostUserVringState), []⟩
  | getConfig offset size flags buf => do
    if !VhostUserMsgValidator.isValid (⟨offset, size, flags⟩ : VhostUserConfig) then throw .invalidParam
    checkProtoFeature node VhostUserProtocolFeatures.CONFIG
    payloadOk (ByteValued.size VhostUserConfig) buf.length
    pure ⟨.getConfig, ByteValued.asSlice (⟨offset, size, flags⟩ : VhostUserConfig) ++ buf, []⟩
  | setConfig offset flags buf => do
    if buf.length > maxMsgSize then throw .invalidParam
    if !VhostUserMsgValidator.isValid (⟨offset, UInt32.ofNat buf.length, flags⟩ : VhostUserConfig) then
      throw .invalidParam
    checkProtoFeature node VhostUserProtocolFeatures.CONFIG
    payloadOk (ByteValued.size VhostUserConfig) buf.length
    pure ⟨.setConfig, ByteValued.asSlice (⟨offset, UInt32.ofNat buf.length, flags⟩ : VhostUserConfig) ++ buf, []⟩
  | setBackendRequestFd fd => do
    checkProtoFeature node VhostUserProtocolFeatures.BACKEND_REQ
    pure ⟨.setBackendReqFd, [], [fd]⟩
  | getSharedObject uuid => do
    checkProtoFeature node VhostUserProtocolFeatures.SHARED_OBJECT
    if !VhostUserMsgValidator.isValid uuid then throw .invalidParam
    pure ⟨.getSharedObject, ByteValued.asSlice uuid, []⟩
  | getInflightFd inflight => do
    checkProtoFeature node VhostUserProtocolFeatures.INFLIGHT_SHMFD
    pure ⟨.getInflightFd, ByteValued.asSlice inflight, []⟩
  | setInflightFd inflight fd => do
    checkProtoFeature node VhostUserProtocolFeatures.INFLIGHT_SHMFD
    if inflight.mmapSize = 0 || inflight.numQueues = 0 || inflight.queueSize = 0 || fd < 0 then throw .invalidParam
    pure ⟨.setInflightFd, ByteValued.asSlice inflight, [fd.toNat]⟩
  | getMaxMemSlots => do
    checkProtoFeature node VhostUserProtocolFeatures.CONFIGURE_MEM_SLOTS
    pure ⟨.getMaxMemSlots, [], []⟩
  | addMemRegion region => do
    checkProtoFeature node VhostUserProtocolFeatures.CONFIGURE_MEM_SLOTS
    if region.memorySize = 0 || region.mmapHandle < 0 then throw .invalidParam
    pure ⟨.addMemReg, ByteValued.asSlice region.toSingleRegion, [region.mmapHandle.toNat]⟩
  | removeMemRegion region => do
    checkProtoFeature node VhostUserProtocolFeatures.CONFIGURE_MEM_SLOTS
    if region.memorySize = 0 then throw .invalidParam
    pure ⟨.remMemReg, ByteValued.asSlice region.toSingleRegion, []⟩
  | getShmemConfig => do
    checkProtoFeature node VhostUserProtocolFeatures.SHMEM
    pure ⟨.getShmemConfig, [], []⟩
  | setDeviceStateFd direction phase fd => do
    checkProtoFeature node VhostUserProtocolFeatures.DEVICE_STATE
    pure ⟨.setDeviceStateFd, ByteValued.asSlice (⟨direction.code, phase.code⟩ : VhostUserTransferDeviceState), [fd]⟩
  | checkDeviceState => do
    checkProtoFeature node VhostUserProtocolFeatures.DEVICE_STATE
    pure ⟨.checkDeviceState, [], []⟩
  | postcopyAdvise => do
    checkProtoFeature node VhostUserProtocolFeatures.PAGEFAULT
    pure ⟨.postcopyAdvise, [], []⟩
  | postcopyListen => do
    checkProtoFeature node VhostUserProtocolFeatures.PAGEFAULT
    pure ⟨.postcopyListen, [], []⟩
  | postcopyEnd => do
    checkProtoFeature node VhostUserProtocolFeatures.PAGEFAULT
    pure ⟨.postcopyEnd, [], []⟩

/-! ## From the send on -/

/-- The header a message goes out with. -/
def headerOf (node : FrontendInternal) (m : Outgoing) : VhostUserMsgHeader FrontendReq :=
  newRequestHeader node m.code (UInt32.ofNat m.body.length)

section Finish
variable {τ : Type} (ch : Channel τ)

def issue (m : Outgoing) : M τ (VhostUserMsgHeader FrontendReq) := do
  let node ← getNode
  orThrow (checkState node)
  let hdr := headerOf node m
  Frontend.sendBytes ch (ByteValued.asSlice hdr ++ m.body) m.fds
  pure hdr

def finish (hdr : VhostUserMsgHeader FrontendReq) : FrontendOp → M τ Unit
  | getFeatures => do
    let val ← recvReply ch VhostUserU64 hdr
    modNode fun node => { node with virtioFeatures := val.value }
  | setFeatures features => do
    modNode fun node => { node with ackedVirtioFeatures := features &&& node.virtioFeatures }
    waitForAck ch hdr
  | setLogBase _ region => do
    let node ← getNode
    if region.isSome && node.ackedProtocolFeatures &&& VhostUserProtocolFeatures.LOG_SHMFD ≠ 0 then
      let _ ← recvReply ch VhostUserLog hdr
  | getVringBase _ => do let _ ← recvReply ch VhostUserVringState hdr
  | getProtocolFeatures => do
    let val ← recvReply ch VhostUserU64 hdr
    modNode fun node => { node with protocolFeatures := val.value }
  | setProtocolFeatures features => do
    modNode fun node => { node with ackedProtocolFeatures := features, protocolFeaturesReady := true }
    waitForAck ch hdr
  | getQueueNum => do
    let val ← recvReply ch VhostUserU64 hdr
    if val.value > vhostUserMaxVrings then throw .invalidMessage
    modNode fun node => { node with maxQueueNum := val.value }
  | getConfig offset size _ buf => do
    let (bodyReply, _, rfds) ← recvReplyWithPayload ch VhostUserConfig hdr
    if rfds.isSome then throw .invalidMessage
    if bodyReply.size = 0 then throw .backendInternalError
    if bodyReply.size ≠ size || bodyReply.size.toNat ≠ buf.length || bodyReply.offset ≠ offset then
      throw .invalidMessage
  | getSharedObject _ | postcopyAdvise => do
    let (_, files) ← recvReplyWithFiles ch VhostUserEmpty hdr
    let _ ← singleFile files
  | getInflightFd _ => do
    let (_, files) ← recvReplyWithFiles ch VhostUserInflight hdr
    let _ ← singleFile files
  | getMaxMemSlots => do let _ ← recvReply ch VhostUserU64 hdr
  | getShmemConfig => do let _ ← recvReply ch VhostUserShMemConfig hdr
  | setDeviceStateFd .. => do
    let (body, files) ← recvReplyWithOptionalFiles ch VhostUserU64 hdr
    if body.value = 0x100 && files.isNone then pure ()
    else if body.value = 0 && files.isSome then let _ ← singleFile files
    else throw .backendInternalError
  | checkDeviceState => do
    let body ← recvReply ch VhostUserU64 hdr
    if body.value ≠ 0 then throw .backendInternalError
  | _ => waitForAck ch hdr

end Finish

/-- What `finish` may do to the cached state. -/
inductive Writes : FrontendOp → (FrontendInternal → FrontendInternal) → Prop where
  | features (v : UInt64) : Writes getFeatures fun node => { node with virtioFeatures := v }
  | ackedFeatures (v : UInt64) :
    Writes (setFeatures v) fun node => { node with ackedVirtioFeatures := v &&& node.virtioFeatures }
  | protocolFeatures (v : UInt64) : Writes getProtocolFeatures fun node => { node with protocolFeatures := v }
  | ackedProtocolFeatures (v : UInt64) : Writes (setProtocolFeatures v) fun node =>
      { node with ackedProtocolFeatures := v, protocolFeaturesReady := true }
  | queueNum (v : UInt64) : Writes getQueueNum fun node => { node with maxQueueNum := v }

/-! ## The two halves make the method -/

section RunEq
variable {τ α : Type} (ch : Channel τ)

theorem sendRequestHeader_eq (code : FrontendReq) (fds : List File) :
    sendRequestHeader ch code fds = issue ch ⟨code, [], fds⟩ := by
  unfold sendRequestHeader issue headerOf
  simp only [List.length_nil, List.append_nil]
  rfl

theorem sendRequestWithBody_eq {T : Type} [ByteValued T] (hT : ByteValued.size T ≤ maxMsgSize) (code : FrontendReq)
    (msg : T) (fds : List File) :
    sendRequestWithBody ch code msg fds = issue ch ⟨code, ByteValued.asSlice msg, fds⟩ := by
  unfold sendRequestWithBody issue headerOf
  rw [if_neg (by omega)]
  simp only [ByteValued.length_asSlice]

theorem sendRequestWithPayload_eq {T : Type} [ByteValued T] (code : FrontendReq) (msg : T) (payload : List UInt8)
    {fds : List File} (hfds : fds.length ≤ maxAttachedFdEntries) :
    sendRequestWithPayload ch code msg payload fds = (do
      orThrow (payloadOk (ByteValued.size T) payload.length)
      issue ch ⟨code, ByteValued.asSlice msg ++ payload, fds⟩) := by
  have hfds' : ¬fds.length > maxAttachedFdEntries := by omega
  unfold sendRequestWithPayload payloadOk issue headerOf
  by_cases hlen : ByteValued.size T + payload.length > maxMsgSize
  · simp only [hlen, if_true]
    rfl
  · simp only [hlen, hfds', if_false, List.length_append, ByteValued.length_asSlice]
    rfl

/-- Sending leaves the cached state alone. -/
theorem keeps_issue_node (m : Outgoing) : Keeps FrontendCtx.node (issue ch m) := by
  refine .bind (fun _ => rfl) fun node => .bind (keeps_orThrow _) fun _ => ?_
  refine .bind (fun x => ?_) fun _ => .pure _
  exact keeps_orThrow _ { x with sock := _ }

theorem orThrow_bind {γ δ : Type} (g : Except Error γ) (f : γ → Except Error δ) :
    (orThrow (g >>= f) : M τ δ) = (do let a ← orThrow g; orThrow (f a)) := by
  cases g with
  | ok a => rfl
  | error e => rfl

/-- A guard before a message. -/
theorem orThrow_guard {γ : Type} (g : Except Error Unit) (m : γ) (k : γ → M τ α) :
    ((orThrow (g >>= fun _ => pure m) : M τ γ) >>= k) = (do orThrow g; k m) := by
  cases g with
  | ok u => rfl
  | error e => rfl

theorem checkQueue_eq (queueIndex : UInt64) :
    (checkQueue queueIndex : M τ Unit) = (do orThrow (queueOk (← getNode) queueIndex)) := by
  funext x
  simp only [checkQueue, bind_apply, getNode_apply, queueOk]
  split
  · rfl
  · rfl

theorem attach_eq (fd : RawFd) : (attach fd : M τ File) = (do orThrow (fileOf (← getNode) fd)) := by
  refine bind_congr fun node => ?_
  rw [fileOf, orThrow_bind]
  refine bind_congr fun _ => ?_
  split
  · rfl
  · rfl

theorem setVringFd_eq (code : FrontendReq) (queueIndex : UInt64) (fd : File) :
    setVringFd ch code queueIndex fd = (do
      let node ← getNode
      orThrow (queueOk node queueIndex)
      let hdr ← issue ch ⟨code, ByteValued.asSlice (⟨queueIndex⟩ : VhostUserU64), [fd]⟩
      waitForAck ch hdr) := by
  have hlen : (ByteValued.asSlice (⟨queueIndex⟩ : VhostUserU64)).length = 8 := ByteValued.length_asSlice _
  funext x
  simp only [setVringFd, sendFdForVring, issue, headerOf, hlen, queueOk, bind_apply, getNode_apply]
  by_cases hmax : queueIndex ≥ x.node.maxQueueNum
  · simp [hmax, throw_apply, bind_apply]
  · simp only [hmax, if_false, bind_apply, getNode_apply, orThrow_ok_apply]
    rfl

theorem run_eq (op : FrontendOp) :
    op.run ch = (do
      let m ← orThrow (op.compose (← getNode))
      let hdr ← issue ch m
      op.finish ch hdr) := by
  cases op with
  | getFeatures =>
    simp only [run, Frontend.getFeatures, compose, sendRequestHeader_eq, bind_assoc]
    rfl
  | setOwner | resetOwner =>
    simp only [run, Frontend.setOwner, Frontend.resetOwner, compose, sendRequestHeader_eq]
    rfl
  | setFeatures features =>
    simp (disch := decide) only [run, Frontend.setFeatures, compose, sendRequestWithBody_eq]
    rfl
  | resetDevice | setBackendRequestFd fd | postcopyListen | postcopyEnd =>
    simp only [run, Frontend.resetDevice, Frontend.setBackendRequestFd, Frontend.postcopyListen,
      Frontend.postcopyEnd, compose, sendRequestHeader_eq, orThrow_guard]
    rfl
  | getMaxMemSlots | getShmemConfig | checkDeviceState | postcopyAdvise =>
    simp only [run, Frontend.getMaxMemSlots, Frontend.getShmemConfig, Frontend.checkDeviceState,
      Frontend.postcopyAdvise, compose, sendRequestHeader_eq, orThrow_guard, bind_assoc]
    rfl
  | getProtocolFeatures =>
    simp only [run, Frontend.getProtocolFeatures, compose, sendRequestHeader_eq, orThrow_guard, bind_assoc]
    rfl
  | getQueueNum =>
    unfold finish
    simp only [run, Frontend.getQueueNum, compose, sendRequestHeader_eq, orThrow_guard, bind_assoc]
    refine bind_congr fun node => bind_congr fun _ => bind_congr fun hdr => bind_congr fun val => ?_
    split
    · rfl
    · rfl
  | setProtocolFeatures features =>
    simp (disch := decide) only [run, Frontend.setProtocolFeatures, compose, sendRequestWithBody_eq, orThrow_guard]
    rfl
  | getInflightFd inflight =>
    simp (disch := decide) only [run, Frontend.getInflightFd, compose, sendRequestWithBody_eq, orThrow_guard,
      bind_assoc]
    rfl
  | setVringNum queueIndex num | setVringBase queueIndex base | getVringBase queueIndex =>
    simp (disch := decide) only [run, Frontend.setVringNum, Frontend.setVringBase, Frontend.getVringBase, compose,
      sendRequestWithBody_eq, orThrow_guard, checkQueue_eq, bind_assoc]
    rfl
  | setVringCall queueIndex fd | setVringKick queueIndex fd | setVringErr queueIndex fd =>
    simp only [run, Frontend.setVringCall, Frontend.setVringKick, Frontend.setVringErr, setVringFd_eq, compose,
      orThrow_guard]
    rfl
  | setMemTable regions =>
    simp only [run, Frontend.setMemTable, compose]
    by_cases hnum : (regions.isEmpty || regions.length > maxAttachedFdEntries) = true
    · simp only [hnum, if_true]
      rfl
    · have hlen : regions.length ≤ maxAttachedFdEntries := by
        simp only [Bool.or_eq_true, decide_eq_true_eq, not_or] at hnum
        omega
      have hfds : (regions.map fun r => r.mmapHandle.toNat).length ≤ maxAttachedFdEntries := by
        rwa [List.length_map]
      have hpayload : payloadOk (ByteValued.size VhostUserMemory)
          (regions.flatMap fun r => ByteValued.asSlice r.toRegion).length = .ok () := by
        rw [length_flatMap_asSlice]
        exact if_neg (not_lt.2 (Nat.add_le_add_left (Nat.mul_le_mul_right 32 hlen) 8 |>.trans (by decide)))
      simp only [hnum, Bool.false_eq_true, if_false, sendRequestWithPayload_eq ch _ _ _ hfds, hpayload]
      split
      · rfl
      · rfl
  | setLogBase base region =>
    funext x
    simp (disch := decide) only [run, Frontend.setLogBase, compose, sendRequestWithBody_eq]
    rw [bind_of_ok (getNode_apply x), bind_of_ok (getNode_apply x)]
    -- `finish` looks at the protocol word again; sending did not change it
    cases region with
    | none => rfl
    | some region =>
      by_cases hlog : x.node.ackedProtocolFeatures &&& VhostUserProtocolFeatures.LOG_SHMFD ≠ 0
      · dsimp only
        rw [if_pos hlog, if_pos hlog, attach_eq, orThrow_bind, bind_assoc, bind_assoc,
          bind_of_ok (getNode_apply x)]
        refine (keeps_orThrow (p := FrontendCtx.node) _).bind_congr fun fd y hy => ?_
        refine (keeps_issue_node ch _).bind_congr fun hdr z hz => ?_
        unfold finish
        dsimp only
        rw [bind_of_ok (getNode_apply z), hz, hy, if_pos (by simpa using hlog)]
      · dsimp only
        rw [if_neg hlog, if_neg hlog]
        refine (keeps_issue_node ch _).bind_congr fun hdr z hz => ?_
        unfold finish
        dsimp only
        rw [bind_of_ok (getNode_apply z), hz, if_neg (by simpa using hlog)]
  | setLogFd fd =>
    simp only [run, Frontend.setLogFd, compose, sendRequestHeader_eq, attach_eq, orThrow_bind, bind_assoc]
    rfl
  | setVringAddr queueIndex configData =>
    simp (disch := decide) only [run, Frontend.setVringAddr, compose, sendRequestWithBody_eq]
    refine bind_congr fun node => ?_
    split
    · rfl
    · rfl
  | setVringEnable queueIndex enable =>
    simp (disch := decide) only [run, Frontend.setVringEnable, compose, sendRequestWithBody_eq, queueOk]
    refine bind_congr fun node => ?_
    split
    · rfl
    · split
      · rfl
      · rfl
  | getConfig offset size flags buf =>
    have hfds : ([] : List File).length ≤ maxAttachedFdEntries := Nat.zero_le _
    simp only [run, Frontend.getConfig, compose, sendRequestWithPayload_eq ch _ _ _ hfds]
    split
    · rfl
    · simp only [orThrow_bind, bind_assoc]
      refine bind_congr fun node => bind_congr fun _ => bind_congr fun _ => bind_congr fun hdr => bind_congr fun r => ?_
      obtain ⟨bodyReply, bufReply, rfds⟩ := r
      dsimp only [finish]
      by_cases hfiles : rfds.isSome = true
      · simp only [hfiles, if_true]
        rfl
      · by_cases hsize : bodyReply.size = 0
        · simp only [hfiles, hsize, if_true]
          rfl
        · simp only [hfiles, hsize, Bool.false_eq_true, if_false]
          split
          · rfl
          · rfl
  | setConfig offset flags buf =>
    have hfds : ([] : List File).length ≤ maxAttachedFdEntries := Nat.zero_le _
    simp only [run, Frontend.setConfig, compose, sendRequestWithPayload_eq ch _ _ _ hfds]
    split
    · rfl
    · split
      · rfl
      · simp only [orThrow_bind, bind_assoc]
        rfl
  | getSharedObject uuid =>
    simp (disch := decide) only [run, Frontend.getSharedObject, compose, sendRequestWithBody_eq, orThrow_bind,
      bind_assoc]
    refine bind_congr fun node => bind_congr fun _ => ?_
    split
    · rfl
    · simp only [bind_assoc]
      rfl
  | setInflightFd inflight fd =>
    simp (disch := decide) only [run, Frontend.setInflightFd, compose, sendRequestWithBody_eq, orThrow_bind,
      bind_assoc]
    refine bind_congr fun node => bind_congr fun _ => ?_
    split
    · rfl
    · rfl
  | addMemRegion region | removeMemRegion region =>
    simp (disch := decide) only [run, Frontend.addMemRegion, Frontend.removeMemRegion, compose,
      sendRequestWithBody_eq, orThrow_bind, bind_assoc]
    refine bind_congr fun node => bind_congr fun _ => ?_
    split
    · rfl
    · rfl
  | setDeviceStateFd direction phase fd =>
    have hvalid : VhostUserMsgValidator.isValid (⟨direction.code, phase.code⟩ : VhostUserTransferDeviceState) = true := by
      cases direction <;> cases phase <;> rfl
    simp (disch := decide) only [run, Frontend.setDeviceStateFd, compose, sendRequestWithBody_eq, orThrow_bind,
      bind_assoc, hvalid, Bool.not_true, Bool.false_eq_true, if_false]
    refine bind_congr fun node => bind_congr fun _ => bind_congr fun hdr => bind_congr fun r => ?_
    obtain ⟨body, files⟩ := r
    by_cases hnone : (body.value = 0x100 && files.isNone) = true
    · simp only [hnone, if_true]
      rfl
    · by_cases hsome : (body.value = 0 && files.isSome) = true
      · simp only [hnone, hsome, if_true, if_false, Bool.false_eq_true, bind_assoc]
        rfl
      · simp only [hnone, hsome]
        rfl

end RunEq

/-! ## What an operation puts on the socket -/

theorem guard_ok {g : Except Error Unit} {m m' : Outgoing} (h : (g >>= fun _ => pure m') = .ok m) :
    g = .ok () ∧ m = m' := by
  cases g with
  | ok _ => exact ⟨rfl, (Except.ok.inj h).symm⟩
  | error e => cases h

theorem payloadOk_ok {size len : Nat} (h : payloadOk size len = .ok ()) : size + len ≤ maxMsgSize := by
  unfold payloadOk at h
  split at h
  · cases h
  · omega

theorem setMemTable_ok {node : FrontendInternal} {regions : List VhostUserMemoryRegionInfo} {m : Outgoing}
    (h : (setMemTable regions).compose node = .ok m) :
    1 ≤ regions.length ∧ regions.length ≤ maxAttachedFdEntries ∧ (∀ r ∈ regions, 0 ≤ r.mmapHandle) ∧
      m = ⟨.setMemTable, ByteValued.asSlice (⟨UInt32.ofNat regions.length, 0⟩ : VhostUserMemory) ++
        regions.flatMap fun r => ByteValued.asSlice r.toRegion, regions.map fun r => r.mmapHandle.toNat⟩ := by
  simp only [compose] at h
  split at h
  · cases h
  · rename_i hnum
    split at h
    · cases h
    · rename_i hregion
      cases h
      simp only [Bool.or_eq_true, List.isEmpty_iff, decide_eq_true_eq, not_or, gt_iff_lt, not_lt] at hnum
      refine ⟨List.length_pos_iff.2 hnum.1, hnum.2, fun r hr => ?_, rfl⟩
      simp only [List.any_eq_true, Bool.or_eq_true, decide_eq_true_eq, not_exists, not_and, not_or] at hregion
      exact not_lt.1 (hregion r hr).2

theorem getConfig_ok {node : FrontendInternal} {m : Outgoing} {offset size flags : UInt32} {buf : List UInt8}
    (hm : (getConfig offset size flags buf).compose node = .ok m) :
    VhostUserMsgValidator.isValid (⟨offset, size, flags⟩ : VhostUserConfig) = true ∧
      checkProtoFeature node VhostUserProtocolFeatures.CONFIG = .ok () ∧
      payloadOk (ByteValued.size VhostUserConfig) buf.length = .ok () ∧
      m = ⟨.getConfig, ByteValued.asSlice (⟨offset, size, flags⟩ : VhostUserConfig) ++ buf, []⟩ := by
  simp only [compose] at hm
  split at hm
  · cases hm
  · rename_i hvalid
    obtain ⟨_, hfeature, hm⟩ := except_bind_ok hm
    obtain ⟨hpayload, rfl⟩ := guard_ok hm
    exact ⟨by simpa using hvalid, hfeature, hpayload, rfl⟩

theorem setConfig_ok {node : FrontendInternal} {m : Outgoing} {offset flags : UInt32} {buf : List UInt8}
    (hm : (setConfig offset flags buf).compose node = .ok m) :
    checkProtoFeature node VhostUserProtocolFeatures.CONFIG = .ok () ∧
      payloadOk (ByteValued.size VhostUserConfig) buf.length = .ok () ∧
      m = ⟨.setConfig, ByteValued.asSlice (⟨offset, UInt32.ofNat buf.length, flags⟩ : VhostUserConfig) ++ buf, []⟩ := by
  simp only [compose] at hm
  split at hm
  · cases hm
  · split at hm
    · cases hm
    · obtain ⟨_, hfeature, hm⟩ := except_bind_ok hm
      obtain ⟨hpayload, rfl⟩ := guard_ok hm
      exact ⟨hfeature, hpayload, rfl⟩

theorem compose_fits {op : FrontendOp} {node : FrontendInternal} {m : Outgoing} (h : op.compose node = .ok m) :
    m.Fits := by
  have hnone : ([] : List File).length ≤ maxAttachedFdEntries := by decide
  have hone (fd : File) : [fd].length ≤ maxAttachedFdEntries := Nat.le_add_left 1 31
  cases op with
  | setMemTable regions =>
    obtain ⟨-, hlen, -, rfl⟩ := setMemTable_ok h
    refine ⟨?_, by rwa [List.length_map]⟩
    rw [List.length_append, ByteValued.length_asSlice, length_flatMap_asSlice]
    exact Nat.add_le_add_left (Nat.mul_le_mul_right 32 hlen) 8 |>.trans (by decide)
  | getFeatures | setOwner | resetOwner => cases h; exact .bare _ hnone
  | setFeatures _ => cases h; exact .withBody (by decide) _ _ hnone
  | getProtocolFeatures | getQueueNum | resetDevice | getMaxMemSlots | getShmemConfig | checkDeviceState
  | postcopyAdvise | postcopyListen | postcopyEnd =>
    obtain ⟨-, rfl⟩ := guard_ok h
    exact .bare _ hnone
  | setBackendRequestFd fd =>
    obtain ⟨-, rfl⟩ := guard_ok h
    exact .bare _ (hone fd)
  | setVringNum _ _ | setVringBase _ _ | getVringBase _ | setProtocolFeatures _ | getInflightFd _ =>
    obtain ⟨-, rfl⟩ := guard_ok h
    exact .withBody (by decide) _ _ hnone
  | setVringCall _ fd | setVringKick _ fd | setVringErr _ fd | setDeviceStateFd _ _ fd =>
    obtain ⟨-, rfl⟩ := guard_ok h
    exact .withBody (by decide) _ _ (hone fd)
  | setVringAddr queueIndex configData =>
    simp only [compose] at h
    split at h
    · cases h
    · cases h
      exact .withBody (by decide) _ _ hnone
  | setLogBase base region =>
    cases region with
    | none => cases h; exact .withBody (by decide) _ _ hnone
    | some region =>
      simp only [compose] at h
      split at h
      · obtain ⟨fd, -, h⟩ := except_bind_ok h
        cases h
        exact .withBody (by decide) _ _ (hone fd)
      · cases h
        exact .withBody (by decide) _ _ hnone
  | setLogFd fd =>
    obtain ⟨fd, -, h⟩ := except_bind_ok h
    cases h
    exact .bare _ (hone fd)
  | setVringEnable queueIndex enable =>
    simp only [compose] at h
    split at h
    · cases h
    · obtain ⟨-, rfl⟩ := guard_ok h
      exact .withBody (by decide) _ _ hnone
  | getConfig offset size flags buf =>
    obtain ⟨-, -, hlen, rfl⟩ := getConfig_ok h
    refine ⟨?_, hnone⟩
    rw [List.length_append, ByteValued.length_asSlice]
    exact payloadOk_ok hlen
  | setConfig offset flags buf =>
    obtain ⟨-, hlen, rfl⟩ := setConfig_ok h
    refine ⟨?_, hnone⟩
    rw [List.length_append, ByteValued.length_asSlice]
    exact payloadOk_ok hlen
  | getSharedObject uuid | removeMemRegion region =>
    obtain ⟨-, -, h⟩ := except_bind_ok h
    split at h
    · cases h
    · cases h
      exact .withBody (by decide) _ _ hnone
  | setInflightFd inflight fd | addMemRegion region =>
    obtain ⟨-, -, h⟩ := except_bind_ok h
    split at h
    · cases h
    · cases h
      exact .withBody (by decide) _ _ (hone _)

theorem isValid_headerOf (node : FrontendInternal) {m : Outgoing} (h : m.Fits) :
    (headerOf node m).getSize.toNat = m.body.length ∧ (headerOf node m).isValid = true := by
  have hmax : maxMsgSize = 4096 := rfl
  have hsize : (UInt32.ofNat m.body.length).toNat = m.body.length := by
    have := h.body_le
    rw [UInt32.toNat_ofNat']
    omega
  exact ⟨hsize, VhostUserMsgHeader.isValid_new _ _ (hsize.trans_le h.body_le)⟩

/-! The second half only receives. -/

section Keeps
variable {τ γ : Type} {ch : Channel τ} {p : FrontendCtx τ → γ}

theorem keeps_recvBytes (hrecv : ∀ n x, p { x with sock := (ch.recv n x.sock).2 } = p x) (n : Nat) :
    Keeps p (recvBytes ch n) := by
  intro x
  rw [recvBytes_apply]
  exact (keeps_orThrow _ { x with sock := _ }).trans (hrecv n x)

theorem keeps_recvBody {T : Type} [ByteValued T] [VhostUserMsgValidator T]
    (hrecv : ∀ n x, p { x with sock := (ch.recv n x.sock).2 } = p x) : Keeps p (Frontend.recvBody ch T) :=
  .bind (keeps_recvBytes hrecv _) fun _ => .check (.check (.pure _))

theorem keeps_recvReply {T : Type} [ByteValued T] [VhostUserMsgValidator T]
    (hrecv : ∀ n x, p { x with sock := (ch.recv n x.sock).2 } = p x) (hdr : VhostUserMsgHeader FrontendReq) :
    Keeps p (recvReply ch T hdr) := by
  refine .check (.bind (fun _ => rfl) fun _ => .bind (keeps_orThrow _) fun _ => ?_)
  exact .bind (keeps_recvBody hrecv) fun _ => .check (.pure _)

theorem keeps_recvReplyWithOptionalFiles {T : Type} [ByteValued T] [VhostUserMsgValidator T]
    (hrecv : ∀ n x, p { x with sock := (ch.recv n x.sock).2 } = p x) (hdr : VhostUserMsgHeader FrontendReq) :
    Keeps p (recvReplyWithOptionalFiles ch T hdr) := by
  refine .check (.bind (fun _ => rfl) fun _ => .bind (keeps_orThrow _) fun _ => ?_)
  exact .bind (keeps_recvBody hrecv) fun _ => .check (.pure _)

theorem keeps_recvReplyWithFiles {T : Type} [ByteValued T] [VhostUserMsgValidator T]
    (hrecv : ∀ n x, p { x with sock := (ch.recv n x.sock).2 } = p x) (hdr : VhostUserMsgHeader FrontendReq) :
    Keeps p (recvReplyWithFiles ch T hdr) :=
  .bind (keeps_recvReplyWithOptionalFiles hrecv hdr) fun _ => .check (.pure _)

theorem keeps_recvReplyWithPayload {T : Type} [ByteValued T] [VhostUserMsgValidator T]
    (hrecv : ∀ n x, p { x with sock := (ch.recv n x.sock).2 } = p x) (hdr : VhostUserMsgHeader FrontendReq) :
    Keeps p (recvReplyWithPayload ch T hdr) := by
  refine .check (.bind (fun _ => rfl) fun _ => .bind (keeps_orThrow _) fun _ => ?_)
  refine .bind (.bind (keeps_recvBytes hrecv _) fun _ => .check (.check (.pure _))) fun _ => .check (.pure _)

theorem keeps_waitForAck (hrecv : ∀ n x, p { x with sock := (ch.recv n x.sock).2 } = p x)
    (hdr : VhostUserMsgHeader FrontendReq) : Keeps p (waitForAck ch hdr) := by
  refine .bind (fun _ => rfl) fun node => .ite (.pure _) (.bind (keeps_orThrow _) fun _ => ?_)
  exact .bind (keeps_recvBody hrecv) fun _ => .check (.ite (.throw _) (.pure _))

theorem keeps_singleFile (files : Option (List File)) : Keeps p (singleFile files : M τ File) := by
  unfold singleFile
  split
  · exact .pure _
  · exact .throw _

/-- What neither the writes of an operation nor a receive change, `finish` keeps. -/
theorem keeps_finish (hrecv : ∀ n x, p { x with sock := (ch.recv n x.sock).2 } = p x) (op : FrontendOp)
    (hnode : ∀ f, op.Writes f → ∀ x, p { x with node := f x.node } = p x) (hdr : VhostUserMsgHeader FrontendReq) :
    Keeps p (op.finish ch hdr) := by
  have hmod {f : FrontendInternal → FrontendInternal} (hf : op.Writes f) : Keeps p (modNode f : M τ Unit) :=
    hnode f hf
  cases op with
  | getFeatures => exact .bind (keeps_recvReply hrecv hdr) fun _ => hmod (.features _)
  | getProtocolFeatures => exact .bind (keeps_recvReply hrecv hdr) fun _ => hmod (.protocolFeatures _)
  | getQueueNum => exact .bind (keeps_recvReply hrecv hdr) fun _ => .check (hmod (.queueNum _))
  | setFeatures features => exact .bind (hmod (.ackedFeatures features)) fun _ => keeps_waitForAck hrecv hdr
  | setProtocolFeatures features =>
    exact .bind (hmod (.ackedProtocolFeatures features)) fun _ => keeps_waitForAck hrecv hdr
  | setLogBase _ region =>
    exact .bind (fun _ => rfl) fun _ => .ite (.bind (keeps_recvReply hrecv hdr) fun _ => .pure _) (.pure _)
  | getVringBase _ | getMaxMemSlots | getShmemConfig => exact .bind (keeps_recvReply hrecv hdr) fun _ => .pure _
  | getConfig offset size flags buf =>
    exact .bind (keeps_recvReplyWithPayload hrecv hdr) fun _ => .check (.check (.ite (.throw _) (.pure _)))
  | getSharedObject _ | postcopyAdvise | getInflightFd _ =>
    exact .bind (keeps_recvReplyWithFiles hrecv hdr) fun _ => .bind (keeps_singleFile _) fun _ => .pure _
  | setDeviceStateFd _ _ _ =>
    exact .bind (keeps_recvReplyWithOptionalFiles hrecv hdr) fun _ =>
      .ite (.pure _) (.ite (.bind (keeps_singleFile _) fun _ => .pure _) (.throw _))
  | checkDeviceState => exact .bind (keeps_recvReply hrecv hdr) fun _ => .ite (.throw _) (.pure _)
  | _ => exact keeps_waitForAck hrecv hdr

end Keeps

/-! One operation, at most one message. -/

section Sent
variable {τ : Type} (ch : Channel τ)

/-- The record of a logged channel. -/
def record (x : FrontendCtx (τ × Log)) : Log := x.sock.2

/-- The messages an operation got out. -/
def sent (op : FrontendOp) (x : FrontendCtx τ) : Log :=
  record (final (op.run ch.logged ⟨x.node, x.sock, []⟩))

theorem sent_cases (op : FrontendOp) (x : FrontendCtx τ) :
    op.sent ch x = [] ∨ ∃ m, op.compose x.node = .ok m ∧
      op.sent ch x = [(ByteValued.asSlice (headerOf x.node m) ++ m.body, m.fds)] := by
  have hfinish (hdr : VhostUserMsgHeader FrontendReq) : Keeps record (op.finish ch.logged hdr) :=
    keeps_finish (fun _ _ => rfl) op (fun _ _ _ => rfl) hdr
  unfold sent
  rw [run_eq, bind_of_ok (getNode_apply _)]
  cases hm : op.compose x.node with
  | error e => exact .inl rfl
  | ok m =>
    rw [bind_of_ok (orThrow_ok_apply m _), final_bind_of_keeps hfinish, issue, bind_of_ok (getNode_apply _)]
    cases checkState x.node with
    | error e => exact .inl rfl
    | ok _ =>
      rw [bind_of_ok (orThrow_ok_apply _ _), final_bind_of_keeps (p := record) fun _ => .pure _,
        sendBytes_apply]
      simp only [Channel.logged, logSend, record]
      cases (ch.send (ByteValued.asSlice (headerOf x.node m) ++ m.body) m.fds x.sock).1 with
      | ok _ => exact .inr ⟨m, rfl, rfl⟩
      | error e => exact .inl rfl

end Sent

end FrontendOp

end VhostUser
