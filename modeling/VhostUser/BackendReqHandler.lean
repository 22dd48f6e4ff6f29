import VhostUser.Request
/-!
# `BackendReqHandler` (`vhost/src/vhost_user/backend_req_handler.rs`)

| here | there |
| --- | --- |
| `Call`, `Call.Res`    | the methods of `VhostUserBackendReqHandler` (`:39-91`) |
| `BackendReqHandler`   | the handler's fields (`:331-347`); the socket and the backend are in `Ctx` |
| `dispatch`            | the `match` on the request code (`:439-746`), arms in source order |
| `setMemTable` … `handleVringFdRequest` | the private request parsers (`:748-913`) |
| `checkRequestSize` … `sendReplyWithPayload` | the helpers (`:915-1041`) |

The `postcopy` cargo feature is a parameter, the `xen` feature is off. `getsockopt` is the
kernel boundary.
-/
namespace VhostUser
open Bytes EState

/-- One call of a `VhostUserBackendReqHandler` method. -/
inductive Call where
  | setOwner
  | resetOwner
  | resetDevice
  | getFeatures
  | setFeatures (features : UInt64)
  | setMemTable (ctx : List VhostUserMemoryRegion) (files : List File)
  | setVringNum (index num : UInt32)
  | setVringAddr (index flags : UInt32) (descriptor used available log : UInt64)
  | setVringBase (index base : UInt32)
  | getVringBase (index : UInt32)
  | setVringKick (index : UInt8) (fd : Option File)
  | setVringCall (index : UInt8) (fd : Option File)
  | setVringErr (index : UInt8) (fd : Option File)
  | getProtocolFeatures
  | setProtocolFeatures (features : UInt64)
  | getQueueNum
  | setVringEnable (index : UInt32) (enable : Bool)
  | getConfig (offset size flags : UInt32)
  | setConfig (offset : UInt32) (buf : List UInt8) (flags : UInt32)
  | setBackendReqFd (backend : File)
  | setGpuSocket (gpuBackend : File)
  | getSharedObject (uuid : VhostUserSharedMsg)
  | getInflightFd (inflight : VhostUserInflight)
  | setInflightFd (inflight : VhostUserInflight) (file : File)
  | getMaxMemSlots
  | addMemRegion (region : VhostUserSingleMemoryRegion) (fd : File)
  | removeMemRegion (region : VhostUserSingleMemoryRegion)
  | setDeviceStateFd (direction : VhostTransferStateDirection) (phase : VhostTransferStatePhase)
      (fd : File)
  | checkDeviceState
  | getShmemConfig
  | postcopyAdvice
  | postcopyListen
  | postcopyEnd
  | setLogBase (log : VhostUserLog) (file : File)
deriving DecidableEq

/-- What the method returns; `set_backend_req_fd` has no result. -/
@[reducible] def Call.Res : Call → Type
  | .getFeatures | .getProtocolFeatures | .getQueueNum | .getMaxMemSlots => Except Error UInt64
  | .getVringBase _ => Except Error VhostUserVringState
  | .getConfig .. => Except Error (List UInt8)
  | .setBackendReqFd _ => Unit
  | .getSharedObject _ | .postcopyAdvice => Except Error File
  | .getInflightFd _ => Except Error (VhostUserInflight × File)
  | .setDeviceStateFd .. => Except Error (Option File)
  | .getShmemConfig => Except Error VhostUserShMemConfig
  | _ => Except Error Unit

/-- The failing result of a method. -/
def Call.refuse (e : Error) : (c : Call) → c.Res
  | .setBackendReqFd _ => ()
  | .getFeatures | .getProtocolFeatures | .getQueueNum | .getMaxMemSlots | .getVringBase _
  | .getConfig .. | .getSharedObject _ | .postcopyAdvice | .getInflightFd _ | .setDeviceStateFd ..
  | .getShmemConfig | .setOwner | .resetOwner | .resetDevice | .setFeatures _ | .setMemTable ..
  | .setVringNum .. | .setVringAddr .. | .setVringBase .. | .setVringKick .. | .setVringCall ..
  | .setVringErr .. | .setProtocolFeatures _ | .setVringEnable .. | .setConfig ..
  | .setGpuSocket _ | .setInflightFd .. | .addMemRegion .. | .removeMemRegion _
  | .checkDeviceState | .postcopyListen | .postcopyEnd | .setLogBase .. => .error e

structure BackendReqHandler where
  virtioFeatures : UInt64
  ackedVirtioFeatures : UInt64
  ackedProtocolFeatures : UInt64
  replyAckEnabled : Bool
  error : Option Int32
deriving DecidableEq, Repr

inductive SockOpt where
  | SO_DOMAIN | SO_TYPE
deriving DecidableEq, Repr

/-- Build and platform: the cargo feature, and `getsockopt` at level `SOL_SOCKET`. -/
structure Platform where
  postcopy : Bool
  getSocketOpt : File → SockOpt → Except IoError Int32

/-- `libc::AF_UNIX` and `libc::SOCK_STREAM`. -/
def AF_UNIX : Int32 := 1
def SOCK_STREAM : Int32 := 1

def validateUnixStreamSocketFd (p : Platform) (fd : File) : Except Error Unit :=
  match p.getSocketOpt fd .SO_DOMAIN with
  | .error e => .error (.invalidSocketFd e)
  | .ok domain =>
    if domain ≠ AF_UNIX then .error .notUnixSocket
    else match p.getSocketOpt fd .SO_TYPE with
      | .error e => .error (.invalidSocketFd e)
      | .ok sockType => if sockType ≠ SOCK_STREAM then .error .notStreamSocket else .ok ()

namespace BackendReqHandler

abbrev M (β τ : Type) := Handling BackendReqHandler β Call τ
abbrev Svc (β τ : Type) := Service Call Call.Res β τ

def new : BackendReqHandler := ⟨0, 0, 0, false, none⟩

/-! ## Helpers -/

def checkFeature (h : BackendReqHandler) (feat : UInt64) : Except Error Unit :=
  if h.ackedVirtioFeatures &&& feat ≠ 0 then .ok () else .error (.inactiveFeature feat)

def checkProtoFeature (h : BackendReqHandler) (feat : UInt64) : Except Error Unit :=
  if h.ackedProtocolFeatures &&& feat ≠ 0 then .ok () else .error (.inactiveOperation feat)

def checkState (h : BackendReqHandler) : Except Error Unit :=
  match h.error with
  | some e => .error (.socketBroken (.errno e))
  | none => .ok ()

def checkRequestSize (hdr : VhostUserMsgHeader FrontendReq) (size expected : Nat) : Except Error Unit :=
  if hdr.getSize.toNat ≠ expected || hdr.isReply || hdr.getVersion != 0x1 || size ≠ expected then
    .error .invalidMessage
  else .ok ()

/-- The requests that may carry descriptors. -/
def takesFiles : FrontendReq → Bool
  | .setMemTable | .setVringCall | .setVringKick | .setVringErr | .setLogBase | .setLogFd
  | .setBackendReqFd | .setInflightFd | .addMemReg | .setDeviceStateFd | .gpuSetSocket => true
  | _ => false

def checkAttachedFiles (hdr : VhostUserMsgHeader FrontendReq) (files : Option (List File)) :
    Except Error Unit :=
  let allowed := match hdr.getCode with
    | .ok r => takesFiles r
    | .error _ => false
  if allowed then .ok () else if files.isSome then .error .invalidMessage else .ok ()

def updateReplyAckFlag (h : BackendReqHandler) : BackendReqHandler :=
  { h with
    replyAckEnabled := (h.virtioFeatures &&& VhostUserVirtioFeatures.PROTOCOL_FEATURES) != 0
      && (h.ackedProtocolFeatures &&& VhostUserProtocolFeatures.REPLY_ACK) != 0 }

/-- `tsize` is `size_of::<T>()`. -/
def newReplyHeader (h : BackendReqHandler) (req : VhostUserMsgHeader FrontendReq) (tsize payloadSize : Nat) :
    Except Error (VhostUserMsgHeader FrontendReq) :=
  if tsize > maxMsgSize || payloadSize > maxMsgSize || tsize + payloadSize > maxMsgSize then
    .error .invalidParam
  else match checkState h with
    | .error e => .error e
    | .ok () =>
      match req.getCode with
      | .error e => .error e
      | .ok code =>
        .ok (VhostUserMsgHeader.new code VhostUserHeaderFlag.REPLY (UInt32.ofNat (tsize + payloadSize)))

section Parsers
variable {β τ : Type} (svc : Svc β τ)

def sendAckMessage (req : VhostUserMsgHeader FrontendReq) (res : Except Error Unit) : M β τ Unit := do
  let h ← getHandler
  if h.replyAckEnabled && req.isNeedReply then
    let hdr ← orFail (newReplyHeader h req (ByteValued.size VhostUserU64) 0)
    let val : UInt64 := match res with
      | .ok _ => 0
      | .error _ => 1
    sendMsg svc hdr (⟨val⟩ : VhostUserU64) []
  orFail res

def sendReplyMessage {T : Type} [ByteValued T] (req : VhostUserMsgHeader FrontendReq) (msg : T) :
    M β τ Unit := do
  let hdr ← orFail (newReplyHeader (← getHandler) req (ByteValued.size T) 0)
  sendMsg svc hdr msg []

def sendReplyWithPayload {T : Type} [ByteValued T] (req : VhostUserMsgHeader FrontendReq) (msg : T)
    (payload : List UInt8) : M β τ Unit := do
  let hdr ← orFail (newReplyHeader (← getHandler) req (ByteValued.size T) payload.length)
  sendMsgWithPayload svc hdr msg payload []

def extractRequestBody (T : Type) [ByteValued T] [VhostUserMsgValidator T]
    (hdr : VhostUserMsgHeader FrontendReq) (size : Nat) (buf : List UInt8) : M β τ T := do
  orFail (checkRequestSize hdr size (ByteValued.size T))
  let msg ← readUnaligned T buf
  if !VhostUserMsgValidator.isValid msg then fail .invalidMessage
  pure msg

/-! ## Request parsers -/

/-- `slice::from_raw_parts` over `n` records, a panic when they do not fit. -/
def readRegions : Nat → List UInt8 → M β τ (List VhostUserMemoryRegion)
  | 0, _ => pure []
  | n + 1, buf => do
    let r ← readUnaligned VhostUserMemoryRegion buf
    let rs ← readRegions n (buf.drop (ByteValued.size VhostUserMemoryRegion))
    pure (r :: rs)

/-- Returns the `Result` that is then acknowledged. -/
def setMemTable (hdr : VhostUserMsgHeader FrontendReq) (size : Nat) (buf : List UInt8)
    (files : Option (List File)) : M β τ (Except Error Unit) := do
  let hdrsize := ByteValued.size VhostUserMemory
  match checkRequestSize hdr size hdr.getSize.toNat with
  | .error e => pure (.error e)
  | .ok () =>
    if size < hdrsize then pure (.error .invalidMessage)
    else
      let msg ← readUnaligned VhostUserMemory buf
      if !VhostUserMsgValidator.isValid msg then pure (.error .invalidMessage)
      else if size ≠ hdrsize + msg.numRegions.toNat * ByteValued.size VhostUserMemoryRegion then
        pure (.error .invalidMessage)
      else match files with
        | none => pure (.error .invalidMessage)
        | some files =>
          if files.length ≠ msg.numRegions.toNat then pure (.error .invalidMessage)
          else
            let regions ← readRegions msg.numRegions.toNat (buf.drop hdrsize)
            if regions.all VhostUserMsgValidator.isValid then call svc (.setMemTable regions files)
            else pure (.error .invalidMessage)

def getConfig (hdr : VhostUserMsgHeader FrontendReq) (buf : List UInt8) : M β τ Unit := do
  let payloadOffset := ByteValued.size VhostUserConfig
  if buf.length > maxMsgSize || buf.length < payloadOffset then fail .invalidMessage
  let msg ← readUnaligned VhostUserConfig buf
  if !VhostUserMsgValidator.isValid msg then fail .invalidMessage
  if (← usizeSub buf.length payloadOffset) ≠ msg.size.toNat then fail .invalidMessage
  match fromBits vhostUserConfigFlagsAll msg.flags with
  | none => fail .invalidMessage
  | some flags =>
    match ← call svc (.getConfig msg.offset msg.size flags) with
    | .ok out =>
      if out.length = msg.size.toNat then
        sendReplyWithPayload svc hdr (⟨msg.offset, UInt32.ofNat out.length, flags⟩ : VhostUserConfig) out
      else sendReplyMessage svc hdr (⟨msg.offset, 0, flags⟩ : VhostUserConfig)
    | .error _ => sendReplyMessage svc hdr (⟨msg.offset, 0, flags⟩ : VhostUserConfig)

/-- Returns the `Result` that is then acknowledged. -/
def setConfig (size : Nat) (buf : List UInt8) : M β τ (Except Error Unit) := do
  if size > maxMsgSize || size < ByteValued.size VhostUserConfig then pure (.error .invalidMessage)
  else
    let msg ← readUnaligned VhostUserConfig buf
    if !VhostUserMsgValidator.isValid msg then pure (.error .invalidMessage)
    else if (← usizeSub size (ByteValued.size VhostUserConfig)) ≠ msg.size.toNat then
      pure (.error .invalidMessage)
    else match fromBits vhostUserConfigFlagsAll msg.flags with
      | none => pure (.error .invalidMessage)
      | some flags =>
        -- `&buf[size_of::<VhostUserConfig>()..]`
        if ByteValued.size VhostUserConfig ≤ buf.length then
          call svc (.setConfig msg.offset (buf.drop (ByteValued.size VhostUserConfig)) flags)
        else throw .panic

def setBackendReqFd (p : Platform) (files : Option (List File)) : M β τ (Except Error Unit) := do
  match takeSingleFile files with
  | none => pure (.error .invalidMessage)
  | some file =>
    match validateUnixStreamSocketFd p file with
    | .error e => pure (.error e)
    | .ok () =>
      call svc (.setBackendReqFd file)
      pure (.ok ())

def setGpuSocket (p : Platform) (files : Option (List File)) : M β τ (Except Error Unit) := do
  match takeSingleFile files with
  | none => pure (.error .invalidMessage)
  | some file =>
    match validateUnixStreamSocketFd p file with
    | .error e => pure (.error e)
    | .ok () => call svc (.setGpuSocket file)

/-- Bits 0-7 are the index, bit 8 says that no descriptor comes along. -/
def handleVringFdRequest (buf : List UInt8) (files : Option (List File)) :
    M β τ (UInt8 × Option File) := do
  if buf.length > maxMsgSize || buf.length < ByteValued.size VhostUserU64 then fail .invalidMessage
  let msg ← readUnaligned VhostUserU64 buf
  if !VhostUserMsgValidator.isValid msg then fail .invalidMessage
  let hasFd := (msg.value &&& 0x100) == 0
  let file := takeSingleFile files
  if hasFd && file.isNone || !hasFd && file.isSome then fail .invalidMessage
  pure (msg.value.toUInt8, file)

/-! ## Dispatch -/

/-- The arms of `handle_request`. -/
def dispatch (p : Platform) : Request FrontendReq → M β τ Unit
  | ⟨hdr, size, buf, files⟩ => do
    match hdr.getCode with
    | .ok .setOwner =>
      orFail (checkRequestSize hdr size 0)
      let res ← call svc .setOwner
      sendAckMessage svc hdr res
    | .ok .resetOwner =>
      orFail (checkRequestSize hdr size 0)
      let res ← call svc .resetOwner
      sendAckMessage svc hdr res
    | .ok .resetDevice =>
      orFail (checkProtoFeature (← getHandler) VhostUserProtocolFeatures.RESET_DEVICE)
      orFail (checkRequestSize hdr size 0)
      let res ← call svc .resetDevice
      sendAckMessage svc hdr res
    | .ok .getFeatures =>
      orFail (checkRequestSize hdr size 0)
      let features ← orFail (← call svc .getFeatures)
      sendReplyMessage svc hdr (⟨features⟩ : VhostUserU64)
      setHandler (updateReplyAckFlag { ← getHandler with virtioFeatures := features })
    | .ok .setFeatures =>
      let msg ← extractRequestBody VhostUserU64 hdr size buf
      let res ← call svc (.setFeatures msg.value)
      setHandler (updateReplyAckFlag { ← getHandler with ackedVirtioFeatures := msg.value })
      sendAckMessage svc hdr res
    | .ok .setMemTable =>
      let res ← setMemTable svc hdr size buf files
      sendAckMessage svc hdr res
    | .ok .setVringNum =>
      let msg ← extractRequestBody VhostUserVringState hdr size buf
      let res ← call svc (.setVringNum msg.index msg.num)
      sendAckMessage svc hdr res
    | .ok .setVringAddr =>
      let msg ← extractRequestBody VhostUserVringAddr hdr size buf
      match fromBits vhostUserVringAddrFlagsAll msg.flags with
      | none => fail .invalidMessage
      | some flags =>
        let res ← call svc
          (.setVringAddr msg.index flags msg.descriptor msg.used msg.available msg.log)
        sendAckMessage svc hdr res
    | .ok .setVringBase =>
      let msg ← extractRequestBody VhostUserVringState hdr size buf
      let res ← call svc (.setVringBase msg.index msg.num)
      sendAckMessage svc hdr res
    | .ok .getVringBase =>
      let msg ← extractRequestBody VhostUserVringState hdr size buf
      let reply ← orFail (← call svc (.getVringBase msg.index))
      sendReplyMessage svc hdr reply
    | .ok .setVringCall =>
      orFail (checkRequestSize hdr size (ByteValued.size VhostUserU64))
      let (index, file) ← handleVringFdRequest buf files
      let res ← call svc (.setVringCall index file)
      sendAckMessage svc hdr res
    | .ok .setVringKick =>
      orFail (checkRequestSize hdr size (ByteValued.size VhostUserU64))
      let (index, file) ← handleVringFdRequest buf files
      let res ← call svc (.setVringKick index file)
      sendAckMessage svc hdr res
    | .ok .setVringErr =>
      orFail (checkRequestSize hdr size (ByteValued.size VhostUserU64))
      let (index, file) ← handleVringFdRequest buf files
      let res ← call svc (.setVringErr index file)
      sendAckMessage svc hdr res
    | .ok .getProtocolFeatures =>
      orFail (checkRequestSize hdr size 0)
      let features ← orFail (← call svc .getProtocolFeatures)
      let features := features ||| VhostUserProtocolFeatures.REPLY_ACK
      sendReplyMessage svc hdr (⟨features⟩ : VhostUserU64)
      setHandler (updateReplyAckFlag (← getHandler))
    | .ok .setProtocolFeatures =>
      let msg ← extractRequestBody VhostUserU64 hdr size buf
      let res ← call svc (.setProtocolFeatures msg.value)
      setHandler (updateReplyAckFlag { ← getHandler with ackedProtocolFeatures := msg.value })
      sendAckMessage svc hdr res
    | .ok .getQueueNum =>
      orFail (checkProtoFeature (← getHandler) VhostUserProtocolFeatures.MQ)
      orFail (checkRequestSize hdr size 0)
      let num ← orFail (← call svc .getQueueNum)
      sendReplyMessage svc hdr (⟨num⟩ : VhostUserU64)
    | .ok .setVringEnable =>
      let msg ← extractRequestBody VhostUserVringState hdr size buf
      orFail (checkFeature (← getHandler) VhostUserVirtioFeatures.PROTOCOL_FEATURES)
      if msg.num = 1 then
        let res ← call svc (.setVringEnable msg.index true)
        sendAckMessage svc hdr res
      else if msg.num = 0 then
        let res ← call svc (.setVringEnable msg.index false)
        sendAckMessage svc hdr res
      else fail .invalidParam
    | .ok .getConfig =>
      orFail (checkProtoFeature (← getHandler) VhostUserProtocolFeatures.CONFIG)
      orFail (checkRequestSize hdr size hdr.getSize.toNat)
      getConfig svc hdr buf
    | .ok .setConfig =>
      orFail (checkProtoFeature (← getHandler) VhostUserProtocolFeatures.CONFIG)
      orFail (checkRequestSize hdr size hdr.getSize.toNat)
      let res ← setConfig svc size buf
      sendAckMessage svc hdr res
    | .ok .setBackendReqFd =>
      orFail (checkProtoFeature (← getHandler) VhostUserProtocolFeatures.BACKEND_REQ)
      orFail (checkRequestSize hdr size hdr.getSize.toNat)
      let res ← setBackendReqFd svc p files
      sendAckMessage svc hdr res
    | .ok .getSharedObject =>
      orFail (checkProtoFeature (← getHandler) VhostUserProtocolFeatures.SHARED_OBJECT)
      orFail (checkRequestSize hdr size hdr.getSize.toNat)
      let msg ← extractRequestBody VhostUserSharedMsg hdr size buf
      let replyHdr ← orFail (newReplyHeader (← getHandler) hdr (ByteValued.size VhostUserEmpty) 0)
      match ← call svc (.getSharedObject msg) with
      | .ok file => sendMsg svc replyHdr (⟨⟩ : VhostUserEmpty) [file]
      | .error _ => sendMsg svc replyHdr (⟨⟩ : VhostUserEmpty) []
    | .ok .getInflightFd =>
      orFail (checkProtoFeature (← getHandler) VhostUserProtocolFeatures.INFLIGHT_SHMFD)
      let msg ← extractRequestBody VhostUserInflight hdr size buf
      let (inflight, file) ← orFail (← call svc (.getInflightFd msg))
      let replyHdr ← orFail (newReplyHeader (← getHandler) hdr (ByteValued.size VhostUserInflight) 0)
      sendMsg svc replyHdr inflight [file]
    | .ok .setInflightFd =>
      orFail (checkProtoFeature (← getHandler) VhostUserProtocolFeatures.INFLIGHT_SHMFD)
      match takeSingleFile files with
      | none => fail .incorrectFds
      | some file =>
        let msg ← extractRequestBody VhostUserInflight hdr size buf
        let res ← call svc (.setInflightFd msg file)
        sendAckMessage svc hdr res
    | .ok .gpuSetSocket =>
      let res ← setGpuSocket svc p files
      sendAckMessage svc hdr res
    | .ok .getMaxMemSlots =>
      orFail (checkProtoFeature (← getHandler) VhostUserProtocolFeatures.CONFIGURE_MEM_SLOTS)
      orFail (checkRequestSize hdr size 0)
      let num ← orFail (← call svc .getMaxMemSlots)
      sendReplyMessage svc hdr (⟨num⟩ : VhostUserU64)
    | .ok .addMemReg =>
      orFail (checkProtoFeature (← getHandler) VhostUserProtocolFeatures.CONFIGURE_MEM_SLOTS)
      match files with
      | none => fail .invalidParam
      | some files =>
        if files.length ≠ 1 then fail .invalidParam
        let msg ← extractRequestBody VhostUserSingleMemoryRegion hdr size buf
        match files with
        | [] => throw .panic
        | file :: _ =>
          let res ← call svc (.addMemRegion msg file)
          sendAckMessage svc hdr res
    | .ok .remMemReg =>
      orFail (checkProtoFeature (← getHandler) VhostUserProtocolFeatures.CONFIGURE_MEM_SLOTS)
      let msg ← extractRequestBody VhostUserSingleMemoryRegion hdr size buf
      let res ← call svc (.removeMemRegion msg)
      sendAckMessage svc hdr res
    | .ok .setDeviceStateFd =>
      match takeSingleFile files with
      | none => fail .incorrectFds
      | some file =>
        let msg ← extractRequestBody VhostUserTransferDeviceState hdr size buf
        let replyHdr ← orFail (newReplyHeader (← getHandler) hdr (ByteValued.size VhostUserU64) 0)
        match VhostTransferStateDirection.tryFrom msg.direction, VhostTransferStatePhase.tryFrom msg.phase with
        | some direction, some phase =>
          match ← call svc (.setDeviceStateFd direction phase file) with
          | .ok none => sendMsg svc replyHdr (⟨0x100⟩ : VhostUserU64) []
          | .ok (some file) => sendMsg svc replyHdr (⟨0⟩ : VhostUserU64) [file]
          | .error _ => sendMsg svc replyHdr (⟨0x101⟩ : VhostUserU64) []
        | _, _ => fail .invalidMessage
    | .ok .checkDeviceState =>
      let msg : VhostUserU64 := match ← call svc .checkDeviceState with
        | .ok _ => ⟨0⟩
        | .error _ => ⟨1⟩
      sendReplyMessage svc hdr msg
    | .ok .getShmemConfig =>
      orFail (checkProtoFeature (← getHandler) VhostUserProtocolFeatures.SHMEM)
      let msg ← orFail (← call svc .getShmemConfig)
      sendReplyMessage svc hdr msg
    | .ok .postcopyAdvise =>
      if !p.postcopy then fail .invalidMessage
      orFail (checkProtoFeature (← getHandler) VhostUserProtocolFeatures.PAGEFAULT)
      let replyHdr ← orFail (newReplyHeader (← getHandler) hdr (ByteValued.size VhostUserEmpty) 0)
      match ← call svc .postcopyAdvice with
      | .ok uffdFile => sendMsg svc replyHdr (⟨⟩ : VhostUserEmpty) [uffdFile]
      | .error _ => sendMsg svc replyHdr (⟨⟩ : VhostUserEmpty) []
    | .ok .postcopyListen =>
      if !p.postcopy then fail .invalidMessage
      orFail (checkProtoFeature (← getHandler) VhostUserProtocolFeatures.PAGEFAULT)
      let res ← call svc .postcopyListen
      sendAckMessage svc hdr res
    | .ok .postcopyEnd =>
      if !p.postcopy then fail .invalidMessage
      orFail (checkProtoFeature (← getHandler) VhostUserProtocolFeatures.PAGEFAULT)
      let res ← call svc .postcopyEnd
      sendAckMessage svc hdr res
    | .ok .setLogBase =>
      orFail (checkProtoFeature (← getHandler) VhostUserProtocolFeatures.LOG_SHMFD)
      match takeSingleFile files with
      | none => fail .incorrectFds
      | some file =>
        let msg ← extractRequestBody VhostUserLog hdr size buf
        orFail (← call svc (.setLogBase msg file))
        sendReplyMessage svc hdr msg
    | _ => fail .invalidMessage

/-! Reading a body or a table of regions changes nothing. -/

theorem keeps_readRegions (n : Nat) (buf : List UInt8) :
    Keeps id (readRegions n buf : M β τ (List VhostUserMemoryRegion)) := by
  induction n generalizing buf with
  | zero => exact .pure _
  | succ n ih =>
    refine .bind (.ite (.pure _) (.throw _)) fun r => ?_
    exact .bind (ih _) fun rs => .pure _

theorem extractRequestBody_cases {T : Type} [ByteValued T] [VhostUserMsgValidator T]
    (hdr : VhostUserMsgHeader FrontendReq) (size : Nat) (buf : List UInt8)
    (x : Ctx BackendReqHandler β Call τ) :
    (extractRequestBody T hdr size buf : M β τ T) x = .ok (ByteValued.fromSlice buf) x ∨
      ∃ e, (extractRequestBody T hdr size buf : M β τ T) x = .error e x := by
  simp only [extractRequestBody, bind_apply]
  cases checkRequestSize hdr size (ByteValued.size T) with
  | error e => exact .inr ⟨_, rfl⟩
  | ok _ =>
    simp only [orFail_ok_apply, readUnaligned]
    by_cases hlen : ByteValued.size T ≤ buf.length
    · simp only [hlen, if_true, pure_apply]
      by_cases hv : VhostUserMsgValidator.isValid (ByteValued.fromSlice buf : T) = true
      · exact .inl (by simp [hv, pure_apply])
      · exact .inr ⟨_, by simp only [hv]; rfl⟩
    · exact .inr ⟨.panic, by simp [hlen, throw_apply]⟩

/-- `SET_MEM_TABLE` makes its one call, with validated regions, or stops short of it. -/
theorem setMemTable_cases (hdr : VhostUserMsgHeader FrontendReq) (size : Nat) (buf : List UInt8)
    (files : Option (List File)) (x : Ctx BackendReqHandler β Call τ) :
    (∃ e, setMemTable svc hdr size buf files x = .ok (.error e) x) ∨
      (∃ e, setMemTable svc hdr size buf files x = .error e x) ∨
      ∃ regions fds, (∀ r ∈ regions, VhostUserMemoryRegion.isValidCommon r = true) ∧
        setMemTable svc hdr size buf files x = call svc (.setMemTable regions fds) x := by
  simp only [setMemTable]
  cases checkRequestSize hdr size hdr.getSize.toNat with
  | error e => exact .inl ⟨e, rfl⟩
  | ok _ =>
    dsimp only
    split
    · exact .inl ⟨_, rfl⟩
    · simp only [bind_apply, readUnaligned]
      by_cases hlen : ByteValued.size VhostUserMemory ≤ buf.length
      · simp only [hlen, if_true, pure_apply]
        split
        · exact .inl ⟨_, rfl⟩
        · split
          · exact .inl ⟨_, rfl⟩
          · cases files with
            | none => exact .inl ⟨_, rfl⟩
            | some fds =>
              dsimp only
              split
              · exact .inl ⟨_, rfl⟩
              · rw [bind_apply]
                have hkeep := @keeps_readRegions β τ (ByteValued.fromSlice buf : VhostUserMemory).numRegions.toNat
                  (buf.drop (ByteValued.size VhostUserMemory)) x
                split
                · rename_i regions x' hregions
                  rw [hregions] at hkeep
                  obtain rfl : x' = x := hkeep
                  split
                  · rename_i hvalid
                    exact .inr (.inr ⟨regions, fds, fun r hr => List.all_eq_true.1 hvalid r hr, rfl⟩)
                  · exact .inl ⟨_, rfl⟩
                · rename_i e x' hregions
                  rw [hregions] at hkeep
                  obtain rfl : x' = x := hkeep
                  exact .inr (.inl ⟨e, rfl⟩)
      · simp only [hlen, if_false, throw_apply]
        exact .inr (.inl ⟨_, rfl⟩)

/-! An acknowledgement touches nothing but the socket and does not panic. -/

theorem keeps_sendAckMessage {γ : Type} {p : Ctx BackendReqHandler β Call τ → γ}
    (hp : ∀ x sock, p { x with sock := sock } = p x) (req : VhostUserMsgHeader FrontendReq)
    (res : Except Error Unit) : Keeps p (sendAckMessage svc req res) := by
  refine .bind (fun _ => rfl) fun h => ?_
  split
  · refine .bind (keeps_orFail _) fun hdr => ?_
    exact .bind (keeps_sendMsg hp svc hdr _ _) fun _ => keeps_orFail res
  · exact keeps_orFail res

theorem noPanic_sendAckMessage (req : VhostUserMsgHeader FrontendReq) (res : Except Error Unit) :
    NoPanic (sendAckMessage svc req res) := by
  refine .bind (fun x x' h => by simp at h) fun h => ?_
  split
  · refine .bind (noPanic_orFail _) fun hdr => ?_
    exact .bind (noPanic_sendMsg svc hdr _ _) fun _ => noPanic_orFail res
  · exact noPanic_orFail res

/-- `BackendReqHandler::handle_request`. -/
def handleRequest (p : Platform) :
    Ctx BackendReqHandler β Call τ → RxSock →
      Outcome (Except Error Unit × Ctx BackendReqHandler β Call τ × RxSock) :=
  serve checkState (recvRequest checkAttachedFiles fun _ => true) (dispatch svc p)

end Parsers
end BackendReqHandler

/-- A backend that refuses every request, behind a socket that takes every message. -/
def refusing : BackendReqHandler.Svc Unit Unit where
  invoke c b := (c.refuse .invalidParam, b)
  send _ _ t := (.ok (), t)

def freshCtx : Ctx BackendReqHandler Unit Call Unit := ⟨.new, (), (), []⟩

end VhostUser
