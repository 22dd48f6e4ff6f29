import VhostUser.BackendReqHandler
import VhostUser.FrontendReqHandler
/-!
# The dispatch in two halves

Every arm of `BackendReqHandler::handle_request` first decides, from the message and the
handler's own fields alone, what it will do, and touches the backend and the socket only
afterwards. `parse` is the first half, a pure function; `answer` is the second, what happens
once the method has returned. `dispatch_eq` puts them together again.

| here | there |
| --- | --- |
| `extractBody`  | `extract_request_body` (`backend_req_handler.rs:953-975`) without the state |
| `parseMemTable`, `parseConfig`, `parseVringFd` | the parsers (`:748-852`, `:885-913`) up to the call |
| `parse`        | each arm of the `match` (`:439-746`) up to the call |
| `answer`       | the rest of the arm |

A request stops (`?` before the call), is refused (the arm acknowledges an error without a
call), or goes through as one call. The frontend's handler (`frontend_req_handler.rs:247-297`) is
cut in the same way at the end of the module.
-/
namespace VhostUser
open Bytes EState

/-! ## Validation without state -/

/-- `?` before anything was done. -/
def orStop {α : Type} : Except Error α → Except Stop α
  | .ok a => .ok a
  | .error e => .error (.err e)

/-- `readUnaligned` without the state. -/
def readAt (T : Type) [ByteValued T] (buf : List UInt8) : Except Stop T :=
  if ByteValued.size T ≤ buf.length then .ok (ByteValued.fromSlice buf) else .error .panic

/-- `usizeSub` without the state. -/
def subAt (a b : Nat) : Except Stop Nat := if b ≤ a then .ok (a - b) else .error .panic

section Lift
variable {η β κ τ α γ : Type}

/-- A decision taken without the state, run in it. -/
def ofExcept : Except Stop α → Handling η β κ τ α
  | .ok a => pure a
  | .error s => throw s

@[simp] theorem ofExcept_ok (a : α) : (ofExcept (.ok a) : Handling η β κ τ α) = pure a := rfl

@[simp] theorem ofExcept_error (s : Stop) :
    (ofExcept (.error s) : Handling η β κ τ α) = throw s := rfl

theorem ofExcept_bind (y : Except Stop α) (f : α → Except Stop γ) :
    (ofExcept (y >>= f) : Handling η β κ τ γ) = ofExcept y >>= fun a => ofExcept (f a) := by
  cases y with
  | ok a => rfl
  | error s => rfl

theorem ofExcept_orStop (r : Except Error α) :
    (ofExcept (orStop r) : Handling η β κ τ α) = orFail r := by
  cases r with
  | ok a => rfl
  | error e => rfl

theorem ofExcept_readAt (T : Type) [ByteValued T] (buf : List UInt8) :
    (ofExcept (readAt T buf) : Handling η β κ τ T) = readUnaligned T buf := by
  unfold readAt readUnaligned
  split
  · rfl
  · rfl

theorem ofExcept_subAt (a b : Nat) : (ofExcept (subAt a b) : Handling η β κ τ Nat) = usizeSub a b := by
  unfold subAt usizeSub
  split
  · rfl
  · rfl

end Lift

namespace BackendReqHandler

def extractBody (T : Type) [ByteValued T] [VhostUserMsgValidator T]
    (hdr : VhostUserMsgHeader FrontendReq) (size : Nat) (buf : List UInt8) : Except Stop T := do
  orStop (checkRequestSize hdr size (ByteValued.size T))
  let msg ← readAt T buf
  if !VhostUserMsgValidator.isValid msg then throw (.err .invalidMessage)
  pure msg

def recordsAt : Nat → List UInt8 → Except Stop (List VhostUserMemoryRegion)
  | 0, _ => pure []
  | n + 1, buf => do
    let r ← readAt VhostUserMemoryRegion buf
    let rs ← recordsAt n (buf.drop (ByteValued.size VhostUserMemoryRegion))
    pure (r :: rs)

/-- What an arm decided: a call, or an error that it acknowledges. -/
abbrev Verdict := Except Error Call

def parseMemTable (hdr : VhostUserMsgHeader FrontendReq) (size : Nat) (buf : List UInt8)
    (files : Option (List File)) : Except Stop Verdict := do
  let hdrsize := ByteValued.size VhostUserMemory
  match checkRequestSize hdr size hdr.getSize.toNat with
  | .error e => pure (.error e)
  | .ok () =>
    if size < hdrsize then pure (.error .invalidMessage)
    else
      let msg ← readAt VhostUserMemory buf
      if !VhostUserMsgValidator.isValid msg then pure (.error .invalidMessage)
      else if size ≠ hdrsize + msg.numRegions.toNat * ByteValued.size VhostUserMemoryRegion then
        pure (.error .invalidMessage)
      else match files with
        | none => pure (.error .invalidMessage)
        | some files =>
          if files.length ≠ msg.numRegions.toNat then pure (.error .invalidMessage)
          else
            let regions ← recordsAt msg.numRegions.toNat (buf.drop hdrsize)
            if regions.all VhostUserMsgValidator.isValid then pure (.ok (.setMemTable regions files))
            else pure (.error .invalidMessage)

def parseGetConfig (buf : List UInt8) : Except Stop Verdict := do
  let payloadOffset := ByteValued.size VhostUserConfig
  if buf.length > maxMsgSize || buf.length < payloadOffset then throw (.err .invalidMessage)
  let msg ← readAt VhostUserConfig buf
  if !VhostUserMsgValidator.isValid msg then throw (.err .invalidMessage)
  if (← subAt buf.length payloadOffset) ≠ msg.size.toNat then throw (.err .invalidMessage)
  match fromBits vhostUserConfigFlagsAll msg.flags with
  | none => throw (.err .invalidMessage)
  | some flags => pure (.ok (.getConfig msg.offset msg.size flags))

def parseSetConfig (size : Nat) (buf : List UInt8) : Except Stop Verdict := do
  if size > maxMsgSize || size < ByteValued.size VhostUserConfig then pure (.error .invalidMessage)
  else
    let msg ← readAt VhostUserConfig buf
    if !VhostUserMsgValidator.isValid msg then pure (.error .invalidMessage)
    else if (← subAt size (ByteValued.size VhostUserConfig)) ≠ msg.size.toNat then
      pure (.error .invalidMessage)
    else match fromBits vhostUserConfigFlagsAll msg.flags with
      | none => pure (.error .invalidMessage)
      | some flags =>
        if ByteValued.size VhostUserConfig ≤ buf.length then
          pure (.ok (.setConfig msg.offset (buf.drop (ByteValued.size VhostUserConfig)) flags))
        else throw .panic

/-- `set_backend_req_fd` and `set_gpu_socket` take one connected unix stream socket. -/
def parseSocket (p : Platform) (files : Option (List File)) (c : File → Call) : Verdict :=
  match takeSingleFile files with
  | none => .error .invalidMessage
  | some file =>
    match validateUnixStreamSocketFd p file with
    | .error e => .error e
    | .ok () => .ok (c file)

def parseVringFd (buf : List UInt8) (files : Option (List File)) : Except Stop (UInt8 × Option File) := do
  if buf.length > maxMsgSize || buf.length < ByteValued.size VhostUserU64 then throw (.err .invalidMessage)
  let msg ← readAt VhostUserU64 buf
  if !VhostUserMsgValidator.isValid msg then throw (.err .invalidMessage)
  let hasFd := (msg.value &&& 0x100) == 0
  let file := takeSingleFile files
  if hasFd && file.isNone || !hasFd && file.isSome then throw (.err .invalidMessage)
  pure (msg.value.toUInt8, file)

/-- Each arm of `handle_request` up to its call of the backend. -/
def parse (p : Platform) (h : BackendReqHandler) : Request FrontendReq → Except Stop Verdict
  | ⟨hdr, size, buf, files⟩ => do
    match hdr.getCode with
    | .ok .setOwner =>
      orStop (checkRequestSize hdr size 0)
      pure (.ok .setOwner)
    | .ok .resetOwner =>
      orStop (checkRequestSize hdr size 0)
      pure (.ok .resetOwner)
    | .ok .resetDevice =>
      orStop (checkProtoFeature h VhostUserProtocolFeatures.RESET_DEVICE)
      orStop (checkRequestSize hdr size 0)
      pure (.ok .resetDevice)
    | .ok .getFeatures =>
      orStop (checkRequestSize hdr size 0)
      pure (.ok .getFeatures)
    | .ok .setFeatures =>
      let msg ← extractBody VhostUserU64 hdr size buf
      pure (.ok (.setFeatures msg.value))
    | .ok .setMemTable => parseMemTable hdr size buf files
    | .ok .setVringNum =>
      let msg ← extractBody VhostUserVringState hdr size buf
      pure (.ok (.setVringNum msg.index msg.num))
    | .ok .setVringAddr =>
      let msg ← extractBody VhostUserVringAddr hdr size buf
      match fromBits vhostUserVringAddrFlagsAll msg.flags with
      | none => throw (.err .invalidMessage)
      | some flags =>
        pure (.ok (.setVringAddr msg.index flags msg.descriptor msg.used msg.available msg.log))
    | .ok .setVringBase =>
      let msg ← extractBody VhostUserVringState hdr size buf
      pure (.ok (.setVringBase msg.index msg.num))
    | .ok .getVringBase =>
      let msg ← extractBody VhostUserVringState hdr size buf
      pure (.ok (.getVringBase msg.index))
    | .ok .setVringCall =>
      orStop (checkRequestSize hdr size (ByteValued.size VhostUserU64))
      let (index, file) ← parseVringFd buf files
      pure (.ok (.setVringCall index file))
    | .ok .setVringKick =>
      orStop (checkRequestSize hdr size (ByteValued.size VhostUserU64))
      let (index, file) ← parseVringFd buf files
      pure (.ok (.setVringKick index file))
    | .ok .setVringErr =>
      orStop (checkRequestSize hdr size (ByteValued.size VhostUserU64))
      let (index, file) ← parseVringFd buf files
      pure (.ok (.setVringErr index file))
    | .ok .getProtocolFeatures =>
      orStop (checkRequestSize hdr size 0)
      pure (.ok .getProtocolFeatures)
    | .ok .setProtocolFeatures =>
      let msg ← extractBody VhostUserU64 hdr size buf
      pure (.ok (.setProtocolFeatures msg.value))
    | .ok .getQueueNum =>
      orStop (checkProtoFeature h VhostUserProtocolFeatures.MQ)
      orStop (checkRequestSize hdr size 0)
      pure (.ok .getQueueNum)
    | .ok .setVringEnable =>
      let msg ← extractBody VhostUserVringState hdr size buf
      orStop (checkFeature h VhostUserVirtioFeatures.PROTOCOL_FEATURES)
      if msg.num = 1 then pure (.ok (.setVringEnable msg.index true))
      else if msg.num = 0 then pure (.ok (.setVringEnable msg.index false))
      else throw (.err .invalidParam)
    | .ok .getConfig =>
      orStop (checkProtoFeature h VhostUserProtocolFeatures.CONFIG)
      orStop (checkRequestSize hdr size hdr.getSize.toNat)
      parseGetConfig buf
    | .ok .setConfig =>
      orStop (checkProtoFeature h VhostUserProtocolFeatures.CONFIG)
      orStop (checkRequestSize hdr size hdr.getSize.toNat)
      parseSetConfig size buf
    | .ok .setBackendReqFd =>
      orStop (checkProtoFeature h VhostUserProtocolFeatures.BACKEND_REQ)
      orStop (checkRequestSize hdr size hdr.getSize.toNat)
      pure (parseSocket p files .setBackendReqFd)
    | .ok .getSharedObject =>
      orStop (checkProtoFeature h VhostUserProtocolFeatures.SHARED_OBJECT)
      orStop (checkRequestSize hdr size hdr.getSize.toNat)
      let msg ← extractBody VhostUserSharedMsg hdr size buf
      let _ ← orStop (newReplyHeader h hdr (ByteValued.size VhostUserEmpty) 0)
      pure (.ok (.getSharedObject msg))
    | .ok .getInflightFd =>
      orStop (checkProtoFeature h VhostUserProtocolFeatures.INFLIGHT_SHMFD)
      let msg ← extractBody VhostUserInflight hdr size buf
      pure (.ok (.getInflightFd msg))
    | .ok .setInflightFd =>
      orStop (checkProtoFeature h VhostUserProtocolFeatures.INFLIGHT_SHMFD)
      match takeSingleFile files with
      | none => throw (.err .incorrectFds)
      | some file =>
        let msg ← extractBody VhostUserInflight hdr size buf
        pure (.ok (.setInflightFd msg file))
    | .ok .gpuSetSocket => pure (parseSocket p files .setGpuSocket)
    | .ok .getMaxMemSlots =>
      orStop (checkProtoFeature h VhostUserProtocolFeatures.CONFIGURE_MEM_SLOTS)
      orStop (checkRequestSize hdr size 0)
      pure (.ok .getMaxMemSlots)
    | .ok .addMemReg =>
      orStop (checkProtoFeature h VhostUserProtocolFeatures.CONFIGURE_MEM_SLOTS)
      match files with
      | none => throw (.err .invalidParam)
      | some files =>
        if files.length ≠ 1 then throw (.err .invalidParam)
        let msg ← extractBody VhostUserSingleMemoryRegion hdr size buf
        match files with
        | [] => throw .panic
        | file :: _ => pure (.ok (.addMemRegion msg file))
    | .ok .remMemReg =>
      orStop (checkProtoFeature h VhostUserProtocolFeatures.CONFIGURE_MEM_SLOTS)
      let msg ← extractBody VhostUserSingleMemoryRegion hdr size buf
      pure (.ok (.removeMemRegion msg))
    | .ok .setDeviceStateFd =>
      match takeSingleFile files with
      | none => throw (.err .incorrectFds)
      | some file =>
        let msg ← extractBody VhostUserTransferDeviceState hdr size buf
        let _ ← orStop (newReplyHeader h hdr (ByteValued.size VhostUserU64) 0)
        match VhostTransferStateDirection.tryFrom msg.direction, VhostTransferStatePhase.tryFrom msg.phase with
        | some direction, some phase => pure (.ok (.setDeviceStateFd direction phase file))
        | _, _ => throw (.err .invalidMessage)
    | .ok .checkDeviceState => pure (.ok .checkDeviceState)
    | .ok .getShmemConfig =>
      orStop (checkProtoFeature h VhostUserProtocolFeatures.SHMEM)
      pure (.ok .getShmemConfig)
    | .ok .postcopyAdvise =>
      if !p.postcopy then throw (.err .invalidMessage)
      orStop (checkProtoFeature h VhostUserProtocolFeatures.PAGEFAULT)
      let _ ← orStop (newReplyHeader h hdr (ByteValued.size VhostUserEmpty) 0)
      pure (.ok .postcopyAdvice)
    | .ok .postcopyListen =>
      if !p.postcopy then throw (.err .invalidMessage)
      orStop (checkProtoFeature h VhostUserProtocolFeatures.PAGEFAULT)
      pure (.ok .postcopyListen)
    | .ok .postcopyEnd =>
      if !p.postcopy then throw (.err .invalidMessage)
      orStop (checkProtoFeature h VhostUserProtocolFeatures.PAGEFAULT)
      pure (.ok .postcopyEnd)
    | .ok .setLogBase =>
      orStop (checkProtoFeature h VhostUserProtocolFeatures.LOG_SHMFD)
      match takeSingleFile files with
      | none => throw (.err .incorrectFds)
      | some file =>
        let msg ← extractBody VhostUserLog hdr size buf
        pure (.ok (.setLogBase msg file))
    | _ => throw (.err .invalidMessage)

/-! ## After the call -/

section Answer
variable {β τ : Type} (svc : Svc β τ)

/-- The rest of an arm, given what the method returned. -/
def answer (hdr : VhostUserMsgHeader FrontendReq) : (c : Call) → c.Res → M β τ Unit
  | .getFeatures, res => do
    let features ← orFail res
    sendReplyMessage svc hdr (⟨features⟩ : VhostUserU64)
    setHandler (updateReplyAckFlag { ← getHandler with virtioFeatures := features })
  | .setFeatures value, res => do
    setHandler (updateReplyAckFlag { ← getHandler with ackedVirtioFeatures := value })
    sendAckMessage svc hdr res
  | .getProtocolFeatures, res => do
    let features ← orFail res
    let features := features ||| VhostUserProtocolFeatures.REPLY_ACK
    sendReplyMessage svc hdr (⟨features⟩ : VhostUserU64)
    setHandler (updateReplyAckFlag (← getHandler))
  | .setProtocolFeatures value, res => do
    setHandler (updateReplyAckFlag { ← getHandler with ackedProtocolFeatures := value })
    sendAckMessage svc hdr res
  | .getVringBase _, res => do
    let reply ← orFail res
    sendReplyMessage svc hdr reply
  | .getQueueNum, res | .getMaxMemSlots, res => do
    let num ← orFail res
    sendReplyMessage svc hdr (⟨num⟩ : VhostUserU64)
  | .getConfig offset size flags, res =>
    match res with
    | .ok out =>
      if out.length = size.toNat then
        sendReplyWithPayload svc hdr (⟨offset, UInt32.ofNat out.length, flags⟩ : VhostUserConfig) out
      else sendReplyMessage svc hdr (⟨offset, 0, flags⟩ : VhostUserConfig)
    | .error _ => sendReplyMessage svc hdr (⟨offset, 0, flags⟩ : VhostUserConfig)
  | .setBackendReqFd _, _ => sendAckMessage svc hdr (.ok ())
  | .getSharedObject _, res | .postcopyAdvice, res => do
    let replyHdr ← orFail (newReplyHeader (← getHandler) hdr (ByteValued.size VhostUserEmpty) 0)
    match res with
    | .ok file => sendMsg svc replyHdr (⟨⟩ : VhostUserEmpty) [file]
    | .error _ => sendMsg svc replyHdr (⟨⟩ : VhostUserEmpty) []
  | .getInflightFd _, res => do
    let (inflight, file) ← orFail res
    let replyHdr ← orFail (newReplyHeader (← getHandler) hdr (ByteValued.size VhostUserInflight) 0)
    sendMsg svc replyHdr inflight [file]
  | .setDeviceStateFd .., res => do
    let replyHdr ← orFail (newReplyHeader (← getHandler) hdr (ByteValued.size VhostUserU64) 0)
    match res with
    | .ok none => sendMsg svc replyHdr (⟨0x100⟩ : VhostUserU64) []
    | .ok (some file) => sendMsg svc replyHdr (⟨0⟩ : VhostUserU64) [file]
    | .error _ => sendMsg svc replyHdr (⟨0x101⟩ : VhostUserU64) []
  | .checkDeviceState, res => do
    let msg : VhostUserU64 := match res with
      | .ok _ => ⟨0⟩
      | .error _ => ⟨1⟩
    sendReplyMessage svc hdr msg
  | .getShmemConfig, res => do
    let msg ← orFail res
    sendReplyMessage svc hdr msg
  | .setLogBase log _, res => do
    orFail res
    sendReplyMessage svc hdr log
  | .setOwner, res | .resetOwner, res | .resetDevice, res | .setMemTable .., res
  | .setVringNum .., res | .setVringAddr .., res | .setVringBase .., res | .setVringKick .., res
  | .setVringCall .., res | .setVringErr .., res | .setVringEnable .., res | .setConfig .., res
  | .setGpuSocket _, res | .setInflightFd .., res | .addMemRegion .., res | .removeMemRegion _, res
  | .postcopyListen, res | .postcopyEnd, res => sendAckMessage svc hdr res

/-- Stop, acknowledge the refusal, or make the call and answer. -/
def perform (hdr : VhostUserMsgHeader FrontendReq) : Except Stop Verdict → M β τ Unit
  | .error s => throw s
  | .ok (.error e) => sendAckMessage svc hdr (.error e)
  | .ok (.ok c) => call svc c >>= answer svc hdr c

/-! ## The two halves make the dispatch -/

theorem ofExcept_bind_congr {η κ α γ : Type} {y : Except Stop α} {f g : α → Handling η β κ τ γ}
    {x : Ctx η β κ τ} (h : ∀ a, f a x = g a x) : (ofExcept y >>= f) x = (ofExcept y >>= g) x := by
  cases y with
  | ok a => exact h a
  | error s => rfl

theorem orFail_bind_congr {η κ α γ : Type} {r : Except Error α} {f g : α → Handling η β κ τ γ}
    {x : Ctx η β κ τ} (h : ∀ a, f a x = g a x) : (orFail r >>= f) x = (orFail r >>= g) x := by
  rw [← ofExcept_orStop]
  exact ofExcept_bind_congr h

theorem getHandler_bind {η κ α : Type} (f : η → Handling η β κ τ α) (x : Ctx η β κ τ) :
    (getHandler >>= f) x = f x.handler x := rfl

theorem perform_bind {α : Type} (hdr : VhostUserMsgHeader FrontendReq) (y : Except Stop α)
    (f : α → Except Stop Verdict) :
    perform svc hdr (y >>= f) = ofExcept y >>= fun a => perform svc hdr (f a) := by
  cases y with
  | ok a => rfl
  | error s => rfl

theorem perform_orStop {α : Type} (hdr : VhostUserMsgHeader FrontendReq) (r : Except Error α)
    (f : α → Except Stop Verdict) :
    perform svc hdr (orStop r >>= f) = orFail r >>= fun a => perform svc hdr (f a) := by
  rw [perform_bind, ofExcept_orStop]

theorem perform_pure (hdr : VhostUserMsgHeader FrontendReq) (c : Call) :
    perform svc hdr (pure (.ok c)) = call svc c >>= answer svc hdr c := rfl

theorem extractRequestBody_eq (T : Type) [ByteValued T] [VhostUserMsgValidator T]
    (hdr : VhostUserMsgHeader FrontendReq) (size : Nat) (buf : List UInt8) :
    (extractRequestBody T hdr size buf : M β τ T) = ofExcept (extractBody T hdr size buf) := by
  unfold extractRequestBody extractBody
  rw [ofExcept_bind, ofExcept_orStop]
  congr 1
  funext _
  rw [ofExcept_bind, ofExcept_readAt]
  congr 1
  funext msg
  split
  · rfl
  · rfl

theorem readRegions_eq (n : Nat) (buf : List UInt8) :
    (readRegions n buf : M β τ (List VhostUserMemoryRegion)) = ofExcept (recordsAt n buf) := by
  induction n generalizing buf with
  | zero => rfl
  | succ n ih =>
    unfold readRegions recordsAt
    rw [ofExcept_bind, ofExcept_readAt]
    congr 1
    funext r
    rw [ih, ofExcept_bind]
    rfl

theorem setMemTable_eq (hdr : VhostUserMsgHeader FrontendReq) (size : Nat) (buf : List UInt8)
    (files : Option (List File)) :
    (setMemTable svc hdr size buf files >>= fun res => sendAckMessage svc hdr res) =
      perform svc hdr (parseMemTable hdr size buf files) := by
  unfold setMemTable parseMemTable
  cases checkRequestSize hdr size hdr.getSize.toNat with
  | error e => rfl
  | ok _ =>
    dsimp only
    split
    · rfl
    · rw [perform_bind, ofExcept_readAt, bind_assoc]
      congr 1
      funext msg
      split
      · rfl
      · split
        · rfl
        · cases files with
          | none => rfl
          | some files =>
            dsimp only
            split
            · rfl
            · rw [perform_bind, bind_assoc, readRegions_eq]
              congr 1
              funext regions
              split
              · rfl
              · rfl

theorem getConfig_eq (hdr : VhostUserMsgHeader FrontendReq) (buf : List UInt8) :
    getConfig svc hdr buf = perform svc hdr (parseGetConfig buf) := by
  unfold getConfig parseGetConfig
  dsimp only
  split
  · rfl
  · rw [perform_bind, ofExcept_readAt]
    congr 1
    funext msg
    split
    · rfl
    · rw [perform_bind, ofExcept_subAt]
      congr 1
      funext rest
      split
      · rfl
      · cases fromBits vhostUserConfigFlagsAll msg.flags with
        | none => rfl
        | some flags =>
          dsimp only
          rw [perform_pure]
          congr 1
          funext res
          cases res with
          | ok out => rfl
          | error e => rfl

theorem setConfig_eq (hdr : VhostUserMsgHeader FrontendReq) (size : Nat) (buf : List UInt8) :
    (setConfig svc size buf >>= fun res => sendAckMessage svc hdr res) =
      perform svc hdr (parseSetConfig size buf) := by
  unfold setConfig parseSetConfig
  split
  · rfl
  · rw [perform_bind, ofExcept_readAt, bind_assoc]
    congr 1
    funext msg
    split
    · rfl
    · rw [perform_bind, ofExcept_subAt, bind_assoc]
      congr 1
      funext rest
      split
      · rfl
      · cases fromBits vhostUserConfigFlagsAll msg.flags with
        | none => rfl
        | some flags =>
          dsimp only
          split
          · rfl
          · rfl

theorem setBackendReqFd_eq (p : Platform) (hdr : VhostUserMsgHeader FrontendReq) (files : Option (List File)) :
    (setBackendReqFd svc p files >>= fun res => sendAckMessage svc hdr res) =
      perform svc hdr (pure (parseSocket p files .setBackendReqFd)) := by
  unfold setBackendReqFd parseSocket
  cases takeSingleFile files with
  | none => rfl
  | some file =>
    dsimp only
    cases validateUnixStreamSocketFd p file with
    | error e => rfl
    | ok _ => rfl

theorem setGpuSocket_eq (p : Platform) (hdr : VhostUserMsgHeader FrontendReq) (files : Option (List File)) :
    (setGpuSocket svc p files >>= fun res => sendAckMessage svc hdr res) =
      perform svc hdr (pure (parseSocket p files .setGpuSocket)) := by
  unfold setGpuSocket parseSocket
  cases takeSingleFile files with
  | none => rfl
  | some file =>
    dsimp only
    cases validateUnixStreamSocketFd p file with
    | error e => rfl
    | ok _ => rfl

theorem handleVringFdRequest_eq (buf : List UInt8) (files : Option (List File)) :
    (handleVringFdRequest buf files : M β τ (UInt8 × Option File)) = ofExcept (parseVringFd buf files) := by
  unfold handleVringFdRequest parseVringFd
  dsimp only
  split
  · rfl
  · rw [ofExcept_bind, ofExcept_readAt]
    congr 1
    funext msg
    split
    · rfl
    · split
      · rfl
      · rfl

/-- A reply header made before the call is the one made after it: the backend cannot touch the
handler's fields. -/
theorem newReplyHeader_late (hdr : VhostUserMsgHeader FrontendReq) (n : Nat) (c : Call)
    (k : VhostUserMsgHeader FrontendReq → c.Res → M β τ Unit) (x : Ctx BackendReqHandler β Call τ) :
    (orFail (newReplyHeader x.handler hdr n 0) >>= fun replyHdr => call svc c >>= k replyHdr) x =
      (orFail (newReplyHeader x.handler hdr n 0) >>= fun _ => call svc c >>= fun res =>
        getHandler >>= fun h => orFail (newReplyHeader h hdr n 0) >>= fun replyHdr => k replyHdr res) x := by
  cases hr : newReplyHeader x.handler hdr n 0 with
  | error e => rfl
  | ok replyHdr =>
    rw [bind_of_ok (orFail_ok_apply _ _), bind_of_ok (orFail_ok_apply _ _), bind_of_ok (call_apply _ _ _),
      bind_of_ok (call_apply _ _ _), getHandler_bind, hr, bind_of_ok (orFail_ok_apply _ _)]

/-- What a request does is what it was parsed to. -/
theorem dispatch_eq (p : Platform) (req : Request FrontendReq) (x : Ctx BackendReqHandler β Call τ) :
    dispatch svc p req x = perform svc req.hdr (parse p x.handler req) x := by
  obtain ⟨hdr, size, buf, files⟩ := req
  cases hcode : hdr.getCode with
  | error e => simp only [dispatch, parse, hcode]; rfl
  | ok code =>
    cases code with
    | setOwner | resetOwner | getFeatures | getProtocolFeatures =>
      simp only [dispatch, parse, hcode]
      rw [perform_orStop]
      rfl
    | resetDevice | getQueueNum | getMaxMemSlots =>
      simp only [dispatch, parse, hcode]
      rw [getHandler_bind, perform_orStop]
      apply orFail_bind_congr
      intro _
      rw [perform_orStop]
      rfl
    | setFeatures | setProtocolFeatures | setVringNum | setVringBase | getVringBase =>
      simp only [dispatch, parse, hcode]
      rw [perform_bind, extractRequestBody_eq]
      rfl
    | setVringAddr =>
      simp only [dispatch, parse, hcode]
      rw [perform_bind, extractRequestBody_eq]
      apply ofExcept_bind_congr
      intro msg
      cases fromBits vhostUserVringAddrFlagsAll msg.flags with
      | none => rfl
      | some flags => rfl
    | setVringCall | setVringKick | setVringErr =>
      simp only [dispatch, parse, hcode]
      rw [perform_orStop]
      apply orFail_bind_congr
      intro _
      rw [perform_bind, handleVringFdRequest_eq]
      rfl
    | setVringEnable =>
      simp only [dispatch, parse, hcode]
      rw [perform_bind, extractRequestBody_eq]
      apply ofExcept_bind_congr
      intro msg
      rw [getHandler_bind, perform_orStop]
      apply orFail_bind_congr
      intro _
      split
      · rfl
      · split
        · rfl
        · rfl
    | setMemTable =>
      simp only [dispatch, parse, hcode]
      rw [setMemTable_eq]
    | getConfig =>
      simp only [dispatch, parse, hcode]
      rw [getHandler_bind, perform_orStop]
      apply orFail_bind_congr
      intro _
      rw [perform_orStop, getConfig_eq]
    | setConfig =>
      simp only [dispatch, parse, hcode]
      rw [getHandler_bind, perform_orStop]
      apply orFail_bind_congr
      intro _
      rw [perform_orStop, setConfig_eq]
    | setBackendReqFd =>
      simp only [dispatch, parse, hcode]
      rw [getHandler_bind, perform_orStop]
      apply orFail_bind_congr
      intro _
      rw [perform_orStop, setBackendReqFd_eq]
    | gpuSetSocket =>
      simp only [dispatch, parse, hcode]
      rw [setGpuSocket_eq]
    | getInflightFd | remMemReg =>
      simp only [dispatch, parse, hcode]
      rw [getHandler_bind, perform_orStop]
      apply orFail_bind_congr
      intro _
      rw [perform_bind, extractRequestBody_eq]
      rfl
    | setInflightFd | setLogBase =>
      simp only [dispatch, parse, hcode]
      rw [getHandler_bind, perform_orStop]
      apply orFail_bind_congr
      intro _
      cases takeSingleFile files with
      | none => rfl
      | some file =>
        dsimp only
        rw [perform_bind, extractRequestBody_eq]
        rfl
    | addMemReg =>
      simp only [dispatch, parse, hcode]
      rw [getHandler_bind, perform_orStop]
      apply orFail_bind_congr
      intro _
      cases files with
      | none => rfl
      | some files =>
        dsimp only
        split
        · rfl
        · rw [perform_bind, extractRequestBody_eq]
          apply ofExcept_bind_congr
          intro msg
          cases files with
          | nil => rfl
          | cons file rest => rfl
    | getSharedObject =>
      simp only [dispatch, parse, hcode]
      rw [getHandler_bind, perform_orStop]
      apply orFail_bind_congr
      intro _
      rw [perform_orStop]
      apply orFail_bind_congr
      intro _
      rw [perform_bind, extractRequestBody_eq]
      apply ofExcept_bind_congr
      intro msg
      rw [getHandler_bind, perform_orStop]
      exact newReplyHeader_late svc hdr _ (.getSharedObject msg) _ x
    | postcopyListen | postcopyEnd =>
      simp only [dispatch, parse, hcode]
      split
      · rfl
      · rw [getHandler_bind, perform_orStop]
        rfl
    | checkDeviceState =>
      simp only [dispatch, parse, hcode]
      rw [perform_pure]
      rfl
    | getShmemConfig =>
      simp only [dispatch, parse, hcode]
      rw [getHandler_bind, perform_orStop]
      rfl
    | postcopyAdvise =>
      simp only [dispatch, parse, hcode]
      split
      · rfl
      · rw [getHandler_bind, perform_orStop]
        apply orFail_bind_congr
        intro _
        rw [getHandler_bind, perform_orStop]
        exact newReplyHeader_late svc hdr _ .postcopyAdvice _ x
    | setDeviceStateFd =>
      simp only [dispatch, parse, hcode]
      cases takeSingleFile files with
      | none => rfl
      | some file =>
        dsimp only
        rw [perform_bind, extractRequestBody_eq]
        apply ofExcept_bind_congr
        intro msg
        rw [getHandler_bind, perform_orStop]
        cases hd : VhostTransferStateDirection.tryFrom msg.direction with
        | none => rfl
        | some direction =>
          cases hp : VhostTransferStatePhase.tryFrom msg.phase with
          | none => rfl
          | some phase =>
            refine (newReplyHeader_late svc hdr _ (.setDeviceStateFd direction phase file) _ x).trans ?_
            apply orFail_bind_congr
            intro _
            rw [perform_pure, bind_of_ok (call_apply _ _ _), bind_of_ok (call_apply _ _ _)]
            obtain e | (_ | fd) := (svc.invoke (.setDeviceStateFd direction phase file) x.backend).1
            · rfl
            · rfl
            · rfl
    | _ =>
      simp only [dispatch, parse, hcode]
      rfl

/-! ## Reasoning about an answer

A property of computations that is closed under sequencing and holds of the handful of steps an
answer is made of holds of every answer. -/

/-- The change an answer makes to the handler's own fields. -/
def updateOf : (c : Call) → c.Res → Option (BackendReqHandler → BackendReqHandler)
  | .getFeatures, .ok features => some fun h => updateReplyAckFlag { h with virtioFeatures := features }
  | .setFeatures value, _ => some fun h => updateReplyAckFlag { h with ackedVirtioFeatures := value }
  | .getProtocolFeatures, .ok _ => some updateReplyAckFlag
  | .setProtocolFeatures value, _ =>
    some fun h => updateReplyAckFlag { h with ackedProtocolFeatures := value }
  | _, _ => none

structure Rules (P : {α : Type} → M β τ α → Prop) : Prop where
  pure : ∀ {α : Type} (a : α), P (Pure.pure a : M β τ α)
  fail : ∀ {α : Type} (e : Error), P (fail e : M β τ α)
  bind : ∀ {α γ : Type} {y : M β τ α} {f : α → M β τ γ}, P y → (∀ a, P (f a)) → P (y >>= f)
  getHandler : P (getHandler : M β τ BackendReqHandler)
  reply : ∀ {T : Type} [ByteValued T] (h : BackendReqHandler) (req : VhostUserMsgHeader FrontendReq)
    (msg : T) (fds : List File), fds.length ≤ 1 →
    P (orFail (newReplyHeader h req (ByteValued.size T) 0) >>= fun hdr => sendMsg svc hdr msg fds)
  replyWithPayload : ∀ {T : Type} [ByteValued T] (h : BackendReqHandler)
    (req : VhostUserMsgHeader FrontendReq) (msg : T) (payload : List UInt8),
    P (orFail (newReplyHeader h req (ByteValued.size T) payload.length) >>= fun hdr =>
      sendMsgWithPayload svc hdr msg payload [])

namespace Rules
variable {svc} {P : {α : Type} → M β τ α → Prop} (hP : Rules svc P)
include hP

theorem orFail {α : Type} (r : Except Error α) : P (orFail r : M β τ α) := by
  cases r with
  | ok a => exact hP.pure a
  | error e => exact hP.fail e

theorem sendReplyMessage {T : Type} [ByteValued T] (req : VhostUserMsgHeader FrontendReq) (msg : T) :
    P (sendReplyMessage svc req msg) :=
  hP.bind hP.getHandler fun h => hP.reply h req msg [] (Nat.zero_le _)

theorem sendAckMessage (req : VhostUserMsgHeader FrontendReq) (res : Except Error Unit) :
    P (sendAckMessage svc req res) := by
  refine hP.bind hP.getHandler fun h => ?_
  split
  · rw [← bind_assoc]
    exact hP.bind (hP.reply h req _ [] (Nat.zero_le _)) fun _ => hP.orFail res
  · exact hP.orFail res

theorem answer (hdr : VhostUserMsgHeader FrontendReq) (c : Call) (res : c.Res)
    (hupdate : ∀ f ∈ updateOf c res, P (VhostUser.getHandler >>= fun h => setHandler (f h) : M β τ Unit)) :
    P (answer svc hdr c res) := by
  cases c with
  | getFeatures | getProtocolFeatures =>
    cases res with
    | ok features =>
      -- the `?` has nothing to do
      have hreply (msg : VhostUserU64) := hP.bind (hP.sendReplyMessage hdr msg) fun _ => hupdate _ rfl
      exact hreply _
    | error e => exact hP.fail e
  | setFeatures value | setProtocolFeatures value =>
    have hset := hP.bind (hupdate _ rfl) fun _ => hP.sendAckMessage hdr res
    rwa [bind_assoc] at hset
  | getVringBase _ | getQueueNum | getMaxMemSlots | getShmemConfig | setLogBase _ _ =>
    exact hP.bind (hP.orFail res) fun _ => hP.sendReplyMessage hdr _
  | getConfig offset size flags =>
    cases res with
    | ok out =>
      unfold BackendReqHandler.answer
      dsimp only
      split
      · exact hP.bind hP.getHandler fun h => hP.replyWithPayload h hdr _ out
      · exact hP.sendReplyMessage hdr _
    | error e => exact hP.sendReplyMessage hdr _
  | setBackendReqFd _ => exact hP.sendAckMessage hdr (.ok ())
  | getSharedObject _ | postcopyAdvice =>
    refine hP.bind hP.getHandler fun h => ?_
    cases res with
    | ok file => exact hP.reply h hdr (⟨⟩ : VhostUserEmpty) [file] (Nat.le_refl 1)
    | error e => exact hP.reply h hdr (⟨⟩ : VhostUserEmpty) [] (Nat.zero_le _)
  | getInflightFd _ =>
    refine hP.bind (hP.orFail res) fun r => ?_
    exact hP.bind hP.getHandler fun h => hP.reply h hdr r.1 [r.2] (Nat.le_refl 1)
  | setDeviceStateFd _ _ _ =>
    refine hP.bind hP.getHandler fun h => ?_
    obtain e | (_ | fd) := res
    · exact hP.reply h hdr (⟨0x101⟩ : VhostUserU64) [] (Nat.zero_le _)
    · exact hP.reply h hdr (⟨0x100⟩ : VhostUserU64) [] (Nat.zero_le _)
    · exact hP.reply h hdr (⟨0⟩ : VhostUserU64) [fd] (Nat.le_refl 1)
  | checkDeviceState => exact hP.sendReplyMessage hdr _
  | _ => exact hP.sendAckMessage hdr res

end Rules

theorem rules_keeps {γ : Type} {q : Ctx BackendReqHandler β Call τ → γ}
    (hsock : ∀ x sock, q { x with sock := sock } = q x) : Rules svc (Keeps q) where
  pure a := .pure a
  fail _ := .throw _
  bind hy hf := .bind hy hf
  getHandler := fun _ => rfl
  reply _ _ msg fds _ := .bind (keeps_orFail _) fun hdr => keeps_sendMsg hsock svc hdr msg fds
  replyWithPayload _ _ msg payload :=
    .bind (keeps_orFail _) fun hdr => keeps_sendMsgWithPayload hsock svc hdr msg payload []

theorem rules_noPanic : Rules svc (NoPanic (β := β) (τ := τ)) where
  pure a := noPanic_orFail (.ok a)
  fail e := noPanic_orFail (.error e)
  bind hy hf := .bind hy hf
  getHandler := fun x x' h => by simp at h
  reply _ _ msg fds _ := .bind (noPanic_orFail _) fun hdr => noPanic_sendMsg svc hdr msg fds
  replyWithPayload _ _ msg payload :=
    .bind (noPanic_orFail _) fun hdr => noPanic_sendMsgWithPayload svc hdr msg payload []

theorem noPanic_answer (hdr : VhostUserMsgHeader FrontendReq) (c : Call) (res : c.Res) :
    NoPanic (answer svc hdr c res) :=
  (rules_noPanic svc).answer hdr c res fun _ _ => .bind (rules_noPanic svc).getHandler fun _ _ _ heq => by
    cases heq

/-- Answering touches the socket and the handler's own fields only. -/
theorem keeps_answer {γ : Type} {q : Ctx BackendReqHandler β Call τ → γ}
    (hsock : ∀ x sock, q { x with sock := sock } = q x) (hdr : VhostUserMsgHeader FrontendReq) (c : Call)
    (res : c.Res) (hupdate : ∀ f ∈ updateOf c res, ∀ x, q { x with handler := f x.handler } = q x) :
    Keeps q (answer svc hdr c res) :=
  (rules_keeps svc hsock).answer hdr c res fun f hf x => hupdate f hf x

/-- The calls a verdict stands for: one or none. -/
def callsOf : Except Stop Verdict → List Call
  | .ok (.ok c) => [c]
  | _ => []

@[simp] theorem callsOf_stop (s : Stop) : callsOf (.error s) = [] := rfl
@[simp] theorem callsOf_refused (e : Error) : callsOf (.ok (.error e)) = [] := rfl
@[simp] theorem callsOf_call (c : Call) : callsOf (.ok (.ok c)) = [c] := rfl

/-- The object after the calls of a verdict. -/
def afterCall (v : Except Stop Verdict) (b : β) : β :=
  (callsOf v).foldl (fun b c => (svc.invoke c b).2) b

theorem final_perform (hdr : VhostUserMsgHeader FrontendReq) (v : Except Stop Verdict)
    (x : Ctx BackendReqHandler β Call τ) :
    (final (perform svc hdr v x)).calls = x.calls ++ callsOf v ∧
      (final (perform svc hdr v x)).backend = afterCall svc v x.backend := by
  obtain s | e | c := v
  · simp [perform, afterCall, throw_apply, final]
  · have hkeep := keeps_sendAckMessage (p := fun x => (x.calls, x.backend)) svc (fun _ _ => rfl) hdr (.error e) x
    simp only [Prod.mk.injEq] at hkeep
    rw [callsOf_refused, List.append_nil]
    exact hkeep
  · have hkeep := keeps_answer (q := fun x => (x.calls, x.backend)) svc (fun _ _ => rfl) hdr c
      (svc.invoke c x.backend).1 (fun _ _ _ => rfl) { x with backend := (svc.invoke c x.backend).2, calls := x.calls ++ [c] }
    simp only [Prod.mk.injEq] at hkeep
    rw [perform, bind_of_ok (call_apply _ _ _)]
    exact hkeep

/-- The calls a request makes are those it was parsed to. -/
theorem calls_dispatch (p : Platform) (req : Request FrontendReq) (x : Ctx BackendReqHandler β Call τ) :
    (final (dispatch svc p req x)).calls = x.calls ++ callsOf (parse p x.handler req) := by
  rw [dispatch_eq]
  exact (final_perform svc req.hdr _ x).1

theorem backend_dispatch (p : Platform) (req : Request FrontendReq) (x : Ctx BackendReqHandler β Call τ) :
    (final (dispatch svc p req x)).backend = afterCall svc (parse p x.handler req) x.backend := by
  rw [dispatch_eq]
  exact (final_perform svc req.hdr _ x).2

end Answer

end BackendReqHandler

/-! ## The frontend's handler -/

namespace FrontendReqHandler

def extractBody (T : Type) [ByteValued T] [VhostUserMsgValidator T]
    (hdr : VhostUserMsgHeader BackendReq) (size : Nat) (buf : List UInt8) : Except Stop T := do
  orStop (checkMsgSize hdr size (ByteValued.size T))
  let msg ← readAt T buf
  if !VhostUserMsgValidator.isValid msg then throw (.err .invalidMessage)
  pure msg

/-- `firstFile` without the state. -/
def fileAt : Option (List File) → Except Stop File
  | some (f :: _) => .ok f
  | _ => .error .panic

def parse : Request BackendReq → Except Stop (Except Error FrontendCall)
  | ⟨hdr, size, buf, files⟩ => do
    match hdr.getCode with
    | .ok .configChangeMsg =>
      orStop (checkMsgSize hdr size 0)
      pure (.ok .handleConfigChange)
    | .ok .sharedObjectAdd =>
      let msg ← extractBody VhostUserSharedMsg hdr size buf
      pure (.ok (.sharedObjectAdd msg))
    | .ok .sharedObjectRemove =>
      let msg ← extractBody VhostUserSharedMsg hdr size buf
      pure (.ok (.sharedObjectRemove msg))
    | .ok .sharedObjectLookup =>
      let msg ← extractBody VhostUserSharedMsg hdr size buf
      pure (.ok (.sharedObjectLookup msg (← fileAt files)))
    | .ok .shmemMap =>
      let msg ← extractBody VhostUserMMap hdr size buf
      pure (.ok (.shmemMap msg (← fileAt files)))
    | .ok .shmemUnmap =>
      let msg ← extractBody VhostUserMMap hdr size buf
      pure (.ok (.shmemUnmap msg))
    | _ => pure (.error .invalidMessage)

variable {β τ : Type} (svc : Svc β τ)

/-- Acknowledge the result and return it. -/
def finish (hdr : VhostUserMsgHeader BackendReq) (res : Except Error UInt64) : M β τ UInt64 := do
  sendAckMessage svc hdr res
  orFail res

def perform (hdr : VhostUserMsgHeader BackendReq) : Except Stop (Except Error FrontendCall) → M β τ UInt64
  | .error s => throw s
  | .ok (.error e) => finish svc hdr (.error e)
  | .ok (.ok c) => call svc c >>= fun r => finish svc hdr (mapErr r)

theorem perform_bind {α : Type} (hdr : VhostUserMsgHeader BackendReq) (y : Except Stop α)
    (f : α → Except Stop (Except Error FrontendCall)) :
    perform svc hdr (y >>= f) = ofExcept y >>= fun a => perform svc hdr (f a) := by
  cases y with
  | ok a => rfl
  | error s => rfl

theorem extractMsgBody_eq (T : Type) [ByteValued T] [VhostUserMsgValidator T]
    (hdr : VhostUserMsgHeader BackendReq) (size : Nat) (buf : List UInt8) :
    (extractMsgBody T hdr size buf : M β τ T) = ofExcept (extractBody T hdr size buf) := by
  unfold extractMsgBody extractBody
  rw [ofExcept_bind, ofExcept_orStop]
  congr 1
  funext _
  rw [ofExcept_bind, ofExcept_readAt]
  congr 1
  funext msg
  split
  · rfl
  · rfl

theorem firstFile_eq (files : Option (List File)) :
    (firstFile files : M β τ File) = ofExcept (fileAt files) := by
  obtain _ | (_ | ⟨f, fs⟩) := files
  · rfl
  · rfl
  · rfl

theorem dispatch_eq (req : Request BackendReq) : dispatch svc req = perform svc req.hdr (parse req) := by
  obtain ⟨hdr, size, buf, files⟩ := req
  cases hcode : hdr.getCode with
  | error e =>
    simp only [dispatch, handle, parse, hcode]
    rfl
  | ok code =>
    cases code with
    | configChangeMsg =>
      simp only [dispatch, handle, parse, hcode]
      rw [perform_bind, ofExcept_orStop, bind_assoc]
      rfl
    | sharedObjectAdd | sharedObjectRemove | shmemUnmap =>
      simp only [dispatch, handle, parse, hcode]
      rw [perform_bind, extractMsgBody_eq, bind_assoc]
      rfl
    | sharedObjectLookup | shmemMap =>
      simp only [dispatch, handle, parse, hcode]
      rw [perform_bind, extractMsgBody_eq, bind_assoc]
      congr 1
      funext msg
      rw [perform_bind, firstFile_eq, bind_assoc]
      rfl
    | _ =>
      simp only [dispatch, handle, parse, hcode]
      rfl

end FrontendReqHandler

end VhostUser
