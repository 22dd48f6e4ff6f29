import VhostUser.Request
/-!
# `FrontendReqHandler` (`vhost/src/vhost_user/frontend_req_handler.rs`)

| here | there |
| --- | --- |
| `FrontendCall`       | the methods of `VhostUserFrontendReqHandler` (`:30-68`) |
| `FrontendReqHandler` | the handler's fields (`:153-164`); the sockets and the served object are in `Ctx` |
| `dispatch`           | the `match` on the request code and the acknowledgement (`:247-297`) |
| `checkMsgSize` … `sendAckMessage` | the helpers (`:299-398`) |
-/
namespace VhostUser
open Bytes

/-- One call of a `VhostUserFrontendReqHandler` method. -/
inductive FrontendCall where
  | handleConfigChange
  | sharedObjectAdd (uuid : VhostUserSharedMsg)
  | sharedObjectRemove (uuid : VhostUserSharedMsg)
  | sharedObjectLookup (uuid : VhostUserSharedMsg) (fd : File)
  | shmemMap (req : VhostUserMMap) (fd : File)
  | shmemUnmap (req : VhostUserMMap)
deriving DecidableEq

/-- Every method returns a `HandlerResult<u64>`. -/
@[reducible] def FrontendCall.Res (_ : FrontendCall) : Type := Except IoError UInt64

structure FrontendReqHandler where
  replyAckNegotiated : Bool
  error : Option Int32
deriving DecidableEq, Repr

namespace FrontendReqHandler

abbrev M (β τ : Type) := Handling FrontendReqHandler β FrontendCall τ
abbrev Svc (β τ : Type) := Service FrontendCall FrontendCall.Res β τ

def new : FrontendReqHandler := ⟨false, none⟩

def setReplyAckFlag (h : FrontendReqHandler) (enable : Bool) : FrontendReqHandler :=
  { h with replyAckNegotiated := enable }

def setFailed (h : FrontendReqHandler) (error : Int32) : FrontendReqHandler :=
  { h with error := if error = 0 then none else some error }

def checkState (h : FrontendReqHandler) : Except Error Unit :=
  match h.error with
  | some e => .error (.socketBroken (.errno e))
  | none => .ok ()

def checkMsgSize (hdr : VhostUserMsgHeader BackendReq) (size expected : Nat) : Except Error Unit :=
  if hdr.getSize.toNat ≠ expected || hdr.isReply || hdr.getVersion != 0x1 || size ≠ expected then
    .error .invalidMessage
  else .ok ()

def checkAttachedFiles (hdr : VhostUserMsgHeader BackendReq) (files : Option (List File)) :
    Except Error Unit :=
  match hdr.getCode with
  | .ok .sharedObjectLookup | .ok .shmemMap =>
    match files with
    | some files => if files.length = 1 then .ok () else .error .invalidMessage
    | none => .error .invalidMessage
  | _ => if files.isSome then .error .invalidMessage else .ok ()

def newReplyHeader (h : FrontendReqHandler) (req : VhostUserMsgHeader BackendReq) (tsize : Nat) :
    Except Error (VhostUserMsgHeader BackendReq) :=
  if tsize > maxMsgSize then .error .invalidParam
  else match checkState h with
    | .error e => .error e
    | .ok () =>
      match req.getCode with
      | .error e => .error e
      | .ok code => .ok (VhostUserMsgHeader.new code VhostUserHeaderFlag.REPLY (UInt32.ofNat tsize))

/-- `-rawerr as u64`: sign extension of the negated `i32`. -/
def negErrno (rawerr : Int32) : UInt64 := (-rawerr).toInt64.toUInt64

def EINVAL : Int32 := 22

/-- The value an acknowledgement carries. -/
def ackValue : Except Error UInt64 → UInt64
  | .ok n => n
  | .error (.reqHandlerError ioerr) =>
    match ioerr.rawOsError with
    | some rawerr => negErrno rawerr
    | none => negErrno EINVAL
  | .error _ => negErrno EINVAL

variable {β τ : Type} (svc : Svc β τ)

def sendAckMessage (req : VhostUserMsgHeader BackendReq) (res : Except Error UInt64) : M β τ Unit := do
  let h ← getHandler
  if h.replyAckNegotiated && req.isNeedReply then
    let hdr ← orFail (newReplyHeader h req (ByteValued.size VhostUserU64))
    sendMsg svc hdr (⟨ackValue res⟩ : VhostUserU64) []

def extractMsgBody (T : Type) [ByteValued T] [VhostUserMsgValidator T]
    (hdr : VhostUserMsgHeader BackendReq) (size : Nat) (buf : List UInt8) : M β τ T := do
  orFail (checkMsgSize hdr size (ByteValued.size T))
  let msg ← readUnaligned T buf
  if !VhostUserMsgValidator.isValid msg then fail .invalidMessage
  pure msg

/-- `files.unwrap()[0]`. -/
def firstFile (files : Option (List File)) : M β τ File :=
  match files with
  | some (f :: _) => pure f
  | _ => throw .panic

/-- `.map_err(Error::ReqHandlerError)`. -/
def mapErr : Except IoError UInt64 → Except Error UInt64
  | .ok n => .ok n
  | .error e => .error (.reqHandlerError e)

/-- The `match` of `handle_request`: the `Result` to be acknowledged. -/
def handle : Request BackendReq → M β τ (Except Error UInt64)
  | ⟨hdr, size, buf, files⟩ => do
    match hdr.getCode with
    | .ok .configChangeMsg =>
      orFail (checkMsgSize hdr size 0)
      return mapErr (← call svc .handleConfigChange)
    | .ok .sharedObjectAdd =>
      let msg ← extractMsgBody VhostUserSharedMsg hdr size buf
      return mapErr (← call svc (.sharedObjectAdd msg))
    | .ok .sharedObjectRemove =>
      let msg ← extractMsgBody VhostUserSharedMsg hdr size buf
      return mapErr (← call svc (.sharedObjectRemove msg))
    | .ok .sharedObjectLookup =>
      let msg ← extractMsgBody VhostUserSharedMsg hdr size buf
      return mapErr (← call svc (.sharedObjectLookup msg (← firstFile files)))
    | .ok .shmemMap =>
      let msg ← extractMsgBody VhostUserMMap hdr size buf
      return mapErr (← call svc (.shmemMap msg (← firstFile files)))
    | .ok .shmemUnmap =>
      let msg ← extractMsgBody VhostUserMMap hdr size buf
      return mapErr (← call svc (.shmemUnmap msg))
    | _ => return .error .invalidMessage

def dispatch (req : Request BackendReq) : M β τ UInt64 := do
  let res ← handle svc req
  sendAckMessage svc req.hdr res
  orFail res

/-- `FrontendReqHandler::handle_request`. -/
def handleRequest :
    Ctx FrontendReqHandler β FrontendCall τ → RxSock →
      Outcome (Except Error UInt64 × Ctx FrontendReqHandler β FrontendCall τ × RxSock) :=
  serve checkState (recvRequest checkAttachedFiles fun len => decide (len ≤ maxMsgSize)) (dispatch svc)

end FrontendReqHandler

end VhostUser
