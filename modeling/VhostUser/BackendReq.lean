import VhostUser.Dispatch
import VhostUser.Frontend
import VhostUser.Segmentation
/-!
# `Backend`, the proxy for requests to the frontend (`vhost/src/vhost_user/backend_req.rs`)

| here | there |
| --- | --- |
| `BackendInternal`   | the state behind the mutex (`:22-36`); the socket is in `BackendCtx` |
| `checkState` `sendMessage` `waitForAck` | `BackendInternal`'s methods (`:38-80`) |
| `sharedObjectAdd` … `shmemUnmap` | `VhostUserFrontendReqHandler for Backend` (`:148-201`) |
| `Backend.forward`   | the methods as the calls of a `FrontendReqHandler` |

The second half joins a proxy to a `FrontendReqHandler` and follows one request there and back.
The handler leaves early, without a reply, when the body is not valid or did not come in one
receive, and its acknowledgement carries `-errno`, so an error of number 0 looks like a success:
`answered_iff`.
-/
namespace VhostUser
open Bytes EState

structure BackendInternal where
  replyAckNegotiated : Bool
  sharedObjectNegotiated : Bool
  shmemNegotiated : Bool
  error : Option Int32
deriving DecidableEq, Repr

structure BackendCtx (τ : Type) where
  node : BackendInternal
  sock : τ

namespace Backend

abbrev M (τ : Type) := EStateM Error (BackendCtx τ)
/-- The trait's methods return a `HandlerResult`. -/
abbrev IoM (τ : Type) := EStateM IoError (BackendCtx τ)

def new : BackendInternal := ⟨false, false, false, none⟩

def checkState (node : BackendInternal) : Except Error Unit :=
  match node.error with
  | some e => .error (.socketBroken (.errno e))
  | none => .ok ()

theorem checkState_broken {node : BackendInternal} (h : node.error ≠ none) : ∃ e, checkState node = .error e := by
  cases herr : node.error with
  | none => exact absurd herr h
  | some n => exact ⟨_, by rw [checkState, herr]⟩

section
variable {τ α : Type}

def orThrow : Except Error α → M τ α
  | .ok a => pure a
  | .error e => throw e

def getNode : M τ BackendInternal := do
  let x ← get
  pure x.node

variable (ch : Channel τ)

def sendBytes (bytes : List UInt8) (fds : List File) : M τ Unit := do
  let x ← get
  let (r, sock) := ch.send bytes fds x.sock
  set { x with sock := sock }
  orThrow r

def recvBytes (n : Nat) : M τ (List UInt8 × Option (List File)) := do
  let x ← get
  let (r, sock) := ch.recv n x.sock
  set { x with sock := sock }
  orThrow r

/-- `sock.recv_body::<T>()`. -/
def recvBody (T : Type) [ByteValued T] [VhostUserMsgValidator T] :
    M τ (VhostUserMsgHeader BackendReq × T × Option (List File)) := do
  let total := ByteValued.size (VhostUserMsgHeader BackendReq) + ByteValued.size T
  let (bytes, files) ← recvBytes ch total
  let hdr : VhostUserMsgHeader BackendReq := ByteValued.fromSlice bytes
  let body : T := ByteValued.fromSlice (bytes.drop (ByteValued.size (VhostUserMsgHeader BackendReq)))
  if bytes.length ≠ total then throw .partialMessage
  if !hdr.isValid || !VhostUserMsgValidator.isValid body then throw .invalidMessage
  pure (hdr, body, files)

def waitForAck (hdr : VhostUserMsgHeader BackendReq) : M τ UInt64 := do
  let node ← getNode
  orThrow (checkState node)
  if !node.replyAckNegotiated then return 0
  let (reply, body, rfds) ← recvBody ch VhostUserU64
  if !reply.isReplyFor hdr || rfds.isSome || !VhostUserMsgValidator.isValid body then throw .invalidMessage
  if body.value ≠ 0 then throw .frontendInternalError
  pure body.value

/-- The header of a request with a body of `len` bytes. -/
def requestHeader (node : BackendInternal) (request : BackendReq) (len : Nat) : VhostUserMsgHeader BackendReq :=
  let hdr := VhostUserMsgHeader.new request 0 (UInt32.ofNat len)
  if node.replyAckNegotiated then hdr.setNeedReply true else hdr

def sendMessage {T : Type} [ByteValued T] (request : BackendReq) (body : T) (fds : List File) : M τ UInt64 := do
  let node ← getNode
  orThrow (checkState node)
  let hdr := requestHeader node request (ByteValued.size T)
  if ByteValued.size T > maxMsgSize then throw .oversizedMsg
  sendBytes ch (ByteValued.asSlice hdr ++ ByteValued.asSlice body) fds
  waitForAck ch hdr

/-- `From<Error> for io::Error`: the error wrapped by `io::Error::other`. -/
def intoIo (y : M τ α) : IoM τ α := fun x =>
  match y x with
  | .ok a x' => .ok a x'
  | .error _ x' => .error (.ofKind .other) x'

/-- A method that is refused unless its protocol feature is negotiated. -/
def gated (negotiated : BackendInternal → Bool) (y : M τ α) : IoM τ α := do
  let x ← get
  if !negotiated x.node then throw (.ofKind .other)
  intoIo y

def sharedObjectAdd (uuid : VhostUserSharedMsg) : IoM τ UInt64 :=
  gated (·.sharedObjectNegotiated) (sendMessage ch .sharedObjectAdd uuid [])
def sharedObjectRemove (uuid : VhostUserSharedMsg) : IoM τ UInt64 :=
  gated (·.sharedObjectNegotiated) (sendMessage ch .sharedObjectRemove uuid [])
def sharedObjectLookup (uuid : VhostUserSharedMsg) (fd : File) : IoM τ UInt64 :=
  gated (·.sharedObjectNegotiated) (sendMessage ch .sharedObjectLookup uuid [fd])
def shmemMap (req : VhostUserMMap) (fd : File) : IoM τ UInt64 :=
  gated (·.shmemNegotiated) (sendMessage ch .shmemMap req [fd])
def shmemUnmap (req : VhostUserMMap) : IoM τ UInt64 :=
  gated (·.shmemNegotiated) (sendMessage ch .shmemUnmap req [])

def ENOSYS : Int32 := 38

/-- The proxy as the object behind a `FrontendReqHandler`. It has no `handle_config_change` of its own; the
trait's answers `ENOSYS`. -/
def forward : FrontendCall → IoM τ UInt64
  | .handleConfigChange => throw ⟨.unsupported, some ENOSYS⟩
  | .sharedObjectAdd uuid => sharedObjectAdd ch uuid
  | .sharedObjectRemove uuid => sharedObjectRemove ch uuid
  | .sharedObjectLookup uuid fd => sharedObjectLookup ch uuid fd
  | .shmemMap req fd => shmemMap ch req fd
  | .shmemUnmap req => shmemUnmap ch req

/-! Running the primitives. -/

@[simp] theorem orThrow_ok_apply (a : α) (x : BackendCtx τ) : (orThrow (.ok a) : M τ α) x = .ok a x := rfl

@[simp] theorem getNode_apply (x : BackendCtx τ) : (getNode : M τ _) x = .ok x.node x := rfl

@[simp] theorem sendBytes_apply (bytes : List UInt8) (fds : List File) (x : BackendCtx τ) :
    sendBytes ch bytes fds x =
      orThrow (ch.send bytes fds x.sock).1 { x with sock := (ch.send bytes fds x.sock).2 } := rfl

@[simp] theorem recvBytes_apply (n : Nat) (x : BackendCtx τ) :
    recvBytes ch n x = orThrow (ch.recv n x.sock).1 { x with sock := (ch.recv n x.sock).2 } := rfl

end

section RecvBody
variable {τ T : Type} [ByteValued T] [VhostUserMsgValidator T] {ch : Channel τ} {node : BackendInternal}
  {sock sock' : τ}

theorem recvBody_message {hdr : VhostUserMsgHeader BackendReq} {body : T} {files : Option (List File)}
    (hhdr : hdr.isValid = true) (hbody : VhostUserMsgValidator.isValid body = true)
    (h : ch.recv (12 + ByteValued.size T) sock = (.ok (ByteValued.asSlice hdr ++ ByteValued.asSlice body, files), sock')) :
    recvBody ch T ⟨node, sock⟩ = .ok (hdr, body, files) ⟨node, sock'⟩ := by
  have hlen : (ByteValued.asSlice hdr).length = 12 := ByteValued.length_asSlice hdr
  have htotal : (ByteValued.asSlice hdr ++ ByteValued.asSlice body).length = 12 + ByteValued.size T := by
    rw [List.length_append, hlen, ByteValued.length_asSlice]
  have hdrop : (ByteValued.asSlice hdr ++ ByteValued.asSlice body).drop 12 = ByteValued.asSlice body := by
    rw [← hlen, List.drop_left]
  simp only [recvBody, VhostUserMsgHeader.size_header, bind_apply, recvBytes_apply, h, orThrow_ok_apply, htotal,
    hdrop, ByteValued.fromSlice_asSlice, fromSlice_asSlice_nil, hhdr, hbody, ne_eq, not_true, if_false, Bool.not_true,
    Bool.or_false, Bool.false_eq_true, pure_apply]

end RecvBody

end Backend

/-! ## The wire form of a request -/

namespace FrontendCall

def code : FrontendCall → BackendReq
  | handleConfigChange => .configChangeMsg
  | sharedObjectAdd _ => .sharedObjectAdd
  | sharedObjectRemove _ => .sharedObjectRemove
  | sharedObjectLookup _ _ => .sharedObjectLookup
  | shmemMap _ _ => .shmemMap
  | shmemUnmap _ => .shmemUnmap

def body : FrontendCall → List UInt8
  | handleConfigChange => []
  | sharedObjectAdd uuid | sharedObjectRemove uuid | sharedObjectLookup uuid _ => ByteValued.asSlice uuid
  | shmemMap req _ | shmemUnmap req => ByteValued.asSlice req

def fds : FrontendCall → List File
  | sharedObjectLookup _ fd | shmemMap _ fd => [fd]
  | _ => []

/-- The `is_valid` of the body. -/
def bodyIsValid : FrontendCall → Bool
  | handleConfigChange => true
  | sharedObjectAdd uuid | sharedObjectRemove uuid | sharedObjectLookup uuid _ => VhostUserMsgValidator.isValid uuid
  | shmemMap req _ | shmemUnmap req => VhostUserMsgValidator.isValid req

/-- The proxy puts the request on the wire. -/
def Proxied (node : BackendInternal) : FrontendCall → Prop
  | handleConfigChange => False
  | sharedObjectAdd _ | sharedObjectRemove _ | sharedObjectLookup _ _ => node.sharedObjectNegotiated = true
  | shmemMap _ _ | shmemUnmap _ => node.shmemNegotiated = true

/-- The header of the request, an acknowledgement asked for. -/
def hdr (c : FrontendCall) : VhostUserMsgHeader BackendReq :=
  .new c.code VhostUserHeaderFlag.NEED_REPLY (UInt32.ofNat c.body.length)

theorem body_length_le (c : FrontendCall) : c.body.length ≤ 40 := by
  cases c with
  | handleConfigChange => exact Nat.zero_le _
  | _ =>
    rw [body, ByteValued.length_asSlice]
    decide

theorem getSize_hdr (c : FrontendCall) : c.hdr.getSize.toNat = c.body.length := by
  have hle := c.body_length_le
  rw [hdr, VhostUserMsgHeader.getSize_new, UInt32.toNat_ofNat']
  exact Nat.mod_eq_of_lt (by omega)

theorem isValid_hdr (c : FrontendCall) : c.hdr.isValid = true := by
  refine VhostUserMsgHeader.isValid_new _ _ ?_
  have hsize := c.getSize_hdr
  have hle := c.body_length_le
  rw [hdr, VhostUserMsgHeader.getSize_new] at hsize
  rw [hsize, maxMsgSize]
  omega

end FrontendCall

namespace Backend
variable {τ : Type} (ch : Channel τ) {node : BackendInternal}

theorem requestHeader_eq (hack : node.replyAckNegotiated = true) (r : BackendReq) (len : Nat) :
    requestHeader node r len = .new r VhostUserHeaderFlag.NEED_REPLY (UInt32.ofNat len) := by
  have hflags : ((0 &&& VhostUserHeaderFlag.ALL_FLAGS) ||| 0x1) ||| VhostUserHeaderFlag.NEED_REPLY =
      (VhostUserHeaderFlag.NEED_REPLY &&& VhostUserHeaderFlag.ALL_FLAGS) ||| 0x1 := by decide
  rw [requestHeader, if_pos hack, VhostUserMsgHeader.setNeedReply, if_pos rfl]
  simp only [VhostUserMsgHeader.new, hflags]

theorem gated_apply {α : Type} {negotiated : BackendInternal → Bool} (h : negotiated node = true) (y : M τ α)
    (sock : τ) : gated negotiated y ⟨node, sock⟩ = intoIo y ⟨node, sock⟩ := by
  simp [gated, bind_apply, get_apply, h]

theorem intoIo_congr {α : Type} {y z : M τ α} {x x' : BackendCtx τ} (h : y x = z x') :
    intoIo y x = intoIo z x' := by
  simp only [intoIo, h]

theorem sendMessage_apply {T : Type} [ByteValued T] (hack : node.replyAckNegotiated = true)
    (herr : node.error = none) (hsize : ByteValued.size T ≤ maxMsgSize) (r : BackendReq) (body : T)
    (fds : List File) (sock : τ) :
    sendMessage ch r body fds ⟨node, sock⟩ =
      (do
        sendBytes ch (ByteValued.asSlice (VhostUserMsgHeader.new r VhostUserHeaderFlag.NEED_REPLY
          (UInt32.ofNat (ByteValued.size T))) ++ ByteValued.asSlice body) fds
        waitForAck ch (.new r VhostUserHeaderFlag.NEED_REPLY (UInt32.ofNat (ByteValued.size T)))) ⟨node, sock⟩ := by
  have hcs : checkState node = .ok () := by rw [checkState, herr]
  have hbig : ¬ByteValued.size T > maxMsgSize := by omega
  rw [sendMessage, bind_of_ok (getNode_apply _), hcs, bind_of_ok (orThrow_ok_apply _ _)]
  simp only [requestHeader_eq hack, hbig, if_false]

/-- What a proxied call does: send the request, wait for its acknowledgement. -/
theorem forward_eq {c : FrontendCall} (hproxied : c.Proxied node) (hack : node.replyAckNegotiated = true)
    (herr : node.error = none) (sock : τ) :
    forward ch c ⟨node, sock⟩ =
      intoIo (do sendBytes ch (ByteValued.asSlice c.hdr ++ c.body) c.fds; waitForAck ch c.hdr) ⟨node, sock⟩ := by
  have hmsg {T : Type} [ByteValued T] (hT : ByteValued.size T ≤ maxMsgSize) := @sendMessage_apply τ ch node T _ hack herr hT
  cases c with
  | handleConfigChange => exact hproxied.elim
  | sharedObjectAdd uuid | sharedObjectRemove uuid | sharedObjectLookup uuid _ =>
    refine (gated_apply hproxied _ sock).trans (intoIo_congr ?_)
    refine (hmsg (by decide) _ uuid _ sock).trans ?_
    rw [FrontendCall.hdr, FrontendCall.body, ByteValued.length_asSlice]
    rfl
  | shmemMap req _ | shmemUnmap req =>
    refine (gated_apply hproxied _ sock).trans (intoIo_congr ?_)
    refine (hmsg (by decide) _ req _ sock).trans ?_
    rw [FrontendCall.hdr, FrontendCall.body, ByteValued.length_asSlice]
    rfl

end Backend

/-! ## The frontend's end -/

namespace FrontendReqHandler

/-- The request as the dispatch sees it. -/
def requestOf (c : FrontendCall) : Request BackendReq := ⟨c.hdr, c.body.length, c.body, toFiles c.fds⟩

theorem checkMsgSize_hdr (c : FrontendCall) : checkMsgSize c.hdr c.body.length c.body.length = .ok () := by
  have hreply : c.hdr.isReply = false := by
    rw [FrontendCall.hdr, VhostUserMsgHeader.isReply_new]
    decide
  have hversion : c.hdr.getVersion = 0x1 := VhostUserMsgHeader.getVersion_new _ _ _
  simp [checkMsgSize, c.getSize_hdr, hreply, hversion]

theorem checkAttachedFiles_hdr (c : FrontendCall) : checkAttachedFiles c.hdr (toFiles c.fds) = .ok () := by
  cases c <;> simp [checkAttachedFiles, FrontendCall.hdr, FrontendCall.code, FrontendCall.fds, toFiles]

theorem extractBody_hdr {T : Type} [ByteValued T] [VhostUserMsgValidator T] {c : FrontendCall} {t : T}
    (hbody : c.body = ByteValued.asSlice t) :
    extractBody T c.hdr c.body.length c.body =
      if VhostUserMsgValidator.isValid t then .ok t else .error (.err .invalidMessage) := by
  have hsize := checkMsgSize_hdr c
  have hlen : c.body.length = ByteValued.size T := by rw [hbody, ByteValued.length_asSlice]
  rw [hlen] at hsize
  unfold extractBody
  rw [hlen, hsize, readAt, if_pos hlen.ge, hbody, fromSlice_asSlice_nil]
  change (if (!VhostUserMsgValidator.isValid t) = true then Except.error (Stop.err .invalidMessage)
    else Except.ok t) = _
  cases VhostUserMsgValidator.isValid t with
  | true => rfl
  | false => rfl

/-- The request is taken for the call it was made from, if its body is valid. -/
theorem parse_requestOf {c : FrontendCall} (hc : c ≠ .handleConfigChange) :
    parse (requestOf c) = if c.bodyIsValid then .ok (.ok c) else .error (.err .invalidMessage) := by
  have hcode : c.hdr.getCode = .ok c.code := VhostUserMsgHeader.getCode_new _ _ _
  cases c with
  | handleConfigChange => exact absurd rfl hc
  | sharedObjectAdd uuid | sharedObjectRemove uuid | shmemUnmap req =>
    simp only [FrontendCall.code] at hcode
    simp only [requestOf, parse, hcode]
    rw [extractBody_hdr rfl, FrontendCall.bodyIsValid]
    split
    · rfl
    · rfl
  | sharedObjectLookup uuid fd | shmemMap req fd =>
    simp only [FrontendCall.code] at hcode
    simp only [requestOf, parse, hcode]
    rw [extractBody_hdr rfl, FrontendCall.bodyIsValid]
    split
    · rfl
    · rfl

section Serve
variable {β : Type} (invoke : FrontendCall → β → Except IoError UInt64 × β)

/-- A handler whose replies go on a wire. -/
abbrev Served (β : Type) := Ctx FrontendReqHandler β FrontendCall Wire

def onWire : Svc β Wire := ⟨invoke, Wire.post⟩

/-- The acknowledgement of `c` with the value `v`. -/
def ackOf (c : FrontendCall) (v : UInt64) : List UInt8 :=
  ByteValued.asSlice (VhostUserMsgHeader.new c.code VhostUserHeaderFlag.REPLY 8) ++
    ByteValued.asSlice (⟨v⟩ : VhostUserU64)

/-- The handler after it called the method and acknowledged its result. -/
def acknowledged (c : FrontendCall) (x : Served β) : Served β :=
  { x with
    backend := (invoke c x.backend).2
    calls := x.calls ++ [c]
    sock := (x.sock.post (ackOf c (ackValue (mapErr (invoke c x.backend).1))) []).2 }

variable {x : Served β}

/-- The acknowledgement is sent, whatever the result. -/
theorem finish_acknowledges (hack : x.handler.replyAckNegotiated = true) (herr : x.handler.error = none)
    (c : FrontendCall) (res : Except Error UInt64) :
    finish (onWire invoke) c.hdr res x =
      (orFail res : M β Wire UInt64) { x with sock := (x.sock.post (ackOf c (ackValue res)) []).2 } := by
  have hneed : c.hdr.isNeedReply = true := by
    rw [FrontendCall.hdr, VhostUserMsgHeader.isNeedReply_new]
    decide
  have hcode : c.hdr.getCode = .ok c.code := VhostUserMsgHeader.getCode_new _ _ _
  have hsize : ¬ByteValued.size VhostUserU64 > maxMsgSize := by decide
  have hhdr : newReplyHeader x.handler c.hdr (ByteValued.size VhostUserU64) =
      .ok (.new c.code VhostUserHeaderFlag.REPLY 8) := by
    rw [newReplyHeader, if_neg hsize, checkState, herr, hcode]
    rfl
  rw [finish, sendAckMessage, bind_assoc, bind_of_ok (getHandler_apply x), hack, hneed, Bool.and_self, if_pos rfl,
    hhdr]
  rfl

theorem dispatch_requestOf (hack : x.handler.replyAckNegotiated = true) (herr : x.handler.error = none)
    {c : FrontendCall} (hc : c ≠ .handleConfigChange) :
    dispatch (onWire invoke) (requestOf c) x =
      if c.bodyIsValid then
        (orFail (mapErr (invoke c x.backend).1) : M β Wire UInt64) (acknowledged invoke c x)
      else .error (.err .invalidMessage) x := by
  rw [dispatch_eq, parse_requestOf hc]
  split
  · rw [perform, bind_of_ok (call_apply _ _ _)]
    exact @finish_acknowledges _ invoke { x with backend := (invoke c x.backend).2, calls := x.calls ++ [c] }
      hack herr c _
  · rfl

/-- The request `c` as it stands on the socket. -/
def arriving (c : FrontendCall) (sched : List Io) (truncErr : Errno) : RxSock :=
  ⟨cells (ByteValued.asSlice c.hdr ++ c.body) c.fds, sched, truncErr⟩

theorem recvRequest_arriving {c : FrontendCall} {sched : List Io} {truncErr : Errno} (hgood : ∀ r ∈ sched, r.Good)
    (hbody : c.body ≠ [])
    (hwait : recvRequest checkAttachedFiles (fun len => decide (len ≤ maxMsgSize)) (arriving c sched truncErr) ≠
      .blocked) :
    ∃ r s', recvRequest checkAttachedFiles (fun len => decide (len ≤ maxMsgSize)) (arriving c sched truncErr) =
        .ret (r, s') ∧
      (PayloadAtOnce c.body.length sched → r = .ok (requestOf c)) ∧
      (¬PayloadAtOnce c.body.length sched → ∃ e, r = .error e) := by
  have hfds : c.fds.length ≤ maxAttachedFdEntries := by
    cases c <;> simp [FrontendCall.fds, maxAttachedFdEntries]
  obtain ⟨r, s', hr, -, hwhole, hcut⟩ := recvRequest_front c.getSize_hdr c.isValid_hdr
    (fun n hn => decide_eq_true hn) hfds hgood (List.append_nil _).symm hwait
  refine ⟨r, s', hr, fun h => ?_, fun h => ?_⟩
  · exact (hwhole (checkAttachedFiles_hdr c) (.inr h)).1
  · exact hcut (checkAttachedFiles_hdr c) fun hor => hor.elim hbody h

/-- What `handle_request` makes of the request `c`. -/
theorem handleRequest_arriving {c : FrontendCall} {sched : List Io} {truncErr : Errno}
    (hgood : ∀ r ∈ sched, r.Good) (hbody : c.body ≠ []) (hc : c ≠ .handleConfigChange)
    (hack : x.handler.replyAckNegotiated = true) (herr : x.handler.error = none)
    (hwait : handleRequest (onWire invoke) x (arriving c sched truncErr) ≠ .blocked) :
    ∃ r x' s', handleRequest (onWire invoke) x (arriving c sched truncErr) = .ret (r, x', s') ∧
      (c.bodyIsValid = true ∧ PayloadAtOnce c.body.length sched → x' = acknowledged invoke c x) ∧
      (¬(c.bodyIsValid = true ∧ PayloadAtOnce c.body.length sched) → x' = x) := by
  have hcs : checkState x.handler = .ok () := by rw [checkState, herr]
  have hwait' : recvRequest checkAttachedFiles (fun len => decide (len ≤ maxMsgSize)) (arriving c sched truncErr) ≠
      .blocked := by
    intro hb
    simp only [handleRequest, serve, hcs, hb, ne_eq, not_true] at hwait
  obtain ⟨r, s', hr, hwhole, hcut⟩ := recvRequest_arriving hgood hbody hwait'
  simp only [handleRequest, serve, hcs, hr]
  by_cases honce : PayloadAtOnce c.body.length sched
  · rw [hwhole honce]
    dsimp only
    rw [dispatch_requestOf invoke hack herr hc]
    cases hvalid : c.bodyIsValid with
    | true =>
      cases mapErr (invoke c x.backend).1 with
      | ok n => exact ⟨_, _, _, rfl, fun _ => rfl, fun h => absurd ⟨rfl, honce⟩ h⟩
      | error e => exact ⟨_, _, _, rfl, fun _ => rfl, fun h => absurd ⟨rfl, honce⟩ h⟩
    | false => exact ⟨_, _, _, rfl, fun h => absurd h.1 (by simp), fun _ => rfl⟩
  · obtain ⟨e, rfl⟩ := hcut honce
    exact ⟨_, _, _, rfl, fun h => absurd h.2 honce, fun _ => rfl⟩

end Serve

end FrontendReqHandler

/-! ## There and back -/

namespace Backend
open FrontendReqHandler
variable {β : Type} (invoke : FrontendCall → β → Except IoError UInt64 × β)

/-- The proxy's socket with a handler at the other end: what is sent is handled to completion, what the
handler posts can be received. -/
def frontendEnd (sched : List Io) (truncErr : Errno) : Channel (Served β) where
  send bytes fds x :=
    match handleRequest (onWire invoke) x ⟨cells bytes fds, sched, truncErr⟩ with
    | .ret (_, x', _) => (.ok (), x')
    | _ => (.ok (), x)
  recv n x := ((x.sock.read n).1, { x with sock := (x.sock.read n).2 })

/-- One request answered once and truthfully, with nothing left on the wire. -/
structure Answered (sched : List Io) (truncErr : Errno) (c : FrontendCall) (node : BackendInternal)
    (x : Served β) : Prop where
  /-- `handle_request` sends exactly one reply. -/
  replied : ∀ r x' s', handleRequest (onWire invoke) x (arriving c sched truncErr) = .ret (r, x', s') →
    ∃ msg, x'.sock.sent = x.sock.sent ++ [msg]
  /-- The proxy's call succeeds exactly when the method was called and returned `Ok(0)`. -/
  truthful : (∃ n y, forward (frontendEnd invoke sched truncErr) c ⟨node, x⟩ = .ok n y) ↔
    (∃ r x' s', handleRequest (onWire invoke) x (arriving c sched truncErr) = .ret (r, x', s') ∧
      x'.calls = x.calls ++ [c]) ∧ (invoke c x.backend).1 = .ok 0
  quiet : (final (forward (frontendEnd invoke sched truncErr) c ⟨node, x⟩)).sock.sock.inFlight = []

theorem negErrno_eq_zero {e : Int32} : negErrno e = 0 ↔ e = 0 := by
  constructor
  · intro h
    have hwide : (-e).toInt64 = 0 := by
      cases hu : (-e).toInt64 with
      | ofUInt64 u =>
        rw [negErrno, hu] at h
        cases h
        rfl
    have hneg : (-e).toInt = 0 := by
      rw [← Int32.toInt_toInt64, hwide]
      rfl
    have hzero : -e = 0 := Int32.toInt_inj.1 hneg
    simpa using congrArg (fun z => -z) hzero
  · rintro rfl
    decide

/-- A success has the value it returns, an error of number 0 has the value of a success. -/
theorem ackValue_mapErr_eq_zero {r : Except IoError UInt64} :
    ackValue (mapErr r) = 0 ↔ r = .ok 0 ∨ ∃ e, r = .error e ∧ e.rawOsError = some 0 := by
  cases r with
  | ok n => simp [mapErr, ackValue]
  | error e =>
    cases hraw : e.rawOsError with
    | none => simp [mapErr, ackValue, hraw, negErrno_eq_zero, EINVAL]
    | some errno => simp [mapErr, ackValue, hraw, negErrno_eq_zero]

variable {invoke} {sched : List Io} {truncErr : Errno} {node : BackendInternal} {x : Served β} {c : FrontendCall}

section Wait
variable {τ : Type} {ch : Channel τ} {hdr : VhostUserMsgHeader BackendReq} {sock : τ} {y : BackendCtx τ}

theorem waitForAck_reply (hack : node.replyAckNegotiated = true) (herr : node.error = none)
    {reply : VhostUserMsgHeader BackendReq} {v : UInt64} (hreply : reply.isReplyFor hdr = true)
    (h : recvBody ch VhostUserU64 ⟨node, sock⟩ = .ok (reply, ⟨v⟩, none) y) :
    waitForAck ch hdr ⟨node, sock⟩ = if v = 0 then .ok 0 y else .error .frontendInternalError y := by
  have hcs : checkState node = .ok () := by rw [checkState, herr]
  have hvalid : VhostUserMsgValidator.isValid (⟨v⟩ : VhostUserU64) = true := rfl
  simp only [waitForAck, bind_apply, getNode_apply, hcs, orThrow_ok_apply, hack, h, hreply, hvalid,
    Bool.not_true, Option.isSome_none, Bool.or_false, Bool.false_eq_true, if_false]
  by_cases hv : v = 0
  · simp [hv, pure_apply]
  · simp [hv, throw_apply, bind_apply]

end Wait

theorem waitForAck_ackOf (hack : node.replyAckNegotiated = true) (herr : node.error = none) {v : UInt64}
    (hreply : x.sock.inFlight = cells (ackOf c v) []) :
    waitForAck (frontendEnd invoke sched truncErr) c.hdr ⟨node, x⟩ =
      if v = 0 then .ok 0 ⟨node, { x with sock := { x.sock with inFlight := [] } }⟩
      else .error .frontendInternalError ⟨node, { x with sock := { x.sock with inFlight := [] } }⟩ := by
  have hlen : (ackOf c v).length = 12 + ByteValued.size VhostUserU64 := by simp [ackOf, ByteValued.size]
  have hread := Wire.read_cells hreply (List.ne_nil_of_length_pos (by omega))
  rw [hlen] at hread
  have hfor : (VhostUserMsgHeader.new c.code VhostUserHeaderFlag.REPLY 8).isReplyFor c.hdr = true := by
    rw [FrontendCall.hdr, VhostUserMsgHeader.isReplyFor_new]
    decide
  refine waitForAck_reply hack herr hfor (recvBody_message ?_ rfl ?_)
  · exact VhostUserMsgHeader.isValid_new _ _ (by decide)
  · simp only [frontendEnd, hread]
    rfl

/-- **Every request is answered once and truthfully** as long as its body is valid and comes in one
receive, and the method does not fail with error number 0. -/
theorem answered_iff (hproxied : c.Proxied node) (hack : node.replyAckNegotiated = true) (herr : node.error = none)
    (hack' : x.handler.replyAckNegotiated = true) (herr' : x.handler.error = none) (hquiet : x.sock.inFlight = [])
    (hgood : ∀ r ∈ sched, r.Good)
    (hwait : handleRequest (onWire invoke) x (arriving c sched truncErr) ≠ .blocked) :
    Answered invoke sched truncErr c node x ↔
      c.bodyIsValid = true ∧ PayloadAtOnce c.body.length sched ∧
        ∀ e, (invoke c x.backend).1 = .error e → e.rawOsError ≠ some 0 := by
  have hc : c ≠ .handleConfigChange := by
    rintro rfl
    exact hproxied
  have hbody : c.body ≠ [] := by
    cases c with
    | handleConfigChange => exact hproxied.elim
    | _ =>
      refine List.ne_nil_of_length_pos ?_
      rw [FrontendCall.body, ByteValued.length_asSlice]
      decide
  obtain ⟨r, x', s', hserve, hgo, hstop⟩ := handleRequest_arriving invoke hgood hbody hc hack' herr' hwait
  have hforward : forward (frontendEnd invoke sched truncErr) c ⟨node, x⟩ =
      intoIo (waitForAck (frontendEnd invoke sched truncErr) c.hdr) ⟨node, x'⟩ := by
    have hsend : (frontendEnd invoke sched truncErr).send (ByteValued.asSlice c.hdr ++ c.body) c.fds x =
        (.ok (), x') := by
      unfold arriving at hserve
      simp only [frontendEnd, hserve]
    refine (forward_eq _ hproxied hack herr x).trans (intoIo_congr ?_)
    simp only [bind_apply, sendBytes_apply, hsend, orThrow_ok_apply]
  by_cases hok : c.bodyIsValid = true ∧ PayloadAtOnce c.body.length sched
  · obtain rfl := hgo hok
    have hwire : (acknowledged invoke c x).sock.inFlight =
        cells (ackOf c (ackValue (mapErr (invoke c x.backend).1))) [] := by
      simp only [acknowledged, Wire.post, hquiet, List.nil_append]
    have hwaited := @waitForAck_ackOf _ invoke sched truncErr _ _ _ hack herr _ hwire
    have hsuccess : (∃ n y, forward (frontendEnd invoke sched truncErr) c ⟨node, x⟩ = .ok n y) ↔
        ackValue (mapErr (invoke c x.backend).1) = 0 := by
      rw [hforward, intoIo, hwaited]
      by_cases hzero : ackValue (mapErr (invoke c x.backend).1) = 0
      · rw [if_pos hzero]
        exact iff_of_true ⟨_, _, rfl⟩ hzero
      · rw [if_neg hzero]
        refine iff_of_false ?_ hzero
        rintro ⟨n, y, h⟩
        cases h
    have hcalled : ∃ r x' s', handleRequest (onWire invoke) x (arriving c sched truncErr) = .ret (r, x', s') ∧
        x'.calls = x.calls ++ [c] := ⟨r, _, s', hserve, rfl⟩
    constructor
    · intro h
      refine ⟨hok.1, hok.2, fun e he hraw => ?_⟩
      have hzero := ackValue_mapErr_eq_zero.2 (.inr ⟨e, he, hraw⟩)
      have hreturned := (h.truthful.1 (hsuccess.2 hzero)).2
      rw [he] at hreturned
      cases hreturned
    · rintro ⟨-, -, hnonzero⟩
      refine ⟨fun r₁ x₁ s₁ h₁ => ?_, ?_, ?_⟩
      · cases hserve.symm.trans h₁
        exact ⟨_, rfl⟩
      · rw [hsuccess, ackValue_mapErr_eq_zero, and_iff_right hcalled]
        constructor
        · rintro (h | ⟨e, he, hraw⟩)
          · exact h
          · exact absurd hraw (hnonzero e he)
        · exact .inl
      · rw [hforward, intoIo, hwaited]
        by_cases hzero : ackValue (mapErr (invoke c x.backend).1) = 0
        · rw [if_pos hzero]
          rfl
        · rw [if_neg hzero]
          rfl
  · obtain rfl := hstop hok
    refine iff_of_false (fun h => ?_) (fun h => hok ⟨h.1, h.2.1⟩)
    obtain ⟨msg, hmsg⟩ := h.replied r x' s' hserve
    simpa using congrArg List.length hmsg

/-- Both flags set on a proxy and on a handler behind it, whose object answers `r`. -/
def flaggedNode : BackendInternal := ⟨true, true, true, none⟩
def flaggedEnd : Served Unit := ⟨⟨true, none⟩, (), ⟨[], []⟩, []⟩
def replies (r : Except IoError UInt64) : FrontendCall → Unit → Except IoError UInt64 × Unit := fun _ b => (r, b)

/-- A nil UUID: the proxy sends it, the handler stops at the body and does not reply. -/
theorem unanswered_nil_uuid :
    ¬Answered (replies (.ok 0)) (wholeSched 16) .EINTR (.sharedObjectAdd ⟨0⟩) flaggedNode flaggedEnd := by
  intro h
  have hserve : handleRequest (onWire (replies (.ok 0))) flaggedEnd
      (arriving (.sharedObjectAdd ⟨0⟩) (wholeSched 16) .EINTR) =
        .ret (.error .invalidMessage, flaggedEnd, ⟨[], [], .EINTR⟩) := by rfl
  obtain ⟨msg, hmsg⟩ := h.replied _ _ _ hserve
  simp at hmsg

theorem answered_one_uuid :
    Answered (replies (.error (.ofKind .other))) (wholeSched 16) .EINTR (.sharedObjectAdd ⟨1⟩) flaggedNode
      flaggedEnd := by
  have hserve : handleRequest (onWire (replies (.error (.ofKind .other)))) flaggedEnd
      (arriving (.sharedObjectAdd ⟨1⟩) (wholeSched 16) .EINTR) =
        .ret (.error (.reqHandlerError (.ofKind .other)),
          acknowledged (replies (.error (.ofKind .other))) (.sharedObjectAdd ⟨1⟩) flaggedEnd,
          ⟨[], [], .EINTR⟩) := by rfl
  have hwait : handleRequest (onWire (replies (.error (.ofKind .other)))) flaggedEnd
      (arriving (.sharedObjectAdd ⟨1⟩) (wholeSched 16) .EINTR) ≠ .blocked := by
    rw [hserve]
    nofun
  have hproxied : FrontendCall.Proxied flaggedNode (.sharedObjectAdd ⟨1⟩) := rfl
  refine (answered_iff hproxied rfl rfl rfl rfl rfl (wholeSched_good 16) hwait).2 ⟨by decide, ?_, ?_⟩
  · exact payloadAtOnce_wholeSched 16
  · rintro e he
    cases he
    simp [IoError.ofKind]

end Backend

end VhostUser
