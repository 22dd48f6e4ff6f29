import VhostUser.Lockstep
/-!
# A method returns what the device returned

`Lockstep` counts the bytes that come back for a request; this file reads them. The handler writes the result
of the device into a reply or an acknowledgement (`backend_req_handler.rs:412-746`, `:977-1041`), the method of
the frontend reads it out (`frontend.rs:197-645`, `:799-886`). In every state the two parties get to, what the
method returns is `outcome` of what the device has just returned (`link_truthful`).

| here | there |
| --- | --- |
| `Value`, `call` | the methods with their return types |
| `finishValue`   | a method from its send on |
| `replyOf`, `ackOf` | what the handler writes for a result |
| `outcome`       | what the method has to return for it |
-/
namespace VhostUser
open Bytes EState

/-! ## The methods with their values -/

/-- What a method of the frontend returns. -/
inductive Value where
  | unit
  | u64 (v : UInt64)
  | u32 (v : UInt32)
  | file (f : File)
  | optionFile (f : Option File)
  | inflight (i : VhostUserInflight) (f : File)
  | config (c : VhostUserConfig) (buf : List UInt8)
  | shmem (c : VhostUserShMemConfig)
deriving DecidableEq

namespace FrontendOp
open Frontend

section Values
variable {τ : Type} (ch : Channel τ)

/-- The method, with its value. -/
def call : FrontendOp → M τ Value
  | getFeatures => do return .u64 (← Frontend.getFeatures ch)
  | getProtocolFeatures => do return .u64 (← Frontend.getProtocolFeatures ch)
  | getQueueNum => do return .u64 (← Frontend.getQueueNum ch)
  | getMaxMemSlots => do return .u64 (← Frontend.getMaxMemSlots ch)
  | getVringBase queueIndex => do return .u32 (← Frontend.getVringBase ch queueIndex)
  | getConfig offset size flags buf => do
    let (config, buf) ← Frontend.getConfig ch offset size flags buf
    return .config config buf
  | getSharedObject uuid => do return .file (← Frontend.getSharedObject ch uuid)
  | postcopyAdvise => do return .file (← Frontend.postcopyAdvise ch)
  | getInflightFd inflight => do
    let (inflight, file) ← Frontend.getInflightFd ch inflight
    return .inflight inflight file
  | getShmemConfig => do return .shmem (← Frontend.getShmemConfig ch)
  | setDeviceStateFd direction phase fd => do return .optionFile (← Frontend.setDeviceStateFd ch direction phase fd)
  | op => do
    op.run ch
    return .unit

/-- The rest of a method once its request is sent, with its value. -/
def finishValue (hdr : VhostUserMsgHeader FrontendReq) : FrontendOp → M τ Value
  | getFeatures => do
    let val ← recvReply ch VhostUserU64 hdr
    modNode fun node => { node with virtioFeatures := val.value }
    pure (.u64 val.value)
  | getProtocolFeatures => do
    let val ← recvReply ch VhostUserU64 hdr
    modNode fun node => { node with protocolFeatures := val.value }
    pure (.u64 (val.value &&& VhostUserProtocolFeatures.ALL))
  | getQueueNum => do
    let val ← recvReply ch VhostUserU64 hdr
    if val.value > vhostUserMaxVrings then throw .invalidMessage
    modNode fun node => { node with maxQueueNum := val.value }
    pure (.u64 val.value)
  | getMaxMemSlots => do
    let val ← recvReply ch VhostUserU64 hdr
    pure (.u64 val.value)
  | getVringBase _ => do
    let reply ← recvReply ch VhostUserVringState hdr
    pure (.u32 reply.num)
  | getConfig offset size _ buf => do
    let (bodyReply, bufReply, rfds) ← recvReplyWithPayload ch VhostUserConfig hdr
    if rfds.isSome then throw .invalidMessage
    if bodyReply.size = 0 then throw .backendInternalError
    if bodyReply.size ≠ size || bodyReply.size.toNat ≠ buf.length || bodyReply.offset ≠ offset then
      throw .invalidMessage
    pure (.config bodyReply bufReply)
  | getSharedObject _ | postcopyAdvise => do
    let (_, files) ← recvReplyWithFiles ch VhostUserEmpty hdr
    let file ← singleFile files
    pure (.file file)
  | getInflightFd _ => do
    let (inflight, files) ← recvReplyWithFiles ch VhostUserInflight hdr
    let file ← singleFile files
    pure (.inflight inflight file)
  | getShmemConfig => do
    let config ← recvReply ch VhostUserShMemConfig hdr
    pure (.shmem config)
  | setDeviceStateFd .. => do
    let (body, files) ← recvReplyWithOptionalFiles ch VhostUserU64 hdr
    if body.value = 0x100 && files.isNone then pure (.optionFile none)
    else if body.value = 0 && files.isSome then do
      let file ← singleFile files
      pure (.optionFile (some file))
    else throw .backendInternalError
  | op => do
    op.finish ch hdr
    pure .unit

/-- A method composes its message, sends it and reads its value. -/
theorem call_eq (op : FrontendOp) :
    op.call ch = (do
      let m ← orThrow (op.compose (← getNode))
      let hdr ← issue ch m
      op.finishValue ch hdr) := by
  unfold call
  cases op with
  | getFeatures =>
    simp only [Frontend.getFeatures, compose, sendRequestHeader_eq, bind_assoc]
    rfl
  | getProtocolFeatures =>
    simp only [Frontend.getProtocolFeatures, compose, sendRequestHeader_eq, orThrow_guard, bind_assoc]
    rfl
  | getMaxMemSlots | getShmemConfig | postcopyAdvise =>
    simp only [Frontend.getMaxMemSlots, Frontend.getShmemConfig, Frontend.postcopyAdvise, compose,
      sendRequestHeader_eq, orThrow_guard, bind_assoc]
    rfl
  | getQueueNum =>
    unfold finishValue
    simp only [Frontend.getQueueNum, compose, sendRequestHeader_eq, orThrow_guard, bind_assoc]
    refine bind_congr fun node => bind_congr fun _ => bind_congr fun hdr => bind_congr fun val => ?_
    split
    · rfl
    · rfl
  | getVringBase queueIndex =>
    simp (disch := decide) only [Frontend.getVringBase, compose, sendRequestWithBody_eq, orThrow_guard,
      checkQueue_eq, bind_assoc]
    rfl
  | getInflightFd inflight =>
    simp (disch := decide) only [Frontend.getInflightFd, compose, sendRequestWithBody_eq, orThrow_guard,
      bind_assoc]
    rfl
  | getConfig offset size flags buf =>
    have hfds : ([] : List File).length ≤ maxAttachedFdEntries := Nat.zero_le _
    simp only [Frontend.getConfig, compose, sendRequestWithPayload_eq ch _ _ _ hfds]
    split
    · rfl
    · simp only [orThrow_bind, bind_assoc]
      refine bind_congr fun node => bind_congr fun _ => bind_congr fun _ => bind_congr fun hdr => bind_congr fun r => ?_
      dsimp only
      split
      · rfl
      · split
        · rfl
        · split
          · rfl
          · rfl
  | getSharedObject uuid =>
    simp (disch := decide) only [Frontend.getSharedObject, compose, sendRequestWithBody_eq, orThrow_bind,
      bind_assoc]
    refine bind_congr fun node => bind_congr fun _ => ?_
    split
    · rfl
    · simp only [bind_assoc]
      rfl
  | setDeviceStateFd direction phase fd =>
    have hvalid : VhostUserMsgValidator.isValid (⟨direction.code, phase.code⟩ : VhostUserTransferDeviceState) = true := by
      cases direction <;> cases phase <;> rfl
    simp (disch := decide) only [Frontend.setDeviceStateFd, compose, sendRequestWithBody_eq, orThrow_bind,
      bind_assoc, hvalid, Bool.not_true, Bool.false_eq_true, if_false]
    refine bind_congr fun node => bind_congr fun _ => bind_congr fun hdr => bind_congr fun r => ?_
    dsimp only
    split
    · rfl
    · split
      · rw [bind_assoc]
        rfl
      · rfl
  | _ =>
    simp only [run_eq, bind_assoc]
    rfl

end Values

end FrontendOp

/-! ## What the handler writes -/

namespace BackendReqHandler

/-- Body and files of the reply to a request that has one of its own. For a result that has none the arm ends
before. -/
def replyOf : (c : Call) → c.Res → Option (List UInt8 × List File)
  | .getFeatures, res | .getQueueNum, res | .getMaxMemSlots, res =>
    res.toOption.map fun v => (ByteValued.asSlice (⟨v⟩ : VhostUserU64), [])
  | .getProtocolFeatures, res =>
    res.toOption.map fun v => (ByteValued.asSlice (⟨v ||| VhostUserProtocolFeatures.REPLY_ACK⟩ : VhostUserU64), [])
  | .getVringBase _, res => res.toOption.map fun state => (ByteValued.asSlice state, [])
  | .getShmemConfig, res => res.toOption.map fun config => (ByteValued.asSlice config, [])
  | .setLogBase log _, res => res.toOption.map fun _ => (ByteValued.asSlice log, [])
  | .getInflightFd _, res => res.toOption.map fun r => (ByteValued.asSlice r.1, [r.2])
  | .getSharedObject _, res | .postcopyAdvice, res =>
    some (ByteValued.asSlice (⟨⟩ : VhostUserEmpty), res.toOption.toList)
  | .setDeviceStateFd .., res =>
    match res with
    | .ok none => some (ByteValued.asSlice (⟨0x100⟩ : VhostUserU64), [])
    | .ok (some file) => some (ByteValued.asSlice (⟨0⟩ : VhostUserU64), [file])
    | .error _ => some (ByteValued.asSlice (⟨0x101⟩ : VhostUserU64), [])
  | .checkDeviceState, res =>
    match res with
    | .ok _ => some (ByteValued.asSlice (⟨0⟩ : VhostUserU64), [])
    | .error _ => some (ByteValued.asSlice (⟨1⟩ : VhostUserU64), [])
  | _, _ => none

/-- The body of an acknowledgement. -/
def ackOf (res : Except Error Unit) : List UInt8 := ByteValued.asSlice (⟨if res.isOk then 0 else 1⟩ : VhostUserU64)

section Answer
variable {β : Type} {invoke : (c : Call) → β → c.Res × β} {x x' : Ctx BackendReqHandler β Call Wire}
  {hdr : VhostUserMsgHeader FrontendReq} {r : FrontendReq}

theorem sendAckMessage_apply (herr : x.handler.error = none) (hcode : hdr.getCode = .ok r) (res : Except Error Unit)
    (hack : (x.handler.replyAckEnabled && hdr.isNeedReply) = true) :
    sendAckMessage (wired invoke) hdr res x =
      orFail res { x with sock := (Wire.post (reply r (ackOf res)) [] x.sock).2 } := by
  unfold sendAckMessage
  rw [getHandler_bind, if_pos hack]
  dsimp only
  cases res with
  | ok u =>
    rw [← bind_assoc, bind_of_ok (reply_apply herr hcode (by decide) _ [])]
    rfl
  | error e =>
    rw [← bind_assoc, bind_of_ok (reply_apply herr hcode (by decide) _ [])]
    rfl

theorem sock_of_ok {w : Wire} (h : (.ok () { x with sock := w } : EStateM.Result Stop _ Unit) = .ok () x') :
    x'.sock = w := by
  cases h
  rfl

/-- A request with a reply of its own is answered with `replyOf`. -/
theorem answer_reply {c : Call} {n : Nat} (herr : x.handler.error = none) (hcode : hdr.getCode = .ok c.code)
    (hc : c.code.replySize = some n) (hconfig : c.code ≠ .getConfig) (res : c.Res)
    (h : answer (wired invoke) hdr c res x = .ok () x') :
    ∃ body fds, replyOf c res = some (body, fds) ∧ x'.sock = (Wire.post (reply c.code body) fds x.sock).2 := by
  cases c with
  | getFeatures =>
    cases res with
    | error e => cases h
    | ok features =>
      have hsend := @sendReplyMessage_apply β invoke x hdr _ VhostUserU64 _ herr hcode (by decide) ⟨features⟩
      simp only [answer] at h
      rw [bind_of_ok (orFail_ok_apply _ _), bind_of_ok hsend] at h
      cases h
      exact ⟨_, _, rfl, rfl⟩
  | getProtocolFeatures =>
    cases res with
    | error e => cases h
    | ok features =>
      have hsend := @sendReplyMessage_apply β invoke x hdr _ VhostUserU64 _ herr hcode (by decide)
        ⟨features ||| VhostUserProtocolFeatures.REPLY_ACK⟩
      simp only [answer] at h
      rw [bind_of_ok (orFail_ok_apply _ _), bind_of_ok hsend] at h
      cases h
      exact ⟨_, _, rfl, rfl⟩
  | getVringBase _ | getQueueNum | getMaxMemSlots | getShmemConfig | setLogBase _ _ =>
    cases res with
    | error e => cases h
    | ok msg =>
      simp only [answer] at h
      rw [bind_of_ok (orFail_ok_apply _ _), sendReplyMessage_apply herr hcode (by decide)] at h
      exact ⟨_, _, rfl, sock_of_ok h⟩
  | getSharedObject _ | postcopyAdvice =>
    simp only [answer] at h
    rw [getHandler_bind] at h
    cases res with
    | ok file =>
      dsimp only at h
      rw [reply_apply herr hcode (by decide)] at h
      exact ⟨_, _, rfl, sock_of_ok h⟩
    | error e =>
      dsimp only at h
      rw [reply_apply herr hcode (by decide)] at h
      exact ⟨_, _, rfl, sock_of_ok h⟩
  | getInflightFd _ =>
    cases res with
    | error e => cases h
    | ok r =>
      simp only [answer] at h
      rw [bind_of_ok (orFail_ok_apply _ _), getHandler_bind, reply_apply herr hcode (by decide)] at h
      exact ⟨_, _, rfl, sock_of_ok h⟩
  | setDeviceStateFd _ _ _ =>
    simp only [answer] at h
    rw [getHandler_bind] at h
    obtain e | (_ | fd) := res
    · dsimp only at h
      rw [reply_apply herr hcode (by decide)] at h
      exact ⟨_, _, rfl, sock_of_ok h⟩
    · dsimp only at h
      rw [reply_apply herr hcode (by decide)] at h
      exact ⟨_, _, rfl, sock_of_ok h⟩
    · dsimp only at h
      rw [reply_apply herr hcode (by decide)] at h
      exact ⟨_, _, rfl, sock_of_ok h⟩
  | checkDeviceState =>
    simp only [answer] at h
    rw [sendReplyMessage_apply herr hcode (by decide)] at h
    cases res with
    | ok _ => exact ⟨_, _, rfl, sock_of_ok h⟩
    | error e => exact ⟨_, _, rfl, sock_of_ok h⟩
  | getConfig _ _ _ => exact absurd rfl hconfig
  | _ => cases hc

/-- The handler before it answers the call `c`. -/
def called (invoke : (c : Call) → β → c.Res × β) (x : Ctx BackendReqHandler β Call Wire) (c : Call) :
    Ctx BackendReqHandler β Call Wire :=
  { x with backend := (invoke c x.backend).2, calls := x.calls ++ [c] }

/-- A request that was taken is answered with what the device returned. -/
theorem accepted_answer {p : Platform} {s s' : RxSock} {res : Except Error Unit}
    (h : handleRequest (wired invoke) p x s = .ret (res, x', s')) (hacc : Accepted invoke x x' res) :
    ∃ req c, recvRequest checkAttachedFiles (fun _ => true) s = .ret (.ok req, s') ∧
      parse p x.handler req = .ok (.ok c) ∧ req.hdr.getCode = .ok c.code ∧ x'.calls = x.calls ++ [c] ∧
      x' = final (answer (wired invoke) req.hdr c (invoke c x.backend).1 (called invoke x c)) ∧
      (c.code.replySize.isSome →
        answer (wired invoke) req.hdr c (invoke c x.backend).1 (called invoke x c) = .ok () x') := by
  obtain ⟨req, c, hrecv, hc, hcode, -⟩ := accepted_cases h hacc
  obtain ⟨rfl, e, rfl⟩ | ⟨req', hrecv', hdispatch⟩ := handleRequest_cases _ h
  · cases hacc.ok_of_calls rfl
  cases hrecv.symm.trans hrecv'
  have hcalls := calls_dispatch (wired invoke) p req x
  have hperform : dispatch (wired invoke) p req x =
      answer (wired invoke) req.hdr c (invoke c x.backend).1 (called invoke x c) := by
    rw [dispatch_eq, hc, perform, bind_of_ok (call_apply _ _ _)]
    rfl
  rw [hc, callsOf_call] at hcalls
  rw [hperform] at hdispatch hcalls
  obtain ⟨hd, -⟩ | ⟨e, hd, rfl⟩ := hdispatch
  · rw [hd] at hcalls
    exact ⟨req, c, hrecv, hc, hcode, hcalls, (congrArg final hd).symm, fun _ => hd⟩
  · rw [hd] at hcalls
    refine ⟨req, c, hrecv, hc, hcode, hcalls, (congrArg final hd).symm, fun hsome => ?_⟩
    obtain hok | ⟨c', e', hcall, hnone, -⟩ := hacc
    · cases hok
    · obtain rfl : c' = c := by simpa using hcall.symm.trans hcalls
      rw [hnone] at hsome
      cases hsome

/-- What is on its way once an acknowledgement has been sent. -/
theorem inFlight_ack {c : Call} {res : c.Res} (herr : x.handler.error = none) (hcode : hdr.getCode = .ok c.code)
    (hsize : c.code.replySize = none) (hfinal : x' = final (answer (wired invoke) hdr c res x))
    (hack : (x'.handler.replyAckEnabled && hdr.isNeedReply) = true) :
    x'.sock.inFlight = x.sock.inFlight ++ cells (reply c.code (ackOf (ackResult c res))) [] := by
  rw [answer_acked hsize] at hfinal
  have hhandler := keeps_sendAckMessage (wired invoke) (p := Ctx.handler) (fun _ _ => rfl) hdr (ackResult c res)
    { x with handler := update c res x.handler }
  rw [← hfinal] at hhandler
  rw [hhandler] at hack
  rw [sendAckMessage_apply ((error_update c res x.handler).trans herr) hcode _ hack] at hfinal
  rw [hfinal]
  exact keeps_orFail (p := fun y : Ctx BackendReqHandler β Call Wire => y.sock.inFlight) (ackResult c res) _

end Answer

end BackendReqHandler

/-! ## What the method reads -/

/-- The connection once a message of the backend has been read. -/
def Duplex.drained (t : Duplex) : Duplex := { t with toFrontend := { t.toFrontend with inFlight := [] } }

namespace Frontend

/-- The reply to the request `hdr` is there, and nothing else. -/
structure Replying (hdr : VhostUserMsgHeader FrontendReq) (body : List UInt8) (fds : List File)
    (x : FrontendCtx Duplex) : Prop where
  arrived : ∃ code, hdr.getCode = .ok code ∧
    x.sock.toFrontend.inFlight = cells (BackendReqHandler.reply code body) fds
  starved : x.sock.starved = false
  error : x.node.error = none
  request : hdr.isReply = false

/-- After the reply. -/
def afterReply (x : FrontendCtx Duplex) : FrontendCtx Duplex := { x with sock := x.sock.drained }

theorem isReplyFor_reply {hdr : VhostUserMsgHeader FrontendReq} {code : FrontendReq} (hcode : hdr.getCode = .ok code)
    (hrequest : hdr.isReply = false) (size : UInt32) :
    (VhostUserMsgHeader.new code VhostUserHeaderFlag.REPLY size).isReplyFor hdr = true := by
  have hflag : (VhostUserHeaderFlag.REPLY &&& VhostUserHeaderFlag.REPLY != 0) = true := by decide
  simp only [VhostUserMsgHeader.isReplyFor, VhostUserMsgHeader.getCode_new, hcode, VhostUserMsgHeader.isReply_new,
    hrequest, hflag, Bool.not_false, beq_self_eq_true, Bool.and_self]

section Reads
variable {T : Type} [ByteValued T] [VhostUserMsgValidator T] {hdr : VhostUserMsgHeader FrontendReq} {body : T}
  {fds : List File} {x : FrontendCtx Duplex}

theorem recvBytes_reply {code : FrontendReq} {body : List UInt8}
    (h : x.sock.toFrontend.inFlight = cells (BackendReqHandler.reply code body) fds) (hstarved : x.sock.starved = false) :
    recvBytes Duplex.channel (12 + body.length) x =
      .ok (BackendReqHandler.reply code body, toFiles fds) (afterReply x) := by
  have hlen := BackendReqHandler.length_reply code body
  have hread := Wire.read_cells h (List.ne_nil_of_length_pos (by omega))
  rw [hlen] at hread
  have henough : ¬x.sock.toFrontend.inFlight.length < 12 + body.length := by
    rw [h, length_cells, hlen]
    omega
  rw [recvBytes_apply]
  simp only [Duplex.channel, hread, henough, hstarved, decide_false, Bool.or_false, orThrow_ok_apply, afterReply,
    Duplex.drained]

theorem recvBody_reply {code : FrontendReq} (hT : ByteValued.size T ≤ maxMsgSize)
    (h : x.sock.toFrontend.inFlight = cells (BackendReqHandler.reply code (ByteValued.asSlice body)) fds)
    (hstarved : x.sock.starved = false) :
    recvBody Duplex.channel T x =
      if VhostUserMsgValidator.isValid body then
        .ok (.new code VhostUserHeaderFlag.REPLY (UInt32.ofNat (ByteValued.size T)), body, toFiles fds) (afterReply x)
      else .error .invalidMessage (afterReply x) := by
  have hbytes := recvBytes_reply h hstarved
  rw [ByteValued.length_asSlice] at hbytes
  have hsize : (UInt32.ofNat (ByteValued.size T)).toNat = ByteValued.size T := by
    have hmax : maxMsgSize = 4096 := rfl
    rw [UInt32.toNat_ofNat']
    omega
  have hvalid : (VhostUserMsgHeader.new code VhostUserHeaderFlag.REPLY (UInt32.ofNat (ByteValued.size T))).isValid = true :=
    VhostUserMsgHeader.isValid_new _ _ (hsize.trans_le hT)
  have hhdr : (ByteValued.fromSlice (BackendReqHandler.reply code (ByteValued.asSlice body)) :
      VhostUserMsgHeader FrontendReq) = .new code VhostUserHeaderFlag.REPLY (UInt32.ofNat (ByteValued.size T)) := by
    rw [BackendReqHandler.reply, ByteValued.length_asSlice, ByteValued.fromSlice_asSlice]
  have hbody : (ByteValued.fromSlice ((BackendReqHandler.reply code (ByteValued.asSlice body)).drop 12) : T) = body := by
    rw [BackendReqHandler.drop_reply, fromSlice_asSlice_nil]
  have hlen : (BackendReqHandler.reply code (ByteValued.asSlice body)).length = 12 + ByteValued.size T := by
    rw [BackendReqHandler.length_reply, ByteValued.length_asSlice]
  unfold recvBody
  rw [VhostUserMsgHeader.size_header]
  dsimp only
  rw [bind_of_ok hbytes]
  simp only [hhdr, hbody, hlen, hvalid, ne_eq, not_true_eq_false, if_false, Bool.not_true, Bool.false_or]
  cases VhostUserMsgValidator.isValid body with
  | true => rfl
  | false => rfl

theorem recvReplyWithOptionalFiles_reply (hT : ByteValued.size T ≤ maxMsgSize)
    (h : Replying hdr (ByteValued.asSlice body) fds x) :
    recvReplyWithOptionalFiles Duplex.channel T hdr x =
      if VhostUserMsgValidator.isValid body then .ok (body, toFiles fds) (afterReply x)
      else .error .invalidMessage (afterReply x) := by
  obtain ⟨⟨code, hcode, harrived⟩, hstarved, herr, hrequest⟩ := h
  have hstate : checkState x.node = .ok () := by rw [checkState, herr]
  have hfor := isReplyFor_reply hcode hrequest (UInt32.ofNat (ByteValued.size T))
  unfold recvReplyWithOptionalFiles
  rw [if_neg (by simp [hrequest, hT])]
  dsimp only
  rw [bind_of_ok (getNode_apply x), hstate, bind_of_ok (orThrow_ok_apply _ x), bind_apply,
    recvBody_reply hT harrived hstarved]
  cases hv : (VhostUserMsgValidator.isValid body : Bool) with
  | true =>
    simp only [if_true, hfor, hv]
    rfl
  | false => rfl

theorem recvReply_reply (hT : ByteValued.size T ≤ maxMsgSize) (h : Replying hdr (ByteValued.asSlice body) [] x) :
    recvReply Duplex.channel T hdr x =
      if VhostUserMsgValidator.isValid body then .ok body (afterReply x)
      else .error .invalidMessage (afterReply x) := by
  obtain ⟨⟨code, hcode, harrived⟩, hstarved, herr, hrequest⟩ := h
  have hstate : checkState x.node = .ok () := by rw [checkState, herr]
  have hfor := isReplyFor_reply hcode hrequest (UInt32.ofNat (ByteValued.size T))
  unfold recvReply
  rw [if_neg (by simp [hrequest, hT])]
  dsimp only
  rw [bind_of_ok (getNode_apply x), hstate, bind_of_ok (orThrow_ok_apply _ x), bind_apply,
    recvBody_reply hT harrived hstarved]
  cases hv : (VhostUserMsgValidator.isValid body : Bool) with
  | true =>
    simp only [if_true, hfor, hv]
    rfl
  | false => rfl

/-- A reply that has to come with files. -/
theorem recvReplyWithFiles_reply (hT : ByteValued.size T ≤ maxMsgSize)
    (h : Replying hdr (ByteValued.asSlice body) fds x) :
    recvReplyWithFiles Duplex.channel T hdr x =
      if VhostUserMsgValidator.isValid body ∧ fds ≠ [] then .ok (body, some fds) (afterReply x)
      else .error .invalidMessage (afterReply x) := by
  rw [recvReplyWithFiles, bind_apply, recvReplyWithOptionalFiles_reply hT h]
  cases VhostUserMsgValidator.isValid body with
  | false => rfl
  | true =>
    cases fds with
    | nil => rfl
    | cons fd fds => rfl

/-- An acknowledgement that is waited for. -/
theorem waitForAck_ack {res : Except Error Unit} (h : Replying hdr (BackendReqHandler.ackOf res) [] x)
    (hack : x.node.ackedProtocolFeatures &&& VhostUserProtocolFeatures.REPLY_ACK ≠ 0) (hneed : hdr.isNeedReply = true) :
    waitForAck Duplex.channel hdr x =
      if res.isOk then .ok () (afterReply x) else .error .backendInternalError (afterReply x) := by
  obtain ⟨⟨code, hcode, harrived⟩, hstarved, herr, hrequest⟩ := h
  have hstate : checkState x.node = .ok () := by rw [checkState, herr]
  have hfor := isReplyFor_reply hcode hrequest (UInt32.ofNat (ByteValued.size VhostUserU64))
  have hvalid (v : UInt64) : VhostUserMsgValidator.isValid (⟨v⟩ : VhostUserU64) = true := rfl
  unfold waitForAck
  rw [bind_of_ok (getNode_apply x), if_neg (by simp [hack, hneed]), hstate, bind_of_ok (orThrow_ok_apply _ x), bind_apply,
    recvBody_reply (by decide) harrived hstarved]
  cases res with
  | ok u =>
    simp only [hvalid, if_true, hfor]
    rfl
  | error e =>
    simp only [hvalid, if_true, hfor]
    rfl

/-- A method that waits for no acknowledgement. -/
theorem waitForAck_none (h : ((x.node.ackedProtocolFeatures &&& VhostUserProtocolFeatures.REPLY_ACK) != 0
    && hdr.isNeedReply) = false) : waitForAck Duplex.channel hdr x = .ok () x := by
  unfold waitForAck
  rw [bind_of_ok (getNode_apply x), if_pos]
  · rfl
  · simpa [or_iff_not_imp_left] using h

end Reads

end Frontend

/-! ## The value of a method -/

/-- What a method returns where the device returned `res` to the call `c`; `acked` tells whether it waits for an
acknowledgement. For a request with a reply of its own the device's error is not told as such. -/
def outcome (acked : Bool) : (c : Call) → c.Res → Except Error Value
  | .getFeatures, res | .getMaxMemSlots, res => res.map .u64
  | .getProtocolFeatures, res =>
    res.map fun v => .u64 ((v ||| VhostUserProtocolFeatures.REPLY_ACK) &&& VhostUserProtocolFeatures.ALL)
  | .getQueueNum, res => do
    let num ← res
    if num > vhostUserMaxVrings then .error .invalidMessage else .ok (.u64 num)
  | .getVringBase _, res => res.map fun state => .u32 state.num
  | .getShmemConfig, res => res.map .shmem
  | .setLogBase .., res => res.map fun _ => .unit
  | .getInflightFd _, res => do
    let (inflight, file) ← res
    if VhostUserMsgValidator.isValid inflight then .ok (.inflight inflight file) else .error .invalidMessage
  | .getSharedObject _, res | .postcopyAdvice, res => (res.map .file).mapError fun _ => .invalidMessage
  | .setDeviceStateFd .., res => (res.map .optionFile).mapError fun _ => .backendInternalError
  | .checkDeviceState, res => (res.map fun _ => .unit).mapError fun _ => .backendInternalError
  | c, res =>
    if acked then ((BackendReqHandler.ackResult c res).map fun _ => .unit).mapError fun _ => .backendInternalError
    else .ok .unit

namespace FrontendOp
open Frontend

section Outcome
variable {hdr : VhostUserMsgHeader FrontendReq} {x : FrontendCtx Duplex} {op : FrontendOp} {c : Call}

/-- The method returns `r`, and has not waited for bytes that do not come. -/
def Yields (op : FrontendOp) (hdr : VhostUserMsgHeader FrontendReq) (x : FrontendCtx Duplex) (r : Except Error Value) :
    Prop :=
  ∃ y, op.finishValue Duplex.channel hdr x = (orThrow r : M Duplex Value) y ∧ y.sock.starved = false

/-! The value of a method, reply by reply. -/

section Reply
variable {v : UInt64} (acked : Bool)

theorem yields_getFeatures (h : Replying hdr (ByteValued.asSlice (⟨v⟩ : VhostUserU64)) [] x) :
    getFeatures.Yields hdr x (outcome acked .getFeatures (.ok v)) := by
  refine ⟨{ afterReply x with node := { x.node with virtioFeatures := v } }, ?_, h.starved⟩
  unfold finishValue
  dsimp only
  rw [bind_apply, recvReply_reply (by decide) h]
  rfl

theorem yields_getProtocolFeatures
    (h : Replying hdr (ByteValued.asSlice (⟨v ||| VhostUserProtocolFeatures.REPLY_ACK⟩ : VhostUserU64)) [] x) :
    getProtocolFeatures.Yields hdr x (outcome acked .getProtocolFeatures (.ok v)) := by
  refine ⟨{ afterReply x with node := { x.node with
    protocolFeatures := v ||| VhostUserProtocolFeatures.REPLY_ACK } }, ?_, h.starved⟩
  unfold finishValue
  dsimp only
  rw [bind_apply, recvReply_reply (by decide) h]
  rfl

/-- More rings than there can be are refused. -/
theorem yields_getQueueNum (h : Replying hdr (ByteValued.asSlice (⟨v⟩ : VhostUserU64)) [] x) :
    getQueueNum.Yields hdr x (outcome acked .getQueueNum (.ok v)) := by
  have hvalid : VhostUserMsgValidator.isValid (⟨v⟩ : VhostUserU64) = true := rfl
  unfold Yields finishValue outcome
  dsimp only
  rw [bind_apply, recvReply_reply (by decide) h, if_pos hvalid]
  by_cases hmax : v > vhostUserMaxVrings
  · refine ⟨afterReply x, ?_, h.starved⟩
    simp only [bind, Except.bind, hmax, if_true]
    rfl
  · refine ⟨{ afterReply x with node := { x.node with maxQueueNum := v } }, ?_, h.starved⟩
    simp only [bind, Except.bind, hmax, if_false]
    rfl

theorem yields_getMaxMemSlots (h : Replying hdr (ByteValued.asSlice (⟨v⟩ : VhostUserU64)) [] x) :
    getMaxMemSlots.Yields hdr x (outcome acked .getMaxMemSlots (.ok v)) := by
  refine ⟨afterReply x, ?_, h.starved⟩
  unfold finishValue
  dsimp only
  rw [bind_apply, recvReply_reply (by decide) h]
  rfl

theorem yields_getVringBase (queueIndex : UInt64) (index : UInt32) {state : VhostUserVringState}
    (h : Replying hdr (ByteValued.asSlice state) [] x) :
    (getVringBase queueIndex).Yields hdr x (outcome acked (.getVringBase index) (.ok state)) := by
  refine ⟨afterReply x, ?_, h.starved⟩
  unfold finishValue
  dsimp only
  rw [bind_apply, recvReply_reply (by decide) h]
  rfl

theorem yields_getShmemConfig {config : VhostUserShMemConfig} (h : Replying hdr (ByteValued.asSlice config) [] x) :
    getShmemConfig.Yields hdr x (outcome acked .getShmemConfig (.ok config)) := by
  refine ⟨afterReply x, ?_, h.starved⟩
  unfold finishValue
  dsimp only
  rw [bind_apply, recvReply_reply (by decide) h]
  rfl

/-- `SET_LOG_BASE` with a file is answered with its own body. -/
theorem yields_setLogBase (base : UInt64) {region : Option VhostUserDirtyLogRegion} {log : VhostUserLog} (file : File)
    (hlog : VhostUserMsgValidator.isValid log = true)
    (hfile : (setLogBase base region).logsAddress x.node.ackedProtocolFeatures = false)
    (h : Replying hdr (ByteValued.asSlice log) [] x) :
    (setLogBase base region).Yields hdr x (outcome acked (.setLogBase log file) (.ok ())) := by
  have hwait : (region.isSome && x.node.ackedProtocolFeatures &&& VhostUserProtocolFeatures.LOG_SHMFD ≠ 0) = true := by
    simpa [logsAddress] using hfile
  refine ⟨afterReply x, ?_, h.starved⟩
  unfold finishValue finish
  dsimp only
  rw [bind_assoc, bind_of_ok (getNode_apply x), if_pos hwait, bind_assoc, bind_apply, recvReply_reply (by decide) h, hlog]
  rfl

theorem yields_getInflightFd (asked answered : VhostUserInflight) {inflight : VhostUserInflight} {file : File}
    (h : Replying hdr (ByteValued.asSlice inflight) [file] x) :
    (getInflightFd asked).Yields hdr x (outcome acked (.getInflightFd answered) (.ok (inflight, file))) := by
  refine ⟨afterReply x, ?_, h.starved⟩
  unfold finishValue outcome
  dsimp only
  rw [bind_apply, recvReplyWithFiles_reply (by decide) h]
  cases hv : (VhostUserMsgValidator.isValid inflight : Bool) with
  | true =>
    simp only [bind, Except.bind, hv, if_true]
    rfl
  | false =>
    simp only [bind, Except.bind, hv]
    rfl

/-- An empty reply with a file; without one the device has failed. -/
theorem yields_getSharedObject (uuid asked : VhostUserSharedMsg) {res : Except Error File}
    (h : Replying hdr (ByteValued.asSlice (⟨⟩ : VhostUserEmpty)) res.toOption.toList x) :
    (getSharedObject uuid).Yields hdr x (outcome acked (.getSharedObject asked) res) := by
  refine ⟨afterReply x, ?_, h.starved⟩
  unfold finishValue outcome
  dsimp only
  rw [bind_apply, recvReplyWithFiles_reply (by decide) h]
  cases res with
  | ok file => rfl
  | error e => rfl

theorem yields_postcopyAdvise {res : Except Error File}
    (h : Replying hdr (ByteValued.asSlice (⟨⟩ : VhostUserEmpty)) res.toOption.toList x) :
    postcopyAdvise.Yields hdr x (outcome acked .postcopyAdvice res) := by
  refine ⟨afterReply x, ?_, h.starved⟩
  unfold finishValue outcome
  dsimp only
  rw [bind_apply, recvReplyWithFiles_reply (by decide) h]
  cases res with
  | ok file => rfl
  | error e => rfl

/-- The word tells whether there is a file, and whether the device has failed. -/
theorem yields_setDeviceStateFd (direction direction' : VhostTransferStateDirection)
    (phase phase' : VhostTransferStatePhase) (fd file : File) (res : Except Error (Option File)) {body : List UInt8}
    {fds : List File} (hreply : BackendReqHandler.replyOf (.setDeviceStateFd direction' phase' file) res = some (body, fds))
    (h : Replying hdr body fds x) :
    (setDeviceStateFd direction phase fd).Yields hdr x (outcome acked (.setDeviceStateFd direction' phase' file) res) := by
  refine ⟨afterReply x, ?_, h.starved⟩
  unfold finishValue outcome
  dsimp only
  obtain e | (_ | fd) := res
  · cases hreply
    rw [bind_apply, recvReplyWithOptionalFiles_reply (by decide) h]
    rfl
  · cases hreply
    rw [bind_apply, recvReplyWithOptionalFiles_reply (by decide) h]
    rfl
  · cases hreply
    rw [bind_apply, recvReplyWithOptionalFiles_reply (by decide) h]
    rfl

theorem yields_checkDeviceState (res : Except Error Unit) {body : List UInt8} {fds : List File}
    (hreply : BackendReqHandler.replyOf .checkDeviceState res = some (body, fds)) (h : Replying hdr body fds x) :
    checkDeviceState.Yields hdr x (outcome acked .checkDeviceState res) := by
  refine ⟨afterReply x, ?_, h.starved⟩
  unfold finishValue outcome finish
  dsimp only
  cases res with
  | ok _ =>
    cases hreply
    rw [bind_assoc, bind_apply, recvReply_reply (by decide) h]
    rfl
  | error e =>
    cases hreply
    rw [bind_assoc, bind_apply, recvReply_reply (by decide) h]
    rfl

end Reply

/-- The value of a method whose request has a reply of its own. -/
theorem yields_reply {body : List UInt8} {fds : List File} {n : Nat} (acked : Bool) (hcode : c.code = op.code)
    (hsize : c.code.replySize = some n) (res : c.Res) (hreply : BackendReqHandler.replyOf c res = some (body, fds))
    (hlog : ∀ log file, c = .setLogBase log file → VhostUserMsgValidator.isValid log = true)
    (hfile : op.logsAddress x.node.ackedProtocolFeatures = false) (h : Replying hdr body fds x) :
    op.Yields hdr x (outcome acked c res) := by
  cases op with
  | getFeatures =>
    cases c with
    | getFeatures =>
      cases res with
      | error e => cases hreply
      | ok v =>
        cases hreply
        exact yields_getFeatures acked h
    | _ => cases hcode
  | getProtocolFeatures =>
    cases c with
    | getProtocolFeatures =>
      cases res with
      | error e => cases hreply
      | ok v =>
        cases hreply
        exact yields_getProtocolFeatures acked h
    | _ => cases hcode
  | getQueueNum =>
    cases c with
    | getQueueNum =>
      cases res with
      | error e => cases hreply
      | ok v =>
        cases hreply
        exact yields_getQueueNum acked h
    | _ => cases hcode
  | getMaxMemSlots =>
    cases c with
    | getMaxMemSlots =>
      cases res with
      | error e => cases hreply
      | ok v =>
        cases hreply
        exact yields_getMaxMemSlots acked h
    | _ => cases hcode
  | getVringBase queueIndex =>
    cases c with
    | getVringBase index =>
      cases res with
      | error e => cases hreply
      | ok state =>
        cases hreply
        exact yields_getVringBase acked queueIndex index h
    | _ => cases hcode
  | getShmemConfig =>
    cases c with
    | getShmemConfig =>
      cases res with
      | error e => cases hreply
      | ok config =>
        cases hreply
        exact yields_getShmemConfig acked h
    | _ => cases hcode
  | setLogBase base region =>
    cases c with
    | setLogBase log file =>
      cases res with
      | error e => cases hreply
      | ok _ =>
        cases hreply
        exact yields_setLogBase acked base file (hlog log file rfl) hfile h
    | _ => cases hcode
  | getInflightFd inflight =>
    cases c with
    | getInflightFd asked =>
      obtain e | ⟨answered, file⟩ := res
      · cases hreply
      · cases hreply
        exact yields_getInflightFd acked inflight asked h
    | _ => cases hcode
  | getSharedObject uuid =>
    cases c with
    | getSharedObject asked =>
      cases hreply
      exact yields_getSharedObject acked uuid asked h
    | _ => cases hcode
  | postcopyAdvise =>
    cases c with
    | postcopyAdvice =>
      cases hreply
      exact yields_postcopyAdvise acked h
    | _ => cases hcode
  | setDeviceStateFd direction phase fd =>
    cases c with
    | setDeviceStateFd direction' phase' file =>
      exact yields_setDeviceStateFd acked direction direction' phase phase' fd file res hreply h
    | _ => cases hcode
  | checkDeviceState =>
    cases c with
    | checkDeviceState => exact yields_checkDeviceState acked res hreply h
    | _ => cases hcode
  | getConfig _ _ _ _ =>
    cases c with
    | getConfig _ _ _ => cases hreply
    | _ => cases hcode
  | _ =>
    rw [hcode] at hsize
    cases hsize

/-- A method whose request has no reply of its own waits for an acknowledgement at most. -/
theorem finishValue_acked (hsize : op.code.replySize = none) : ∃ node : FrontendInternal,
    node.ackedProtocolFeatures = op.word x.node.ackedProtocolFeatures ∧ node.error = x.node.error ∧
      op.finishValue Duplex.channel hdr x =
        (waitForAck Duplex.channel hdr >>= fun _ => pure .unit : M Duplex Value) { x with node := node } := by
  cases op with
  | setFeatures features =>
    exact ⟨{ x.node with ackedVirtioFeatures := features &&& x.node.virtioFeatures }, rfl, rfl, rfl⟩
  | setProtocolFeatures features =>
    exact ⟨{ x.node with ackedProtocolFeatures := features, protocolFeaturesReady := true }, rfl, rfl, rfl⟩
  | getFeatures | getProtocolFeatures | getQueueNum | getMaxMemSlots | getVringBase _ | getConfig _ _ _ _
  | getSharedObject _ | postcopyAdvise | getInflightFd _ | getShmemConfig | setDeviceStateFd _ _ _ | checkDeviceState
  | setLogBase _ _ => cases hsize
  | _ => exact ⟨x.node, rfl, rfl, rfl⟩

/-- Whether the method waits for an acknowledgement. -/
def acked (op : FrontendOp) (hdr : VhostUserMsgHeader FrontendReq) (node : FrontendInternal) : Bool :=
  (op.word node.ackedProtocolFeatures &&& VhostUserProtocolFeatures.REPLY_ACK) != 0 && hdr.isNeedReply

/-- Whether the method waits for anything to come back. -/
def waits (op : FrontendOp) (hdr : VhostUserMsgHeader FrontendReq) (node : FrontendInternal) : Bool :=
  (op.reads (op.word node.ackedProtocolFeatures) hdr).isSome

theorem outcome_acked (hsize : c.code.replySize = none) (acked : Bool) (res : c.Res) :
    outcome acked c res =
      if acked then
        ((BackendReqHandler.ackResult c res).map fun _ => .unit).mapError fun _ => .backendInternalError
      else .ok .unit := by
  cases c with
  | getFeatures | getProtocolFeatures | getVringBase _ | getQueueNum | getMaxMemSlots | setDeviceStateFd _ _ _
  | checkDeviceState | getSharedObject _ | postcopyAdvice | getConfig _ _ _ | getInflightFd _ | getShmemConfig
  | setLogBase _ _ => cases hsize
  | _ => rfl

/-- The value of a method that waits for an acknowledgement. -/
theorem yields_ack (hcode : c.code = op.code) (hsize : c.code.replySize = none) (res : c.Res)
    (hack : op.acked hdr x.node = true) (h : Replying hdr (BackendReqHandler.ackOf (BackendReqHandler.ackResult c res)) [] x) :
    op.Yields hdr x (outcome (op.acked hdr x.node) c res) := by
  obtain ⟨node, hword, herr, hfinish⟩ := @finishValue_acked hdr x op (hcode ▸ hsize)
  have hreply : Replying hdr (BackendReqHandler.ackOf (BackendReqHandler.ackResult c res)) [] { x with node := node } :=
    ⟨h.arrived, h.starved, herr.trans h.error, h.request⟩
  rw [outcome_acked hsize, hack, if_pos rfl, Yields, hfinish, bind_apply]
  simp only [acked, Bool.and_eq_true, bne_iff_ne, ne_eq, ← hword] at hack
  rw [waitForAck_ack hreply hack.1 hack.2]
  refine ⟨afterReply { x with node := node }, ?_, h.starved⟩
  cases BackendReqHandler.ackResult c res with
  | ok u => rfl
  | error e => rfl

/-- A method that waits for nothing. -/
theorem yields_silent (hsize : op.code.replySize = none) (hack : op.acked hdr x.node = false)
    (hstarved : x.sock.starved = false) : op.Yields hdr x (.ok .unit) := by
  obtain ⟨node, hword, -, hfinish⟩ := @finishValue_acked hdr x op hsize
  rw [Yields, hfinish, bind_apply, waitForAck_none (by rw [hword]; exact hack)]
  exact ⟨{ x with node := node }, rfl, hstarved⟩

/-- `SET_LOG_BASE` without a file waits for nothing either. -/
theorem yields_logsAddress (hlog : op.logsAddress x.node.ackedProtocolFeatures = true) (hstarved : x.sock.starved = false) :
    op.Yields hdr x (.ok .unit) := by
  cases op with
  | setLogBase base region =>
    have hnone : ¬(region.isSome && x.node.ackedProtocolFeatures &&& VhostUserProtocolFeatures.LOG_SHMFD ≠ 0) = true := by
      intro hwait
      rw [logsAddress, hwait] at hlog
      cases hlog
    refine ⟨x, ?_, hstarved⟩
    unfold finishValue finish
    dsimp only
    rw [bind_assoc, bind_of_ok (getNode_apply x), if_neg hnone]
    rfl
  | _ => cases hlog

end Outcome

end FrontendOp

/-- The log of a request that is taken is valid. -/
theorem BackendReqHandler.isValid_setLogBase {p : Platform} {h : BackendReqHandler} {req : Request FrontendReq}
    (hlen : req.buf.length = req.size) {log : VhostUserLog} {file : File}
    (hc : parse p h req = .ok (.ok (.setLogBase log file))) : VhostUserMsgValidator.isValid log = true := by
  have hcode := parse_code hc
  obtain ⟨hdr, size, buf, files⟩ := req
  simp only [parse, hcode, Call.code] at hc
  obtain ⟨-, -, hc⟩ := except_bind_ok hc
  split at hc
  · cases hc
  · obtain ⟨msg, hmsg, hc⟩ := except_bind_ok hc
    cases hc
    obtain ⟨-, hbody, rfl⟩ := extractBody_ok hlen hmsg
    exact hbody.2

namespace Link
variable {β : Type}

/-- What a method may return, in a state of the link. -/
structure Truthful (invoke : (c : Call) → β → c.Res × β) (p : Platform) (s : Link β) : Prop where
  /-- The request of the method under way has just been handled: the method returns what the device has returned
  to the call it led to. -/
  answered : ∀ req s' op hdr, Serves invoke p s req s' → s'.calling = some (op, hdr) → s'.toBackend = [] →
    ∃ c, s'.peer.calls = s.peer.calls ++ [c] ∧ c.code = op.code ∧
      op.Yields hdr s'.frontend (outcome (op.acked hdr s'.node) c (invoke c s.peer.backend).1)
  /-- The request has not been handled yet: a method that waits for nothing returns, any other one does not. -/
  unanswered : ∀ op hdr, s.calling = some (op, hdr) → s.toBackend ≠ [] →
    if op.waits hdr s.node then (final (op.finish Duplex.channel hdr s.frontend)).sock.starved = true
    else op.Yields hdr s.frontend (.ok .unit)

variable {invoke : (c : Call) → β → c.Res × β} {p : Platform} {F : UInt64} {s s' : Link β}

/-- A method waits if it reads anything. -/
theorem reads_eq_zero_iff {q : Pending} (hword : q.node.ackedProtocolFeatures = s.node.ackedProtocolFeatures) :
    q.reads = 0 ↔ q.op.waits q.hdr s.node = false := by
  rw [Pending.reads, Pending.word, hword, FrontendOp.waits]
  cases hreads : q.op.reads (q.op.word s.node.ackedProtocolFeatures) q.hdr with
  | none => simp
  | some n => simp [(FrontendOp.reads_pos hreads).ne']

/-- A method that reads nothing. -/
theorem yields_of_reads {q : Pending} {h : BackendReqHandler} (hq : q.Issued h s.node.ackedProtocolFeatures)
    (hreads : q.reads = 0) : q.op.Yields q.hdr s.frontend (.ok .unit) := by
  cases hlog : q.op.logsAddress s.node.ackedProtocolFeatures with
  | true => exact FrontendOp.yields_logsAddress hlog rfl
  | false =>
    have hword : q.word = q.op.word s.node.ackedProtocolFeatures := by rw [Pending.word, hq.word]
    have hfile : q.op.logsAddress q.word = false := by rw [hword, FrontendOp.logsAddress_word, hlog]
    cases hsize : q.op.code.replySize with
    | some n =>
      rw [Pending.reads, FrontendOp.reads_of_reply _ hfile hsize, Option.getD_some] at hreads
      omega
    | none =>
      refine FrontendOp.yields_silent hsize ?_ rfl
      rw [Pending.reads, FrontendOp.reads_of_ack _ hfile hsize, hword] at hreads
      rw [FrontendOp.acked]
      by_contra hack
      rw [frontend, Bool.not_eq_false] at hack
      rw [if_pos hack] at hreads
      cases hreads

/-- The handler has taken the request of the method under way. -/
theorem yields_of_serves (hF : ∀ b v, (invoke .getFeatures b).1 = .ok v → v = F) {q : Pending}
    (hs : s.peer.handler.Sound F) (herr : s.node.error = none) (hquiet : s.inFlight = [])
    (hq : q.Issued s.peer.handler s.node.ackedProtocolFeatures)
    (hword : s.node.ackedProtocolFeatures = s.peer.handler.ackedProtocolFeatures)
    (hstream : s.toBackend = q.cells) {req : Request FrontendReq} (hserve : Serves invoke p s req s') :
    ∃ c, s'.peer.calls = s.peer.calls ++ [c] ∧ c.code = q.op.code ∧
      q.op.Yields q.hdr s'.frontend (outcome (q.op.acked q.hdr s'.node) c (invoke c s.peer.backend).1) := by
  obtain ⟨-, hh⟩ := handled_of_serves hF hs (hword ▸ hq) (hstream.trans (List.append_nil _).symm) hserve
  have hnode := hh.node
  have hflag : (s'.peer.handler.replyAckEnabled && q.hdr.isNeedReply) = q.op.acked q.hdr s'.node := by
    rw [hh.sound.inForce_eq, hh.word, Pending.word, FrontendOp.acked, hnode, hq.word]
  obtain ⟨sched, truncErr, r, x', rx, hrecv, hret, hacc, rfl⟩ := hserve
  have hfits := FrontendOp.compose_fits hq.composed
  obtain ⟨hlen, -⟩ := FrontendOp.isValid_headerOf q.node hfits
  obtain ⟨rfl, -⟩ := recvRequest_filled hlen hfits.fds_le (hstream.trans (List.append_nil _).symm) hrecv
  obtain ⟨req, c, hrecv', hc, hcode', hcalls, hfinal, hok⟩ := BackendReqHandler.accepted_answer hret hacc
  cases hrecv.symm.trans hrecv'
  have hcode := parse_code_eq hq.composed hc
  refine ⟨c, hcalls, hcode, ?_⟩
  cases hsize : c.code.replySize with
  | some n =>
    obtain ⟨body, fds, hreply, hsock⟩ := BackendReqHandler.answer_reply (x := BackendReqHandler.called invoke s.peer c)
      hs.error hcode' hsize (hcode ▸ hq.notConfig) _ (hok (by rw [hsize]; rfl))
    have harrived : x'.sock.inFlight = cells (BackendReqHandler.reply c.code body) fds := by
      rw [hsock]
      exact (congrArg (· ++ _) hquiet).trans (List.nil_append _)
    refine FrontendOp.yields_reply _ hcode hsize _ hreply (fun log file hlog => ?_) ?_
      ⟨⟨_, hcode', harrived⟩, rfl, herr, hq.notReply⟩
    · subst hlog
      exact BackendReqHandler.isValid_setLogBase (p := p) (h := s.peer.handler) rfl hc
    · rw [frontend, ← hq.word]
      exact parse_logsAddress hq.composed hc
  | none =>
    cases hack : q.op.acked q.hdr s.node with
    | false =>
      rw [FrontendOp.outcome_acked hsize]
      exact FrontendOp.yields_silent (hcode ▸ hsize) hack rfl
    | true =>
      have harrived : x'.sock.inFlight = s.inFlight ++ _ := BackendReqHandler.inFlight_ack
        (x := BackendReqHandler.called invoke s.peer c) hs.error hcode' hsize hfinal (hflag.trans hack)
      rw [hquiet, List.nil_append] at harrived
      rw [← hack]
      exact FrontendOp.yields_ack hcode hsize _ hack ⟨⟨_, hcode', harrived⟩, rfl, herr, hq.notReply⟩

theorem truthful_of_inv (hF : ∀ b v, (invoke .getFeatures b).1 = .ok v → v = F) (h : Inv F s) :
    Truthful invoke p s where
  answered req s' op hdr hserve hcalling hempty := by
    have hsame : s'.calling = s.calling := by
      obtain ⟨_, _, _, _, _, -, -, -, rfl⟩ := hserve
      rfl
    cases h.phase with
    | idle qs calling =>
      rw [hsame, calling] at hcalling
      cases hcalling
    | answered q calling toBackend => exact absurd toBackend (toBackend_ne_nil hserve)
    | asked qs q calling toBackend silent issued inFlight ledger =>
      obtain ⟨rfl, rfl⟩ : q.op = op ∧ q.hdr = hdr := by
        simpa using (calling.symm.trans hsame.symm).trans hcalling
      cases qs with
      | nil => exact yields_of_serves hF h.sound h.error inFlight issued silent.eq_of_nil toBackend hserve
      | cons q₀ qs =>
        -- an earlier request was handled, and this one is still under way
        obtain ⟨hq, -, -⟩ := silent.head
        obtain ⟨-, hh⟩ := handled_of_serves hF h.sound hq (toBackend.trans (List.append_assoc _ _ _)) hserve
        rw [hh.toBackend] at hempty
        exact absurd (List.append_eq_nil_iff.1 hempty).2 q.cells_ne_nil
  unanswered op hdr hcalling hsome := by
    cases h.phase with
    | idle qs calling => rw [calling] at hcalling; cases hcalling
    | answered q calling toBackend => exact absurd toBackend hsome
    | asked qs q calling toBackend silent issued inFlight ledger =>
      obtain ⟨rfl, rfl⟩ : q.op = op ∧ q.hdr = hdr := by simpa using calling.symm.trans hcalling
      obtain ⟨-, hfed, -⟩ := sock_returned issued h.error rfl
      have hwaits := reads_eq_zero_iff (s := s) issued.word
      split
      · rename_i hwait
        refine eq_true_of_ne_false fun hstarved => ?_
        have hle := hfed.1 hstarved
        rw [inFlight] at hle
        exact absurd (hwaits.1 (Nat.le_zero.1 hle)) (ne_false_of_eq_true hwait)
      · rename_i hwait
        exact yields_of_reads issued (hwaits.2 (eq_false_of_ne_true hwait))

/-- **A method returns what the device returned**: in every state that the two parties get to, whatever the
interleaving, the value or the error of a method is `outcome` of what the device has returned to its call; a
method that waits for nothing returns at once. -/
theorem link_truthful (invoke : (c : Call) → β → c.Res × β) (p : Platform) (F : UInt64)
    (hF : ∀ b v, (invoke .getFeatures b).1 = .ok v → v = F) (maxQueueNum : UInt64) (b : β) (s : Link β)
    (hs : Reachable invoke p maxQueueNum b s) : Truthful invoke p s :=
  truthful_of_inv hF (Reachable.inv hF hs)

/-- The first answer is read. -/
theorem link_truthful_getFeatures :
    ∃ s', Serves (offering 0x40000000) ⟨false, fun _ _ => .ok 1⟩ asking
        (FrontendOp.arrived (Frontend.new 1) ⟨.getFeatures, [], []⟩) s' ∧
      FrontendOp.getFeatures.Yields (FrontendOp.headerOf (Frontend.new 1) ⟨.getFeatures, [], []⟩) s'.frontend
        (.ok (.u64 0x40000000)) := by
  have hsent : Step (offering 0x40000000) ⟨false, fun _ _ => .ok 1⟩ (new 1 ()) asking :=
    .sent .getFeatures (FrontendOp.headerOf (Frontend.new 1) ⟨.getFeatures, [], []⟩)
      ⟨Frontend.new 1, ⟨FrontendOp.request (Frontend.new 1) ⟨.getFeatures, [], []⟩, ⟨[], []⟩, false⟩⟩ rfl (by decide) rfl
  have hserve : Serves (offering 0x40000000) ⟨false, fun _ _ => .ok 1⟩ asking
      (FrontendOp.arrived (Frontend.new 1) ⟨.getFeatures, [], []⟩) _ :=
    ⟨[.bytes 12], .EINTR, .ok (), _, ⟨[], [], .EINTR⟩, by decide, rfl, .inl rfl, rfl⟩
  obtain ⟨c, hcalls, -, hyields⟩ := (link_truthful (offering 0x40000000) ⟨false, fun _ _ => .ok 1⟩ 0x40000000
    (fun _ _ h => (Except.ok.inj h).symm) 1 () asking (.single hsent)).answered _ _ _ _ hserve rfl rfl
  obtain rfl : Call.getFeatures = c := (List.cons.inj hcalls).1
  exact ⟨_, hserve, hyields⟩

end Link

end VhostUser
