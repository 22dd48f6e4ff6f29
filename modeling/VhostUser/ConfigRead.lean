import VhostUser.Replies
import VhostUser.Transparency
/-!
# Reading the configuration space

`Frontend::get_config` (`frontend.rs:448-482`) against `BackendReqHandler::get_config`
(`backend_req_handler.rs:797-834`). A backend that fails, or that returns another number of bytes than it
was asked for, is reported by a reply without payload and with `size` 0. `recv_reply_with_payload`
(`frontend.rs:843-868`) waits for the payload of a success before it looks at anything, so that reply is
never taken: the method hangs, and its test `body_reply.size == 0` is not reached.

| here | there |
| --- | --- |
| `BackendEnd`  | the connection, with a handler at the other end; `starved` where the frontend would block |
| `configReply` | what the handler answers for each result of the backend |
| `RoundTrip`   | the method takes the reply, the whole of it, and returns what the backend returned |
-/
namespace VhostUser
open Bytes EState

/-! ## The connection -/

structure BackendEnd (β : Type) where
  peer : Ctx BackendReqHandler β Call Wire
  /-- A receive has waited for bytes that do not come. -/
  starved : Bool

/-- What is sent is handled to completion; what the handler posts can be received. -/
def backendEnd {β : Type} (invoke : (c : Call) → β → c.Res × β) (p : Platform) (sched : List Io) (truncErr : Errno) :
    Channel (BackendEnd β) where
  send bytes fds t :=
    match BackendReqHandler.handleRequest (BackendReqHandler.wired invoke) p t.peer
        ⟨cells bytes fds, sched, truncErr⟩ with
    | .ret (_, x', _) => (.ok (), { t with peer := x' })
    | _ => (.ok (), t)
  recv n t :=
    ((t.peer.sock.read n).1,
      ⟨{ t.peer with sock := (t.peer.sock.read n).2 }, t.starved || decide (t.peer.sock.inFlight.length < n)⟩)

/-! ## The handler's side -/

namespace BackendReqHandler

/-- The body of the reply, by what the backend returned. -/
def configReply (offset size flags : UInt32) : Except Error (List UInt8) → List UInt8
  | .ok out =>
    if out.length = size.toNat then
      ByteValued.asSlice (⟨offset, UInt32.ofNat out.length, flags⟩ : VhostUserConfig) ++ out
    else ByteValued.asSlice (⟨offset, 0, flags⟩ : VhostUserConfig)
  | .error _ => ByteValued.asSlice (⟨offset, 0, flags⟩ : VhostUserConfig)

section Answer
variable {β : Type} {invoke : (c : Call) → β → c.Res × β} {x : Ctx BackendReqHandler β Call Wire}
  {hdr : VhostUserMsgHeader FrontendReq} {r : FrontendReq}

theorem sendReplyWithPayload_apply {T : Type} [ByteValued T] (herr : x.handler.error = none)
    (hcode : hdr.getCode = .ok r) (msg : T) {payload : List UInt8}
    (hfit : ByteValued.size T + payload.length ≤ maxMsgSize) :
    sendReplyWithPayload (wired invoke) hdr msg payload x =
      .ok () { x with sock := (Wire.post (reply r (ByteValued.asSlice msg ++ payload)) [] x.sock).2 } := by
  have hstate : checkState x.handler = .ok () := by rw [checkState, herr]
  have hhdr : newReplyHeader x.handler hdr (ByteValued.size T) payload.length =
      .ok (.new r VhostUserHeaderFlag.REPLY (UInt32.ofNat (ByteValued.size T + payload.length))) := by
    rw [newReplyHeader, if_neg (by simp; omega), hstate, hcode]
  have hsub : ByteValued.size T ≤ maxMsgSize := by omega
  have hroom : ¬payload.length > maxMsgSize - ByteValued.size T := by omega
  unfold sendReplyWithPayload
  rw [getHandler_bind, hhdr, bind_of_ok (orFail_ok_apply _ _), sendMsgWithPayload, if_neg (by omega), usizeSub,
    if_pos hsub, bind_of_ok (pure_apply _ _), if_neg hroom, if_neg (by simp), reply, List.length_append,
    ByteValued.length_asSlice]
  rfl

theorem answer_getConfig (herr : x.handler.error = none) (hcode : hdr.getCode = .ok .getConfig)
    {offset size flags : UInt32} (hfit : 12 + size.toNat ≤ maxMsgSize) (res : Except Error (List UInt8)) :
    answer (wired invoke) hdr (.getConfig offset size flags) res x =
      .ok () { x with sock := (Wire.post (reply .getConfig (configReply offset size flags res)) [] x.sock).2 } := by
  have hsize : ByteValued.size VhostUserConfig = 12 := rfl
  have hfailed := @sendReplyMessage_apply β invoke x hdr .getConfig VhostUserConfig _ herr hcode (by decide)
    ⟨offset, 0, flags⟩
  cases res with
  | error e => exact hfailed
  | ok out =>
    by_cases hlen : out.length = size.toNat
    · simp only [answer, configReply, hlen, if_true]
      exact sendReplyWithPayload_apply herr hcode _ (by rw [hsize]; omega)
    · simp only [answer, configReply, hlen, if_false]
      exact hfailed

end Answer

end BackendReqHandler

/-! ## The frontend's side -/

namespace Frontend
variable {τ : Type} {ch : Channel τ} {node : FrontendInternal} {sock sock' : τ}
  {T : Type} [ByteValued T] [VhostUserMsgValidator T] {req : VhostUserMsgHeader FrontendReq} {n : Nat}

/-- The payload is waited for, whatever comes first. -/
theorem recvReplyWithPayload_error {e : Error} (hsize : req.getSize.toNat = ByteValued.size T + n) (hpos : 0 < n)
    (hmax : ByteValued.size T + n ≤ maxMsgSize) (hreply : req.isReply = false) (herr : node.error = none)
    (h : ch.recv (12 + ByteValued.size T + n) sock = (.error e, sock')) :
    recvReplyWithPayload ch T req ⟨node, sock⟩ = .error e ⟨node, sock'⟩ := by
  have hstate : checkState node = .ok () := by rw [checkState, herr]
  unfold recvReplyWithPayload
  rw [if_neg (by simp [hreply]; omega)]
  dsimp only
  rw [bind_of_ok (getNode_apply _), hstate, bind_of_ok (orThrow_ok_apply _ _)]
  simp only [recvPayloadIntoBuf, VhostUserMsgHeader.size_header, bind_apply, recvBytes_apply, hsize,
    Nat.add_sub_cancel_left, h, orThrow_error_apply]

/-- A reply with the payload that was asked for. -/
theorem recvReplyWithPayload_message {reply : VhostUserMsgHeader FrontendReq} {body : T} {payload : List UInt8}
    (hsize : req.getSize.toNat = ByteValued.size T + n) (hpos : 0 < n) (hmax : ByteValued.size T + n ≤ maxMsgSize)
    (hreply : req.isReply = false) (herr : node.error = none) (hpayload : payload.length = n)
    (hvalid : reply.isValid = true) (hfor : reply.isReplyFor req = true)
    (hdeclared : reply.getSize.toNat = ByteValued.size T + n) (hbody : VhostUserMsgValidator.isValid body = true)
    (h : ch.recv (12 + ByteValued.size T + n) sock =
      (.ok (ByteValued.asSlice reply ++ (ByteValued.asSlice body ++ payload), none), sock')) :
    recvReplyWithPayload ch T req ⟨node, sock⟩ = .ok (body, payload, none) ⟨node, sock'⟩ := by
  have hstate : checkState node = .ok () := by rw [checkState, herr]
  have hlen : (ByteValued.asSlice reply).length = 12 := ByteValued.length_asSlice reply
  have htotal : (ByteValued.asSlice reply ++ (ByteValued.asSlice body ++ payload)).length =
      12 + ByteValued.size T + n := by
    rw [List.length_append, hlen, List.length_append, ByteValued.length_asSlice, hpayload, Nat.add_assoc]
  have hdrop : (ByteValued.asSlice reply ++ (ByteValued.asSlice body ++ payload)).drop 12 =
      ByteValued.asSlice body ++ payload := List.drop_left' hlen
  have hrest : (ByteValued.asSlice reply ++ (ByteValued.asSlice body ++ payload)).drop (12 + ByteValued.size T) =
      payload := by
    rw [← List.drop_drop, hdrop, List.drop_left' (ByteValued.length_asSlice _)]
  have hbuf : Scatter.overwrite (List.replicate n 0) 0 payload = payload := by
    have hdone : (List.replicate n (0 : UInt8)).drop (0 + payload.length) = [] :=
      List.drop_eq_nil_of_le (by simp [hpayload])
    rw [Scatter.overwrite, hdone, List.take_zero, List.nil_append, List.append_nil]
  unfold recvReplyWithPayload
  rw [if_neg (by simp [hreply]; omega)]
  dsimp only
  rw [bind_of_ok (getNode_apply _), hstate, bind_of_ok (orThrow_ok_apply _ _)]
  simp only [recvPayloadIntoBuf, VhostUserMsgHeader.size_header, bind_apply, recvBytes_apply, hsize,
    Nat.add_sub_cancel_left, h, orThrow_ok_apply, htotal, hdrop, hrest, hbuf, ByteValued.fromSlice_asSlice, hvalid,
    hbody]
  simp [hfor, hdeclared, hbody, hpayload, pure_apply]

end Frontend

/-! ## There and back -/

section RoundTrip
variable {β : Type} (invoke : (c : Call) → β → c.Res × β) (p : Platform) (sched : List Io) (truncErr : Errno)

/-- What the backend returns for the request. -/
def configResult (x : Ctx BackendReqHandler β Call Wire) (offset size flags : UInt32) : Except Error (List UInt8) :=
  (invoke (.getConfig offset size flags) x.backend).1

/-- The method, on a connection with nothing under way. -/
def readConfig (node : FrontendInternal) (x : Ctx BackendReqHandler β Call Wire) (offset size flags : UInt32)
    (buf : List UInt8) : EStateM.Result Error (FrontendCtx (BackendEnd β)) (VhostUserConfig × List UInt8) :=
  Frontend.getConfig (backendEnd invoke p sched truncErr) offset size flags buf ⟨node, ⟨x, false⟩⟩

structure RoundTrip (node : FrontendInternal) (x : Ctx BackendReqHandler β Call Wire) (offset size flags : UInt32)
    (buf : List UInt8) : Prop where
  /-- The method comes back. -/
  returns : (final (readConfig invoke p sched truncErr node x offset size flags buf)).sock.starved = false
  /-- It has read the whole reply. -/
  empty : (final (readConfig invoke p sched truncErr node x offset size flags buf)).sock.peer.sock.inFlight = []
  success : ∀ out, configResult invoke x offset size flags = .ok out → out.length = size.toNat →
    ∃ y, readConfig invoke p sched truncErr node x offset size flags buf = .ok (⟨offset, size, flags⟩, out) y
  failure : (∀ out, configResult invoke x offset size flags = .ok out → out.length ≠ size.toNat) →
    ∃ y, readConfig invoke p sched truncErr node x offset size flags buf = .error .backendInternalError y

variable {invoke p sched truncErr} {node : FrontendInternal} {x : Ctx BackendReqHandler β Call Wire} {m : Outgoing}
  {offset size flags : UInt32} {buf : List UInt8}

/-- The handler once it has called the backend and answered. -/
def configAnswered (invoke : (c : Call) → β → c.Res × β) (x : Ctx BackendReqHandler β Call Wire)
    (offset size flags : UInt32) : Ctx BackendReqHandler β Call Wire :=
  { x with
    backend := (invoke (.getConfig offset size flags) x.backend).2
    calls := x.calls ++ [.getConfig offset size flags]
    sock := (Wire.post (BackendReqHandler.reply .getConfig
      (BackendReqHandler.configReply offset size flags (configResult invoke x offset size flags))) [] x.sock).2 }

/-- The connection as the method hangs: the bytes of the short reply are taken, and more is waited for. -/
def configStarved (invoke : (c : Call) → β → c.Res × β) (x : Ctx BackendReqHandler β Call Wire)
    (offset size flags : UInt32) : BackendEnd β :=
  let y := configAnswered invoke x offset size flags
  ⟨{ y with sock := { y.sock with inFlight := [] } }, true⟩

/-- A request that is accepted is answered. -/
theorem handleRequest_getConfig (hm : (FrontendOp.getConfig offset size flags buf).compose node = .ok m)
    (haccept : BackendReqHandler.Invokes (BackendReqHandler.wired invoke) p x
      ⟨cells (ByteValued.asSlice (FrontendOp.headerOf node m) ++ m.body) m.fds, sched, truncErr⟩) :
    buf.length = size.toNat ∧ (FrontendOp.headerOf node m).isReply = false ∧
      ∃ r s', BackendReqHandler.handleRequest (BackendReqHandler.wired invoke) p x
        ⟨cells (ByteValued.asSlice (FrontendOp.headerOf node m) ++ m.body) m.fds, sched, truncErr⟩ =
          .ret (r, configAnswered invoke x offset size flags, s') := by
  obtain ⟨r, x', s', hret, hcalls⟩ := id haccept
  have hfits := FrontendOp.compose_fits hm
  obtain ⟨hlen, -⟩ := FrontendOp.isValid_headerOf node hfits
  obtain ⟨rfl, -⟩ | ⟨req, hrecv, -⟩ := BackendReqHandler.handleRequest_cases _ hret
  · exact absurd rfl hcalls
  · obtain ⟨rfl, -⟩ := recvRequest_filled hlen hfits.fds_le (List.append_nil _).symm hrecv
    obtain ⟨herr, c, hc⟩ := (BackendReqHandler.invokes_iff _ hrecv).1 haccept
    obtain ⟨rfl, hsize, hreply⟩ := FrontendOp.getConfig_accepted hm hc
    obtain ⟨r', hr'⟩ := @BackendReqHandler.handleRequest_received _ _ (BackendReqHandler.wired invoke) p _ _ _ _ herr hrecv
    have hcode : (FrontendOp.headerOf node m).getCode = .ok .getConfig := by
      obtain ⟨-, -, -, rfl⟩ := FrontendOp.getConfig_ok hm
      exact FrontendOp.getCode_headerOf
    have hroom : 12 + size.toNat ≤ maxMsgSize := by
      have hle := hfits.body_le
      obtain ⟨-, -, -, rfl⟩ := FrontendOp.getConfig_ok hm
      have hconfig : ByteValued.size VhostUserConfig = 12 := rfl
      rw [List.length_append, ByteValued.length_asSlice, hconfig] at hle
      omega
    refine ⟨hsize, hreply, r', s', ?_⟩
    rw [hr', BackendReqHandler.dispatch_eq, hc, BackendReqHandler.perform, bind_of_ok (call_apply _ _ _)]
    refine congrArg (fun y => Outcome.ret (r', y, s')) ?_
    exact congrArg final (@BackendReqHandler.answer_getConfig β invoke
      { x with
        backend := (invoke (.getConfig offset size flags) x.backend).2
        calls := x.calls ++ [.getConfig offset size flags] }
      _ herr hcode offset size flags hroom _)

/-- From the send on: the handler has answered, and the method waits for header, body and payload. -/
theorem readConfig_eq (hm : (FrontendOp.getConfig offset size flags buf).compose node = .ok m)
    (herr : node.error = none)
    (haccept : BackendReqHandler.Invokes (BackendReqHandler.wired invoke) p x
      ⟨cells (ByteValued.asSlice (FrontendOp.headerOf node m) ++ m.body) m.fds, sched, truncErr⟩) :
    readConfig invoke p sched truncErr node x offset size flags buf =
      (do
        let (bodyReply, bufReply, rfds) ←
          Frontend.recvReplyWithPayload (backendEnd invoke p sched truncErr) VhostUserConfig (FrontendOp.headerOf node m)
        if rfds.isSome then throw .invalidMessage
        if bodyReply.size = 0 then throw .backendInternalError
        if bodyReply.size ≠ size || bodyReply.size.toNat ≠ buf.length || bodyReply.offset ≠ offset then
          throw .invalidMessage
        pure (bodyReply, bufReply) : Frontend.M (BackendEnd β) (VhostUserConfig × List UInt8))
        ⟨node, ⟨configAnswered invoke x offset size flags, false⟩⟩ := by
  obtain ⟨-, -, r, s', hret⟩ := handleRequest_getConfig hm haccept
  obtain ⟨hvalid, hfeature, hpayload, rfl⟩ := FrontendOp.getConfig_ok hm
  have hstate : Frontend.checkState node = .ok () := by rw [Frontend.checkState, herr]
  have hsend : (backendEnd invoke p sched truncErr).send (ByteValued.asSlice (FrontendOp.headerOf node ⟨.getConfig,
      ByteValued.asSlice (⟨offset, size, flags⟩ : VhostUserConfig) ++ buf, []⟩) ++
      (ByteValued.asSlice (⟨offset, size, flags⟩ : VhostUserConfig) ++ buf)) [] ⟨x, false⟩ =
      (.ok (), ⟨configAnswered invoke x offset size flags, false⟩) := by
    simp only [backendEnd]
    rw [hret]
  have hsent : Frontend.sendRequestWithPayload (backendEnd invoke p sched truncErr) .getConfig
      (⟨offset, size, flags⟩ : VhostUserConfig) buf [] ⟨node, ⟨x, false⟩⟩ =
        .ok (FrontendOp.headerOf node ⟨.getConfig,
          ByteValued.asSlice (⟨offset, size, flags⟩ : VhostUserConfig) ++ buf, []⟩)
          ⟨node, ⟨configAnswered invoke x offset size flags, false⟩⟩ := by
    rw [FrontendOp.sendRequestWithPayload_eq _ _ _ _ (Nat.zero_le _), hpayload,
      bind_of_ok (Frontend.orThrow_ok_apply _ _), FrontendOp.issue, bind_of_ok (Frontend.getNode_apply _), hstate,
      bind_of_ok (Frontend.orThrow_ok_apply _ _)]
    simp only [bind_apply, Frontend.sendBytes_apply, hsend, Frontend.orThrow_ok_apply, pure_apply]
  unfold readConfig Frontend.getConfig
  dsimp only
  rw [hvalid, if_neg (by simp), bind_of_ok (Frontend.getNode_apply _), hfeature,
    bind_of_ok (Frontend.orThrow_ok_apply _ _), bind_of_ok hsent]

/-- What is on its way to the frontend once the handler has answered. -/
theorem inFlight_configAnswered (hquiet : x.sock.inFlight = []) :
    (configAnswered invoke x offset size flags).sock.inFlight =
      cells (BackendReqHandler.reply .getConfig
        (BackendReqHandler.configReply offset size flags (configResult invoke x offset size flags))) [] := by
  simp only [configAnswered, Wire.post, hquiet, List.nil_append]

/-- The reply the method waits for has a payload. -/
theorem getConfig_request (hm : (FrontendOp.getConfig offset size flags buf).compose node = .ok m)
    (hbuf : buf.length = size.toNat) :
    (FrontendOp.headerOf node m).getSize.toNat = ByteValued.size VhostUserConfig + size.toNat ∧ 0 < size.toNat ∧
      ByteValued.size VhostUserConfig + size.toNat ≤ maxMsgSize := by
  have hfits := FrontendOp.compose_fits hm
  obtain ⟨hdeclared, -⟩ := FrontendOp.isValid_headerOf node hfits
  obtain ⟨hvalid, -, -, rfl⟩ := FrontendOp.getConfig_ok hm
  have hlen : (ByteValued.asSlice (⟨offset, size, flags⟩ : VhostUserConfig) ++ buf).length =
      ByteValued.size VhostUserConfig + size.toNat := by
    rw [List.length_append, ByteValued.length_asSlice, hbuf]
  exact ⟨hdeclared.trans hlen, (VhostUserConfig.isValid_iff.1 hvalid).1, hlen ▸ hfits.body_le⟩

theorem readConfig_success (hm : (FrontendOp.getConfig offset size flags buf).compose node = .ok m)
    (herr : node.error = none) (hquiet : x.sock.inFlight = [])
    (haccept : BackendReqHandler.Invokes (BackendReqHandler.wired invoke) p x
      ⟨cells (ByteValued.asSlice (FrontendOp.headerOf node m) ++ m.body) m.fds, sched, truncErr⟩)
    {out : List UInt8} (hout : configResult invoke x offset size flags = .ok out) (hsize : out.length = size.toNat) :
    ∃ y, readConfig invoke p sched truncErr node x offset size flags buf = .ok (⟨offset, size, flags⟩, out) y ∧
      y.sock.starved = false ∧ y.sock.peer.sock.inFlight = [] := by
  obtain ⟨hbuf, hreply, -⟩ := handleRequest_getConfig hm haccept
  obtain ⟨hreq, hpos, hroom⟩ := getConfig_request hm hbuf
  have hvalid := (FrontendOp.getConfig_ok hm).1
  have hbody : BackendReqHandler.configReply offset size flags (configResult invoke x offset size flags) =
      ByteValued.asSlice (⟨offset, size, flags⟩ : VhostUserConfig) ++ out := by
    rw [hout, BackendReqHandler.configReply, if_pos hsize, hsize, UInt32.ofNat_toNat]
  have hwire := @inFlight_configAnswered β invoke x offset size flags hquiet
  rw [hbody] at hwire
  have hdeclared : (UInt32.ofNat (ByteValued.asSlice (⟨offset, size, flags⟩ : VhostUserConfig) ++ out).length).toNat =
      ByteValued.size VhostUserConfig + size.toNat := by
    have hmax : maxMsgSize = 4096 := rfl
    rw [List.length_append, ByteValued.length_asSlice, hsize, UInt32.toNat_ofNat']
    omega
  have hread := Wire.read_cells hwire (List.ne_nil_of_length_pos (by rw [BackendReqHandler.length_reply]; omega))
  rw [BackendReqHandler.length_reply, List.length_append, ByteValued.length_asSlice, hsize, ← Nat.add_assoc] at hread
  have henough : ¬(configAnswered invoke x offset size flags).sock.inFlight.length <
      12 + ByteValued.size VhostUserConfig + size.toNat := by
    rw [hwire, length_cells, BackendReqHandler.length_reply, List.length_append, ByteValued.length_asSlice, hsize]
    omega
  have hrecv : (backendEnd invoke p sched truncErr).recv (12 + ByteValued.size VhostUserConfig + size.toNat)
      ⟨configAnswered invoke x offset size flags, false⟩ =
        (.ok (BackendReqHandler.reply .getConfig
          (ByteValued.asSlice (⟨offset, size, flags⟩ : VhostUserConfig) ++ out), none),
          ⟨{ configAnswered invoke x offset size flags with
              sock := { (configAnswered invoke x offset size flags).sock with inFlight := [] } }, false⟩) := by
    simp only [backendEnd, hread, henough, decide_false, Bool.or_false]
    rfl
  have hfor : (VhostUserMsgHeader.new .getConfig VhostUserHeaderFlag.REPLY
      (UInt32.ofNat (ByteValued.asSlice (⟨offset, size, flags⟩ : VhostUserConfig) ++ out).length)).isReplyFor
        (FrontendOp.headerOf node m) = true := by
    obtain ⟨-, -, -, rfl⟩ := FrontendOp.getConfig_ok hm
    have hflag : (VhostUserHeaderFlag.REPLY &&& VhostUserHeaderFlag.REPLY != 0) = true := by decide
    simp only [VhostUserMsgHeader.isReplyFor, VhostUserMsgHeader.getCode_new, FrontendOp.getCode_headerOf,
      VhostUserMsgHeader.isReply_new, hreply, hflag, Bool.not_false, beq_self_eq_true, Bool.and_self]
  have hzero : size ≠ 0 := by
    rintro rfl
    exact absurd hpos (by decide)
  refine ⟨⟨node, ⟨{ configAnswered invoke x offset size flags with
    sock := { (configAnswered invoke x offset size flags).sock with inFlight := [] } }, false⟩⟩, ?_, rfl, rfl⟩
  rw [readConfig_eq hm herr haccept, bind_of_ok (Frontend.recvReplyWithPayload_message hreq hpos hroom hreply herr hsize
    (VhostUserMsgHeader.isValid_new _ _ (hdeclared.trans_le hroom)) hfor hdeclared hvalid hrecv)]
  simp [hzero, hbuf, pure_apply]

/-- A reply of `size` 0 is shorter than what the method waits for. -/
theorem readConfig_starved (hm : (FrontendOp.getConfig offset size flags buf).compose node = .ok m)
    (herr : node.error = none) (hquiet : x.sock.inFlight = [])
    (haccept : BackendReqHandler.Invokes (BackendReqHandler.wired invoke) p x
      ⟨cells (ByteValued.asSlice (FrontendOp.headerOf node m) ++ m.body) m.fds, sched, truncErr⟩)
    (hfailed : ∀ out, configResult invoke x offset size flags = .ok out → out.length ≠ size.toNat) :
    readConfig invoke p sched truncErr node x offset size flags buf =
      .error .disconnected ⟨node, configStarved invoke x offset size flags⟩ := by
  obtain ⟨hbuf, hreply, -⟩ := handleRequest_getConfig hm haccept
  obtain ⟨hreq, hpos, hroom⟩ := getConfig_request hm hbuf
  have hbody : BackendReqHandler.configReply offset size flags (configResult invoke x offset size flags) =
      ByteValued.asSlice (⟨offset, 0, flags⟩ : VhostUserConfig) := by
    cases hres : configResult invoke x offset size flags with
    | error e => rfl
    | ok out => rw [BackendReqHandler.configReply, if_neg (hfailed out hres)]
  have hshort : (configAnswered invoke x offset size flags).sock.inFlight.length < 12 + ByteValued.size VhostUserConfig +
      size.toNat := by
    rw [inFlight_configAnswered hquiet, hbody, length_cells, BackendReqHandler.length_reply, ByteValued.length_asSlice]
    omega
  have hrecv : (backendEnd invoke p sched truncErr).recv (12 + ByteValued.size VhostUserConfig + size.toNat)
      ⟨configAnswered invoke x offset size flags, false⟩ =
        (.error .disconnected, configStarved invoke x offset size flags) := by
    simp only [configStarved, backendEnd, Wire.read, if_neg (Nat.not_le.2 hshort), hshort, decide_true, Bool.or_true]
  rw [readConfig_eq hm herr haccept, bind_apply,
    Frontend.recvReplyWithPayload_error hreq hpos hroom hreply herr hrecv]

/-- **A read of the configuration space goes there and back** exactly when the backend returns as many
bytes as were asked for. -/
theorem roundTrip_iff (hm : (FrontendOp.getConfig offset size flags buf).compose node = .ok m)
    (herr : node.error = none) (hquiet : x.sock.inFlight = [])
    (haccept : BackendReqHandler.Invokes (BackendReqHandler.wired invoke) p x
      ⟨cells (ByteValued.asSlice (FrontendOp.headerOf node m) ++ m.body) m.fds, sched, truncErr⟩) :
    RoundTrip invoke p sched truncErr node x offset size flags buf ↔
      ∃ out, configResult invoke x offset size flags = .ok out ∧ out.length = size.toNat := by
  by_cases hgot : ∃ out, configResult invoke x offset size flags = .ok out ∧ out.length = size.toNat
  · refine iff_of_true ?_ hgot
    obtain ⟨out, hout, hsize⟩ := hgot
    obtain ⟨y, hrun, hreturns, hempty⟩ := readConfig_success hm herr hquiet haccept hout hsize
    refine ⟨by rw [hrun]; exact hreturns, by rw [hrun]; exact hempty, ?_, ?_⟩
    · rintro out' hout' -
      rw [hout] at hout'
      cases hout'
      exact ⟨y, hrun⟩
    · intro hfailed
      exact absurd hsize (hfailed out hout)
  · refine iff_of_false (fun h => ?_) hgot
    have hfailed : ∀ out, configResult invoke x offset size flags = .ok out → out.length ≠ size.toNat :=
      fun out hout hsize => hgot ⟨out, hout, hsize⟩
    have hstarved := h.returns
    rw [readConfig_starved hm herr hquiet haccept hfailed] at hstarved
    cases hstarved

/-- A backend with `res` as its configuration space. -/
def configured (res : Except Error (List UInt8)) : (c : Call) → Unit → c.Res × Unit
  | .getConfig .., b => (res, b)
  | c, b => (c.refuse .invalidParam, b)

/-- A frontend and a handler that have agreed on `CONFIG`. -/
def configNode : FrontendInternal := { Frontend.new 1 with ackedProtocolFeatures := VhostUserProtocolFeatures.CONFIG }
def configPeer : Ctx BackendReqHandler Unit Call Wire :=
  ⟨{ BackendReqHandler.new with ackedProtocolFeatures := VhostUserProtocolFeatures.CONFIG }, (), ⟨[], []⟩, []⟩

/-- One byte at offset 0. -/
def firstByte : Outgoing := ⟨.getConfig, ByteValued.asSlice (⟨0, 1, 0⟩ : VhostUserConfig) ++ [0], []⟩

/-- The backend fails: the request is sent and accepted, and the method waits for a payload for ever. -/
theorem failed_read_hangs :
    BackendReqHandler.Invokes (BackendReqHandler.wired (configured (.error .invalidParam)))
      ⟨false, fun _ _ => .ok 1⟩ configPeer
      ⟨cells (ByteValued.asSlice (FrontendOp.headerOf configNode firstByte) ++ firstByte.body) firstByte.fds,
        wholeSched 13, .EINTR⟩ ∧
    ¬RoundTrip (configured (.error .invalidParam)) ⟨false, fun _ _ => .ok 1⟩ (wholeSched 13) .EINTR configNode
      configPeer 0 1 0 [0] := by
  refine ⟨⟨_, _, _, rfl, by decide⟩, fun h => ?_⟩
  have hstarved : (final (readConfig (configured (.error .invalidParam)) ⟨false, fun _ _ => .ok 1⟩ (wholeSched 13) .EINTR
      configNode configPeer 0 1 0 [0])).sock.starved = true := rfl
  rw [h.returns] at hstarved
  cases hstarved

theorem one_byte_goes_round :
    RoundTrip (configured (.ok [7])) ⟨false, fun _ _ => .ok 1⟩ (wholeSched 13) .EINTR configNode configPeer 0 1 0 [0] := by
  have hm : (FrontendOp.getConfig 0 1 0 [0]).compose configNode = .ok firstByte := rfl
  refine (roundTrip_iff hm rfl rfl ?_).2 ⟨[7], rfl, rfl⟩
  exact ⟨_, _, _, rfl, by decide⟩

end RoundTrip

end VhostUser
