import VhostUser.Exchange
import VhostUser.WellFormed
/-!
# Who answers what, and who waits for it

A request has a reply of its own or is acknowledged at most. The handler decides this arm by arm
(`backend_req_handler.rs:439-746`) and, for an acknowledgement, by `reply_ack_enabled`
(`:977-1020`); the frontend decides it method by method (`frontend.rs:197-645`) and, for an
acknowledgement, by its own copy of the protocol features (`:866-886`). `due` is what both should
come to.

| here | there |
| --- | --- |
| `replySize`     | the type each arm hands to `send_reply_message`, `send_message` |
| `due`           | length of what is sent back |
| `answer_acked`, `answer_own` | the arms' answers, against `due` |
| `reads`         | length of what a method receives |
| `sock_finish`   | the methods' waits, against `reads` |
-/
namespace VhostUser
open Bytes EState

/-- The length of the body of a request's own reply; a reply to `GET_CONFIG` has a payload after it. -/
def FrontendReq.replySize : FrontendReq → Option Nat
  | .getFeatures | .getProtocolFeatures | .getVringBase | .getQueueNum | .getMaxMemSlots | .setDeviceStateFd
  | .checkDeviceState => some 8
  | .getSharedObject | .postcopyAdvise => some 0
  | .getConfig => some 12
  | .getInflightFd => some 24
  | .getShmemConfig => some 2056
  | .setLogBase => some 16
  | _ => none

/-- How many bytes go back for a request: its own reply, or an acknowledgement where these are in force
and one is asked for. -/
def due (code : FrontendReq) (inForce needReply : Bool) : Option Nat :=
  match code.replySize with
  | some n => some (12 + n)
  | none => if inForce && needReply then some 20 else none

/-- The request that a call comes from. -/
def Call.code : Call → FrontendReq
  | .setOwner => .setOwner
  | .resetOwner => .resetOwner
  | .resetDevice => .resetDevice
  | .getFeatures => .getFeatures
  | .setFeatures _ => .setFeatures
  | .setMemTable .. => .setMemTable
  | .setVringNum .. => .setVringNum
  | .setVringAddr .. => .setVringAddr
  | .setVringBase .. => .setVringBase
  | .getVringBase _ => .getVringBase
  | .setVringKick .. => .setVringKick
  | .setVringCall .. => .setVringCall
  | .setVringErr .. => .setVringErr
  | .getProtocolFeatures => .getProtocolFeatures
  | .setProtocolFeatures _ => .setProtocolFeatures
  | .getQueueNum => .getQueueNum
  | .setVringEnable .. => .setVringEnable
  | .getConfig .. => .getConfig
  | .setConfig .. => .setConfig
  | .setBackendReqFd _ => .setBackendReqFd
  | .setGpuSocket _ => .gpuSetSocket
  | .getSharedObject _ => .getSharedObject
  | .getInflightFd _ => .getInflightFd
  | .setInflightFd .. => .setInflightFd
  | .getMaxMemSlots => .getMaxMemSlots
  | .addMemRegion .. => .addMemReg
  | .removeMemRegion _ => .remMemReg
  | .setDeviceStateFd .. => .setDeviceStateFd
  | .checkDeviceState => .checkDeviceState
  | .getShmemConfig => .getShmemConfig
  | .postcopyAdvice => .postcopyAdvise
  | .postcopyListen => .postcopyListen
  | .postcopyEnd => .postcopyEnd
  | .setLogBase .. => .setLogBase

namespace BackendReqHandler

/-! ## The call a request is parsed to -/

/-- The call a verdict may stand for comes from the request `r`. -/
def Yields (r : FrontendReq) (v : Except Stop Verdict) : Prop := Ensures (fun d => ∀ c, d = .ok c → c.code = r) v

theorem yields_call {c : Call} {r : FrontendReq} (h : c.code = r) : Yields r (pure (.ok c)) := by
  refine Ensures.pure fun c' hc' => ?_
  cases hc'
  exact h

theorem yields_refused {r : FrontendReq} (e : Error) : Yields r (pure (.error e)) := Ensures.pure nofun

theorem yields_parseMemTable (hdr : VhostUserMsgHeader FrontendReq) (size : Nat) (buf : List UInt8)
    (files : Option (List File)) : Yields .setMemTable (parseMemTable hdr size buf files) := by
  unfold parseMemTable
  dsimp only
  split
  · exact yields_refused _
  · refine .ite (yields_refused _) (.bind fun msg => .ite (yields_refused _) (.ite (yields_refused _) ?_))
    split
    · exact yields_refused _
    · exact .ite (yields_refused _) (.bind fun regions => .ite (yields_call rfl) (yields_refused _))

theorem yields_parseGetConfig (buf : List UInt8) : Yields .getConfig (parseGetConfig buf) := by
  refine .check (.bind fun msg => .check (.bind fun rest => .check ?_))
  split
  · exact .throw _
  · exact yields_call rfl

theorem yields_parseSetConfig (size : Nat) (buf : List UInt8) : Yields .setConfig (parseSetConfig size buf) := by
  refine .ite (yields_refused _) (.bind fun msg => .ite (yields_refused _) (.bind fun rest => .ite (yields_refused _) ?_))
  split
  · exact yields_refused _
  · exact .ite (yields_call rfl) (.throw _)

theorem yields_parseSocket (p : Platform) (files : Option (List File)) {c : File → Call} {r : FrontendReq}
    (h : ∀ f, (c f).code = r) : Yields r (pure (parseSocket p files c)) := by
  unfold parseSocket
  split
  · exact yields_refused _
  · split
    · exact yields_refused _
    · exact yields_call (h _)

/-- A request is parsed to a call of its own. -/
theorem parse_code {p : Platform} {h : BackendReqHandler} {req : Request FrontendReq} {c : Call}
    (hc : parse p h req = .ok (.ok c)) : req.hdr.getCode = .ok c.code := by
  obtain ⟨hdr, size, buf, files⟩ := req
  suffices hy : ∀ r, hdr.getCode = .ok r → Yields r (parse p h ⟨hdr, size, buf, files⟩) by
    cases hcode : hdr.getCode with
    | error e => simp only [parse, hcode] at hc; cases hc
    | ok r => exact congrArg _ (hy r hcode _ hc c rfl).symm
  intro r hcode
  cases r with
  | setOwner | resetOwner | getFeatures | setFeatures | setVringNum | setVringBase | getVringBase
  | getProtocolFeatures | setProtocolFeatures | getShmemConfig =>
    simp only [parse, hcode]
    exact .bind fun _ => yields_call rfl
  | setVringCall | setVringKick | setVringErr | resetDevice | getQueueNum | getMaxMemSlots | getInflightFd
  | remMemReg =>
    simp only [parse, hcode]
    exact .bind fun _ => .bind fun _ => yields_call rfl
  | setMemTable =>
    simp only [parse, hcode]
    exact yields_parseMemTable _ _ _ _
  | setVringAddr =>
    simp only [parse, hcode]
    refine .bind fun msg => ?_
    split
    · exact .throw _
    · exact yields_call rfl
  | setVringEnable =>
    simp only [parse, hcode]
    exact .bind fun _ => .bind fun _ => .ite (yields_call rfl) (.ite (yields_call rfl) (.throw _))
  | getConfig =>
    simp only [parse, hcode]
    exact .bind fun _ => .bind fun _ => yields_parseGetConfig _
  | setConfig =>
    simp only [parse, hcode]
    exact .bind fun _ => .bind fun _ => yields_parseSetConfig _ _
  | setBackendReqFd =>
    simp only [parse, hcode]
    exact .bind fun _ => .bind fun _ => yields_parseSocket p files fun _ => rfl
  | gpuSetSocket =>
    simp only [parse, hcode]
    exact yields_parseSocket p files fun _ => rfl
  | getSharedObject =>
    simp only [parse, hcode]
    exact .bind fun _ => .bind fun _ => .bind fun _ => .bind fun _ => yields_call rfl
  | setInflightFd | setLogBase =>
    simp only [parse, hcode]
    refine .bind fun _ => ?_
    split
    · exact .throw _
    · exact .bind fun _ => yields_call rfl
  | addMemReg =>
    simp only [parse, hcode]
    refine .bind fun _ => ?_
    split
    · exact .throw _
    · refine .check (.bind fun _ => ?_)
      split
      · exact .throw _
      · exact yields_call rfl
  | setDeviceStateFd =>
    simp only [parse, hcode]
    split
    · exact .throw _
    · refine .bind fun _ => .bind fun _ => ?_
      split
      · exact yields_call rfl
      · exact .throw _
  | checkDeviceState =>
    simp only [parse, hcode]
    exact yields_call rfl
  | postcopyAdvise =>
    simp only [parse, hcode]
    exact .check (.bind fun _ => .bind fun _ => yields_call rfl)
  | postcopyListen | postcopyEnd =>
    simp only [parse, hcode]
    exact .check (.bind fun _ => yields_call rfl)
  | _ =>
    simp only [parse, hcode]
    exact .throw _

/-! ## The answer -/

/-- What an acknowledged method returned; the other methods are not acknowledged. -/
def ackResult : (c : Call) → c.Res → Except Error Unit
  | .setOwner, res | .resetOwner, res | .resetDevice, res | .setFeatures _, res | .setMemTable .., res
  | .setVringNum .., res | .setVringAddr .., res | .setVringBase .., res | .setVringKick .., res
  | .setVringCall .., res | .setVringErr .., res | .setProtocolFeatures _, res | .setVringEnable .., res
  | .setConfig .., res | .setGpuSocket _, res | .setInflightFd .., res | .addMemRegion .., res
  | .removeMemRegion _, res | .postcopyListen, res | .postcopyEnd, res => res
  | _, _ => .ok ()

/-- The handler's fields once it has answered. -/
def update (c : Call) (res : c.Res) (h : BackendReqHandler) : BackendReqHandler := ((updateOf c res).getD id) h

/-- Acknowledgements are in force: both sides agreed on protocol features and on `REPLY_ACK`. -/
def inForce (h : BackendReqHandler) : Bool :=
  (h.virtioFeatures &&& VhostUserVirtioFeatures.PROTOCOL_FEATURES) != 0
    && (h.ackedProtocolFeatures &&& VhostUserProtocolFeatures.REPLY_ACK) != 0

/-- The cached flag is up to date in every state, from the start on. -/
theorem replyAckEnabled_update {h : BackendReqHandler} (hflag : h.replyAckEnabled = h.inForce) (c : Call)
    (res : c.Res) : (update c res h).replyAckEnabled = (update c res h).inForce := by
  unfold update
  cases hf : updateOf c res with
  | none => exact hflag
  | some f =>
    cases c with
    | setFeatures v | setProtocolFeatures v => cases hf; rfl
    | getFeatures | getProtocolFeatures =>
      cases res with
      | ok v => cases hf; rfl
      | error e => cases hf
    | _ => cases hf

theorem error_update (c : Call) (res : c.Res) (h : BackendReqHandler) : (update c res h).error = h.error := by
  unfold update
  cases hf : updateOf c res with
  | none => rfl
  | some f =>
    cases c with
    | setFeatures v | setProtocolFeatures v => cases hf; rfl
    | getFeatures | getProtocolFeatures =>
      cases res with
      | ok v => cases hf; rfl
      | error e => cases hf
    | _ => cases hf

section Wired
variable {β : Type} (invoke : (c : Call) → β → c.Res × β)

/-- A backend behind a socket that takes every message. -/
abbrev wired : Svc β Wire := ⟨invoke, Wire.post⟩

/-- A reply as it goes out. -/
def reply (code : FrontendReq) (body : List UInt8) : List UInt8 :=
  ByteValued.asSlice (VhostUserMsgHeader.new code VhostUserHeaderFlag.REPLY (UInt32.ofNat body.length)) ++ body

/-- The message that was sent, if one was due. -/
def Posted : Option Nat → Wire → Wire → Prop
  | none, w, w' => w' = w
  | some n, w, w' => ∃ bytes fds, bytes.length = n ∧ w' = (Wire.post bytes fds w).2

variable {invoke} {x x' : Ctx BackendReqHandler β Call Wire} {hdr : VhostUserMsgHeader FrontendReq} {r : FrontendReq}

theorem length_reply (code : FrontendReq) (body : List UInt8) : (reply code body).length = 12 + body.length := by
  rw [reply, List.length_append, ByteValued.length_asSlice, VhostUserMsgHeader.size_header]

theorem drop_reply (code : FrontendReq) (body : List UInt8) : (reply code body).drop 12 = body :=
  List.drop_left' (ByteValued.length_asSlice _)

theorem reply_apply {T : Type} [ByteValued T] (herr : x.handler.error = none) (hcode : hdr.getCode = .ok r)
    (hT : ByteValued.size T ≤ maxMsgSize) (msg : T) (fds : List File) :
    (orFail (newReplyHeader x.handler hdr (ByteValued.size T) 0) >>= fun replyHdr =>
      sendMsg (wired invoke) replyHdr msg fds) x =
      .ok () { x with sock := (Wire.post (reply r (ByteValued.asSlice msg)) fds x.sock).2 } := by
  rw [newReplyHeader_ok herr hcode hT, bind_of_ok (orFail_ok_apply _ _), sendMsg, if_neg (by omega), reply,
    ByteValued.length_asSlice]
  rfl

theorem sendReplyMessage_apply {T : Type} [ByteValued T] (herr : x.handler.error = none)
    (hcode : hdr.getCode = .ok r) (hT : ByteValued.size T ≤ maxMsgSize) (msg : T) :
    sendReplyMessage (wired invoke) hdr msg x =
      .ok () { x with sock := (Wire.post (reply r (ByteValued.asSlice msg)) [] x.sock).2 } :=
  reply_apply herr hcode hT msg []

/-- An acknowledgement goes out where it is in force and asked for, whatever the result; the result is
passed on. -/
theorem sendAckMessage_posted (herr : x.handler.error = none) (hcode : hdr.getCode = .ok r) (res : Except Error Unit) :
    ∃ y, Posted (if x.handler.replyAckEnabled && hdr.isNeedReply then some 20 else none) x.sock y ∧
      sendAckMessage (wired invoke) hdr res x = orFail res { x with sock := y } := by
  have hlen (val : UInt64) : (reply r (ByteValued.asSlice (⟨val⟩ : VhostUserU64))).length = 20 := by
    rw [length_reply, ByteValued.length_asSlice]
    rfl
  unfold sendAckMessage
  rw [getHandler_bind]
  split
  · dsimp only
    rw [← bind_assoc, bind_of_ok (reply_apply herr hcode (by decide) _ [])]
    exact ⟨_, ⟨_, [], hlen _, rfl⟩, rfl⟩
  · exact ⟨x.sock, rfl, rfl⟩

/-- Requests without a reply of their own: update the fields, then acknowledge. -/
theorem answer_acked {c : Call} (hc : c.code.replySize = none) (res : c.Res) :
    answer (wired invoke) hdr c res x =
      sendAckMessage (wired invoke) hdr (ackResult c res) { x with handler := update c res x.handler } := by
  cases c with
  | getFeatures | getProtocolFeatures | getVringBase _ | getQueueNum | getMaxMemSlots | setDeviceStateFd _ _ _
  | checkDeviceState | getSharedObject _ | postcopyAdvice | getConfig _ _ _ | getInflightFd _ | getShmemConfig
  | setLogBase _ _ => cases hc
  | _ => rfl

/-- The reply of the length that is due, and the fields updated. -/
def Replied (c : Call) (res : c.Res) (x x' : Ctx BackendReqHandler β Call Wire) (n : Nat) : Prop :=
  x'.handler = update c res x.handler ∧ ∃ body fds, body.length = n ∧
    x'.sock = (Wire.post (reply c.code body) fds x.sock).2 ∧
    (c = .getFeatures → fds = [] ∧ body = ByteValued.asSlice (⟨x'.handler.virtioFeatures⟩ : VhostUserU64))

theorem replied_of {T : Type} [ByteValued T] {c : Call} {res : c.Res} (msg : T) (fds : List File)
    (hne : c ≠ .getFeatures) (hup : updateOf c res = none)
    (h : (.ok () { x with sock := (Wire.post (reply c.code (ByteValued.asSlice msg)) fds x.sock).2 } :
      EStateM.Result Stop _ Unit) = .ok () x') : Replied c res x x' (ByteValued.size T) := by
  cases h
  refine ⟨?_, _, fds, ByteValued.length_asSlice msg, rfl, fun hc => absurd hc hne⟩
  rw [update, hup]
  rfl

/-- Requests with a reply of their own: one message, if the arm gets to its end. -/
theorem answer_own {c : Call} {n : Nat} (herr : x.handler.error = none) (hcode : hdr.getCode = .ok c.code)
    (hc : c.code.replySize = some n) (hconfig : c.code ≠ .getConfig) (res : c.Res)
    (h : answer (wired invoke) hdr c res x = .ok () x') : Replied c res x x' n := by
  cases c with
  | getFeatures =>
    cases res with
    | error e => cases h
    | ok features =>
      cases hc
      have hsend := @sendReplyMessage_apply β invoke x hdr _ VhostUserU64 _ herr hcode (by decide) ⟨features⟩
      simp only [answer] at h
      rw [bind_of_ok (orFail_ok_apply _ _), bind_of_ok hsend] at h
      cases h
      exact ⟨rfl, _, [], ByteValued.length_asSlice (⟨features⟩ : VhostUserU64), rfl, fun _ => ⟨rfl, rfl⟩⟩
  | getProtocolFeatures =>
    cases res with
    | error e => cases h
    | ok features =>
      cases hc
      have hsend := @sendReplyMessage_apply β invoke x hdr _ VhostUserU64 _ herr hcode (by decide)
        ⟨features ||| VhostUserProtocolFeatures.REPLY_ACK⟩
      simp only [answer] at h
      rw [bind_of_ok (orFail_ok_apply _ _), bind_of_ok hsend] at h
      cases h
      exact ⟨rfl, _, [], ByteValued.length_asSlice (⟨_⟩ : VhostUserU64), rfl, nofun⟩
  | getVringBase _ | getQueueNum | getMaxMemSlots | getShmemConfig =>
    cases res with
    | error e => cases h
    | ok msg =>
      cases hc
      simp only [answer] at h
      rw [bind_of_ok (orFail_ok_apply _ _), sendReplyMessage_apply herr hcode (by decide)] at h
      exact replied_of _ [] (by simp) rfl h
  | setLogBase log _ =>
    cases res with
    | error e => cases h
    | ok _ =>
      cases hc
      simp only [answer] at h
      rw [bind_of_ok (orFail_ok_apply _ _), sendReplyMessage_apply herr hcode (by decide)] at h
      exact replied_of log [] (by simp) rfl h
  | getSharedObject _ | postcopyAdvice =>
    cases hc
    simp only [answer] at h
    rw [getHandler_bind] at h
    cases res with
    | ok file =>
      dsimp only at h
      rw [reply_apply herr hcode (by decide)] at h
      exact replied_of (⟨⟩ : VhostUserEmpty) [file] (by simp) rfl h
    | error e =>
      dsimp only at h
      rw [reply_apply herr hcode (by decide)] at h
      exact replied_of (⟨⟩ : VhostUserEmpty) [] (by simp) rfl h
  | getInflightFd _ =>
    cases res with
    | error e => cases h
    | ok r =>
      cases hc
      simp only [answer] at h
      rw [bind_of_ok (orFail_ok_apply _ _), getHandler_bind, reply_apply herr hcode (by decide)] at h
      exact replied_of r.1 [r.2] (by simp) rfl h
  | setDeviceStateFd _ _ _ =>
    cases hc
    simp only [answer] at h
    rw [getHandler_bind] at h
    obtain e | (_ | fd) := res
    · dsimp only at h
      rw [reply_apply herr hcode (by decide)] at h
      exact replied_of (⟨0x101⟩ : VhostUserU64) [] (by simp) rfl h
    · dsimp only at h
      rw [reply_apply herr hcode (by decide)] at h
      exact replied_of (⟨0x100⟩ : VhostUserU64) [] (by simp) rfl h
    · dsimp only at h
      rw [reply_apply herr hcode (by decide)] at h
      exact replied_of (⟨0⟩ : VhostUserU64) [fd] (by simp) rfl h
  | checkDeviceState =>
    cases hc
    simp only [answer] at h
    rw [sendReplyMessage_apply herr hcode (by decide)] at h
    exact replied_of _ [] (by simp) rfl h
  | getConfig _ _ _ => exact absurd rfl hconfig
  | _ => cases hc

/-! ## `handle_request` -/

/-- `handle_request` returned `Ok`, or the error of the method it called for an acknowledged request. -/
def Accepted (invoke : (c : Call) → β → c.Res × β) (x x' : Ctx BackendReqHandler β Call Wire)
    (r : Except Error Unit) : Prop :=
  r = .ok () ∨ ∃ c e, x'.calls = x.calls ++ [c] ∧ c.code.replySize = none ∧
    ackResult c (invoke c x.backend).1 = .error e ∧ r = .error e

/-- The fields are updated and what is due went out. -/
structure Answered (hdr : VhostUserMsgHeader FrontendReq) (c : Call) (res : c.Res)
    (x x' : Ctx BackendReqHandler β Call Wire) : Prop where
  handler : x'.handler = update c res x.handler
  posted : Posted (due c.code x'.handler.replyAckEnabled hdr.isNeedReply) x.sock x'.sock
  features : c = .getFeatures → x'.sock =
    (Wire.post (reply .getFeatures (ByteValued.asSlice (⟨x'.handler.virtioFeatures⟩ : VhostUserU64))) [] x.sock).2

theorem Replied.answered {c : Call} {res : c.Res} {n : Nat} (hc : c.code.replySize = some n)
    (h : Replied c res x x' n) : Answered hdr c res x x' := by
  obtain ⟨hhandler, body, fds, hlen, hsock, hfeatures⟩ := h
  refine ⟨hhandler, ?_, fun hget => ?_⟩
  · rw [due, hc]
    exact ⟨_, fds, (length_reply _ _).trans (by rw [hlen]), hsock⟩
  · obtain ⟨rfl, rfl⟩ := hfeatures hget
    subst hget
    exact hsock

/-- The acknowledgement goes out before the result is passed on, so it does not matter which result it is. -/
theorem answered_acked {c : Call} (herr : x.handler.error = none) (hcode : hdr.getCode = .ok c.code)
    (hc : c.code.replySize = none) (res : c.Res) :
    Answered hdr c res x (final (answer (wired invoke) hdr c res x)) := by
  obtain ⟨y, hposted, hack⟩ := @sendAckMessage_posted β invoke { x with handler := update c res x.handler } hdr _
    ((error_update c res x.handler).trans herr) hcode (ackResult c res)
  have hfinal : final (answer (wired invoke) hdr c res x) =
      { x with handler := update c res x.handler, sock := y } := by
    rw [answer_acked hc, hack]
    exact keeps_orFail (p := id) _ _
  rw [hfinal]
  refine ⟨rfl, ?_, fun hget => ?_⟩
  · rw [due, hc]
    exact hposted
  · rw [hget] at hc
    cases hc

theorem answered_of_ok {c : Call} {res : c.Res} (herr : x.handler.error = none) (hcode : hdr.getCode = .ok c.code)
    (hconfig : c.code ≠ .getConfig) (h : answer (wired invoke) hdr c res x = .ok () x') :
    Answered hdr c res x x' := by
  cases hc : c.code.replySize with
  | some n => exact (answer_own herr hcode hc hconfig res h).answered hc
  | none =>
    have hans := @answered_acked β invoke x hdr c herr hcode hc res
    rwa [h] at hans

/-- Without a call only `Ok` is acceptable. -/
theorem Accepted.ok_of_calls {res : Except Error Unit} (h : Accepted invoke x x' res) (hcalls : x'.calls = x.calls) :
    res = .ok () := by
  obtain hok | ⟨c, e, hcall, -⟩ := h
  · exact hok
  · rw [hcalls] at hcall
    exact absurd hcall (by simp)

/-- A refusal is passed on as an error. -/
theorem sendAckMessage_refused (herr : x.handler.error = none) (hcode : hdr.getCode = .ok r) (e : Error) :
    sendAckMessage (wired invoke) hdr (.error e) x ≠ .ok () x' := by
  obtain ⟨y, -, hack⟩ := @sendAckMessage_posted β invoke x hdr r herr hcode (.error e)
  rw [hack, orFail_error_apply]
  exact nofun

/-- A request that was taken led to one call, and that call is answered. -/
theorem accepted_cases {p : Platform} {s s' : RxSock} {res : Except Error Unit}
    (h : handleRequest (wired invoke) p x s = .ret (res, x', s')) (hacc : Accepted invoke x x' res) :
    ∃ req c, recvRequest checkAttachedFiles (fun _ => true) s = .ret (.ok req, s') ∧
      parse p x.handler req = .ok (.ok c) ∧ req.hdr.getCode = .ok c.code ∧
      (c.code ≠ .getConfig → Answered req.hdr c (invoke c x.backend).1 x x') := by
  have herr : x.handler.error = none := by
    cases herr : x.handler.error with
    | none => rfl
    | some e =>
      have hcheck : checkState x.handler = .error (.socketBroken (.errno e)) := by rw [checkState, herr]
      simp only [handleRequest, serve, hcheck] at h
      cases h
      cases hacc.ok_of_calls rfl
  obtain ⟨rfl, e, rfl⟩ | ⟨req, hrecv, hdispatch⟩ := handleRequest_cases _ h
  · cases hacc.ok_of_calls rfl
  have hcalls := calls_dispatch (wired invoke) p req x
  rw [dispatch_eq] at hdispatch hcalls
  refine ⟨req, ?_⟩
  rcases hv : parse p x.handler req with stop | e | c
  · rw [hv] at hdispatch
    obtain ⟨hd, -⟩ | ⟨e, hd, rfl⟩ := hdispatch
    · cases hd
    · cases hd
      cases hacc.ok_of_calls rfl
  · cases hcode : req.hdr.getCode with
    | error e =>
      simp only [parse, hcode] at hv
      cases hv
    | ok r =>
      rw [hv] at hdispatch hcalls
      obtain ⟨hd, -⟩ | ⟨e', hd, rfl⟩ := hdispatch
      · exact absurd hd (sendAckMessage_refused herr hcode e)
      · rw [hd, callsOf_refused, List.append_nil] at hcalls
        cases hacc.ok_of_calls hcalls
  · have hcode := parse_code hv
    refine ⟨c, hrecv, rfl, hcode, fun hconfig => ?_⟩
    rw [hv, perform, bind_of_ok (call_apply _ _ _)] at hdispatch
    obtain ⟨hd, -⟩ | ⟨e, hd, rfl⟩ := hdispatch
    · have hans := answered_of_ok (x := { x with backend := (invoke c x.backend).2, calls := x.calls ++ [c] })
        herr hcode hconfig hd
      exact ⟨hans.handler, hans.posted, hans.features⟩
    · -- the call is the one that is acknowledged
      obtain hok | ⟨c', e', hcall, hc', -⟩ := hacc
      · cases hok
      · rw [hv, perform, bind_of_ok (call_apply _ _ _), hd, callsOf_call] at hcalls
        obtain rfl : c' = c := by simpa using hcall.symm.trans hcalls
        have hans := @answered_acked β invoke { x with backend := (invoke c' x.backend).2, calls := x.calls ++ [c'] }
          req.hdr c' herr hcode hc' (invoke c' x.backend).1
        rw [hd] at hans
        exact ⟨hans.handler, hans.posted, hans.features⟩

end Wired

end BackendReqHandler

/-! ## The frontend's side -/

namespace FrontendOp
open Frontend

/-- The request an operation sends. -/
def code : FrontendOp → FrontendReq
  | getFeatures => .getFeatures
  | setFeatures _ => .setFeatures
  | setOwner => .setOwner
  | resetOwner => .resetOwner
  | setMemTable _ => .setMemTable
  | setLogBase .. => .setLogBase
  | setLogFd _ => .setLogFd
  | setVringNum .. => .setVringNum
  | setVringAddr .. => .setVringAddr
  | setVringBase .. => .setVringBase
  | getVringBase _ => .getVringBase
  | setVringCall .. => .setVringCall
  | setVringKick .. => .setVringKick
  | setVringErr .. => .setVringErr
  | getProtocolFeatures => .getProtocolFeatures
  | setProtocolFeatures _ => .setProtocolFeatures
  | getQueueNum => .getQueueNum
  | resetDevice => .resetDevice
  | setVringEnable .. => .setVringEnable
  | getConfig .. => .getConfig
  | setConfig .. => .setConfig
  | setBackendRequestFd _ => .setBackendReqFd
  | getSharedObject _ => .getSharedObject
  | getInflightFd _ => .getInflightFd
  | setInflightFd .. => .setInflightFd
  | getMaxMemSlots => .getMaxMemSlots
  | addMemRegion _ => .addMemReg
  | removeMemRegion _ => .remMemReg
  | getShmemConfig => .getShmemConfig
  | setDeviceStateFd .. => .setDeviceStateFd
  | checkDeviceState => .checkDeviceState
  | postcopyAdvise => .postcopyAdvise
  | postcopyListen => .postcopyListen
  | postcopyEnd => .postcopyEnd

theorem compose_code (op : FrontendOp) (node : FrontendInternal) :
    Ensures (fun m => m.code = op.code) (op.compose node) := by
  cases op with
  | getFeatures | setFeatures _ | setOwner | resetOwner => exact .pure rfl
  | setMemTable _ => exact .check (.check (.pure rfl))
  | setLogBase base region =>
    cases region with
    | none => exact .pure rfl
    | some region => exact .ite (.bind fun _ => .pure rfl) (.pure rfl)
  | setVringAddr _ _ => exact .check (.pure rfl)
  | setVringEnable _ _ => exact .check (.bind fun _ => .pure rfl)
  | getConfig _ _ _ _ => exact .check (.bind fun _ => .bind fun _ => .pure rfl)
  | setConfig _ _ _ => exact .check (.check (.bind fun _ => .bind fun _ => .pure rfl))
  | getSharedObject _ | setInflightFd _ _ | addMemRegion _ | removeMemRegion _ =>
    exact .bind fun _ => .check (.pure rfl)
  | _ => exact .bind fun _ => .pure rfl

/-- The protocol features after the operation. -/
def word : FrontendOp → UInt64 → UInt64
  | setProtocolFeatures v, _ => v
  | _, w => w

/-- `SET_LOG_BASE` with an address only. Nothing is awaited, and the handler does not take it. -/
def logsAddress (w : UInt64) : FrontendOp → Bool
  | setLogBase _ region => !(region.isSome && w &&& VhostUserProtocolFeatures.LOG_SHMFD ≠ 0)
  | _ => false

/-- How many bytes an operation waits for, `w` being the protocol features after it. -/
def reads (w : UInt64) (hdr : VhostUserMsgHeader FrontendReq) (op : FrontendOp) : Option Nat :=
  if op.logsAddress w then none
  else due op.code ((w &&& VhostUserProtocolFeatures.REPLY_ACK) != 0) hdr.isNeedReply

section Reads
variable {τ : Type} (ch : Channel τ)

def received : Option Nat → τ → τ
  | none, t => t
  | some n, t => (ch.recv n t).2

variable {hdr : VhostUserMsgHeader FrontendReq} {x : FrontendCtx τ}

theorem sock_recvBody (T : Type) [ByteValued T] [VhostUserMsgValidator T] (x : FrontendCtx τ) :
    (final (Frontend.recvBody ch T x)).sock = (ch.recv (12 + ByteValued.size T) x.sock).2 := by
  unfold Frontend.recvBody
  rw [final_bind_of_keeps (p := FrontendCtx.sock) fun _ => .check (.check (.pure _)), recvBytes_apply]
  exact keeps_orThrow (p := FrontendCtx.sock) _ _

theorem sock_recvReplyWithOptionalFiles {T : Type} [ByteValued T] [VhostUserMsgValidator T]
    (hT : ByteValued.size T ≤ maxMsgSize) (herr : x.node.error = none) (hreply : hdr.isReply = false) :
    (final (recvReplyWithOptionalFiles ch T hdr x)).sock = (ch.recv (12 + ByteValued.size T) x.sock).2 := by
  have hstate : checkState x.node = .ok () := by rw [checkState, herr]
  unfold recvReplyWithOptionalFiles
  rw [if_neg (by simp [hreply, hT])]
  dsimp only
  rw [bind_of_ok (getNode_apply x), hstate, bind_of_ok (orThrow_ok_apply _ x),
    final_bind_of_keeps (p := FrontendCtx.sock) fun _ => .check (.pure _), sock_recvBody]

theorem sock_recvReply {T : Type} [ByteValued T] [VhostUserMsgValidator T] (hT : ByteValued.size T ≤ maxMsgSize)
    (herr : x.node.error = none) (hreply : hdr.isReply = false) :
    (final (recvReply ch T hdr x)).sock = (ch.recv (12 + ByteValued.size T) x.sock).2 := by
  have hstate : checkState x.node = .ok () := by rw [checkState, herr]
  unfold recvReply
  rw [if_neg (by simp [hreply, hT])]
  dsimp only
  rw [bind_of_ok (getNode_apply x), hstate, bind_of_ok (orThrow_ok_apply _ x),
    final_bind_of_keeps (p := FrontendCtx.sock) fun _ => .check (.pure _), sock_recvBody]

theorem sock_waitForAck (herr : x.node.error = none) :
    (final (waitForAck ch hdr x)).sock = received ch (if (x.node.ackedProtocolFeatures &&&
      VhostUserProtocolFeatures.REPLY_ACK) != 0 && hdr.isNeedReply then some 20 else none) x.sock := by
  have hstate : checkState x.node = .ok () := by rw [checkState, herr]
  unfold waitForAck
  rw [bind_of_ok (getNode_apply x)]
  by_cases hack : ((x.node.ackedProtocolFeatures &&& VhostUserProtocolFeatures.REPLY_ACK) != 0
      && hdr.isNeedReply) = true
  · have hwait : ¬((x.node.ackedProtocolFeatures &&& VhostUserProtocolFeatures.REPLY_ACK) == 0
        || !hdr.isNeedReply) = true := by
      simpa using hack
    rw [if_pos hack, if_neg hwait, hstate, bind_of_ok (orThrow_ok_apply _ x),
      final_bind_of_keeps (p := FrontendCtx.sock) fun _ => .check (.ite (.throw _) (.pure _)), sock_recvBody]
    rfl
  · have hnone : ((x.node.ackedProtocolFeatures &&& VhostUserProtocolFeatures.REPLY_ACK) == 0
        || !hdr.isNeedReply) = true := by
      simpa [or_iff_not_imp_left] using hack
    rw [if_neg hack, if_pos hnone]
    rfl

theorem reads_of_reply {op : FrontendOp} {n : Nat} (w : UInt64) (hlog : op.logsAddress w = false)
    (h : op.code.replySize = some n) : op.reads w hdr = some (12 + n) := by
  rw [reads, hlog, due, h]
  rfl

theorem reads_of_ack {op : FrontendOp} (w : UInt64) (hlog : op.logsAddress w = false)
    (h : op.code.replySize = none) :
    op.reads w hdr =
      if (w &&& VhostUserProtocolFeatures.REPLY_ACK) != 0 && hdr.isNeedReply then some 20 else none := by
  rw [reads, hlog, due, h]
  rfl

theorem reads_pos {op : FrontendOp} {w : UInt64} {n : Nat} (h : op.reads w hdr = some n) : 0 < n := by
  unfold reads due at h
  split at h
  · cases h
  · split at h
    · cases h
      exact Nat.add_pos_left (by decide) _
    · split at h
      · cases h
        decide
      · cases h

/-- A method receives once, or not at all. -/
theorem sock_finish {op : FrontendOp} (hop : op.code ≠ .getConfig) (herr : x.node.error = none)
    (hreply : hdr.isReply = false) :
    (final (op.finish ch hdr x)).sock =
      received ch (op.reads (op.word x.node.ackedProtocolFeatures) hdr) x.sock := by
  have hmod (f : FrontendInternal → FrontendInternal) : Keeps FrontendCtx.sock (modNode f : M τ Unit) := fun _ => rfl
  have hfile (files : Option (List File)) : Keeps FrontendCtx.sock (singleFile files : M τ File) := keeps_singleFile _
  cases op with
  | getFeatures | getProtocolFeatures =>
    unfold finish
    dsimp only
    rw [reads_of_reply _ rfl rfl, final_bind_of_keeps fun _ => hmod _]
    exact sock_recvReply ch (by decide) herr hreply
  | getQueueNum =>
    unfold finish
    dsimp only
    rw [reads_of_reply _ rfl rfl, final_bind_of_keeps fun _ => .check (hmod _)]
    exact sock_recvReply ch (by decide) herr hreply
  | getVringBase _ | getMaxMemSlots | getShmemConfig =>
    unfold finish
    dsimp only
    rw [reads_of_reply _ rfl rfl, final_bind_of_keeps (p := FrontendCtx.sock) fun _ => .pure _]
    exact sock_recvReply ch (by decide) herr hreply
  | checkDeviceState =>
    unfold finish
    dsimp only
    rw [reads_of_reply _ rfl rfl,
      final_bind_of_keeps (p := FrontendCtx.sock) fun _ => .ite (.throw _) (.pure _)]
    exact sock_recvReply ch (by decide) herr hreply
  | setDeviceStateFd _ _ _ =>
    unfold finish
    dsimp only
    rw [reads_of_reply _ rfl rfl, final_bind_of_keeps (p := FrontendCtx.sock) fun _ =>
      .ite (.pure _) (.ite (.bind (hfile _) fun _ => .pure _) (.throw _))]
    exact sock_recvReplyWithOptionalFiles ch (by decide) herr hreply
  | getSharedObject _ | postcopyAdvise | getInflightFd _ =>
    unfold finish
    dsimp only
    rw [reads_of_reply _ rfl rfl, final_bind_of_keeps fun _ => .bind (hfile _) fun _ => .pure _,
      recvReplyWithFiles, final_bind_of_keeps (p := FrontendCtx.sock) fun _ => .check (.pure _)]
    exact sock_recvReplyWithOptionalFiles ch (by decide) herr hreply
  | setLogBase base region =>
    have hword (w : UInt64) : (setLogBase base region).word w = w := rfl
    unfold finish
    dsimp only
    rw [bind_of_ok (getNode_apply x), hword]
    by_cases hlog : (region.isSome && x.node.ackedProtocolFeatures &&& VhostUserProtocolFeatures.LOG_SHMFD ≠ 0) = true
    · have hfile : (setLogBase base region).logsAddress x.node.ackedProtocolFeatures = false := by
        rw [logsAddress, hlog]
        rfl
      rw [reads_of_reply _ hfile rfl, if_pos hlog,
        final_bind_of_keeps (p := FrontendCtx.sock) fun _ => .pure _]
      exact sock_recvReply ch (by decide) herr hreply
    · have haddress : (setLogBase base region).logsAddress x.node.ackedProtocolFeatures = true := by
        rw [logsAddress, eq_false_of_ne_true hlog]
        rfl
      rw [reads, haddress, if_neg hlog]
      rfl
  | setFeatures v =>
    rw [reads_of_ack _ rfl rfl]
    exact sock_waitForAck (x := { x with node := { x.node with ackedVirtioFeatures := v &&& x.node.virtioFeatures } })
      ch herr
  | setProtocolFeatures v =>
    rw [reads_of_ack _ rfl rfl]
    exact sock_waitForAck
      (x := { x with node := { x.node with ackedProtocolFeatures := v, protocolFeaturesReady := true } }) ch herr
  | getConfig _ _ _ _ => exact absurd rfl hop
  | _ =>
    rw [reads_of_ack _ rfl rfl]
    exact sock_waitForAck ch herr

/-- The value of a reply is the body on the socket. -/
theorem recvReply_value {T : Type} [ByteValued T] [VhostUserMsgValidator T] {bytes : List UInt8}
    {files : Option (List File)} {t : τ} {x' : FrontendCtx τ} {val : T}
    (hrecv : ch.recv (12 + ByteValued.size T) x.sock = (.ok (bytes, files), t))
    (h : recvReply ch T hdr x = .ok val x') : val = ByteValued.fromSlice (bytes.drop 12) := by
  unfold recvReply at h
  split at h
  · cases h
  · dsimp only at h
    rw [bind_of_ok (getNode_apply x)] at h
    obtain ⟨_, x₁, hstate, hrest⟩ := bind_eq_ok h
    obtain rfl : x₁ = x := by
      have hkeep := keeps_orThrow (p := id) (checkState x.node) x
      rw [hstate] at hkeep
      exact hkeep
    obtain ⟨⟨reply, body, rfds⟩, x₂, hbody, hval⟩ := bind_eq_ok hrest
    obtain rfl : val = body := by
      dsimp only at hval
      split at hval
      · cases hval
      · cases hval
        rfl
    unfold Frontend.recvBody at hbody
    have hbytes : recvBytes ch (12 + ByteValued.size T) x₁ = .ok (bytes, files) { x₁ with sock := t } := by
      rw [recvBytes_apply, hrecv]
      rfl
    rw [VhostUserMsgHeader.size_header, bind_of_ok hbytes] at hbody
    dsimp only at hbody
    split at hbody
    · cases hbody
    · split at hbody
      · cases hbody
      · cases hbody
        rfl

end Reads

/-! What a method leaves of the cached state. -/

section Cached
variable {τ : Type} (ch : Channel τ) (hdr : VhostUserMsgHeader FrontendReq) (op : FrontendOp) (x : FrontendCtx τ)

theorem error_finish : (final (op.finish ch hdr x)).node.error = x.node.error := by
  refine keeps_finish (p := fun x => x.node.error) (fun _ _ => rfl) op (fun f hf x => ?_) hdr x
  cases hf <;> rfl

theorem hdrFlags_finish : (final (op.finish ch hdr x)).node.hdrFlags = x.node.hdrFlags := by
  refine keeps_finish (p := fun x => x.node.hdrFlags) (fun _ _ => rfl) op (fun f hf x => ?_) hdr x
  cases hf <;> rfl

theorem virtioFeatures_finish (hop : op ≠ getFeatures) :
    (final (op.finish ch hdr x)).node.virtioFeatures = x.node.virtioFeatures := by
  refine keeps_finish (p := fun x => x.node.virtioFeatures) (fun _ _ => rfl) op (fun f hf x => ?_) hdr x
  cases hf with
  | features v => exact absurd rfl hop
  | _ => rfl

theorem ackedProtocolFeatures_finish :
    (final (op.finish ch hdr x)).node.ackedProtocolFeatures = op.word x.node.ackedProtocolFeatures := by
  by_cases hop : ∃ v, op = setProtocolFeatures v
  · obtain ⟨v, rfl⟩ := hop
    exact keeps_waitForAck (p := fun x => x.node.ackedProtocolFeatures) (fun _ _ => rfl) hdr
      { x with node := { x.node with ackedProtocolFeatures := v, protocolFeaturesReady := true } }
  · have hword : op.word x.node.ackedProtocolFeatures = x.node.ackedProtocolFeatures := by
      cases op with
      | setProtocolFeatures v => exact absurd ⟨v, rfl⟩ hop
      | _ => rfl
    rw [hword]
    refine keeps_finish (p := fun x => x.node.ackedProtocolFeatures) (fun _ _ => rfl) op (fun f hf x => ?_) hdr x
    cases hf with
    | ackedProtocolFeatures v => exact absurd ⟨v, rfl⟩ hop
    | _ => rfl

end Cached

end FrontendOp

end VhostUser
