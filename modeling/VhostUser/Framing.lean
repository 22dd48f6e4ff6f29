import VhostUser.BackendReq
import VhostUser.Exchange
import VhostUser.GpuBackendReq
/-!
# Every message is well framed

A header says how many bytes follow it; a wrong number shifts the rest of the stream. Headers are
made in five places (`frontend.rs:726-797`, `backend_req_handler.rs:985-1041`,
`backend_req.rs:50-61`, `frontend_req_handler.rs:349-398`, `gpu_backend_req.rs:37-81`) with a size
that is cast to `u32`, and the limit is checked elsewhere (`connection.rs:203-280`).

Each endpoint is run on a socket that records what went out (`logSend`). `AllSent W` says that
every recorded message has `W`; each step preserves it, so whole operations do.

| here | there |
| --- | --- |
| `WellFramed` | one header, then as many bytes as it says; valid, so `recv_header` takes it |
| `record` | the messages that went out so far |
| `FrontendOp.sent` `BackendReqHandler.sent` `Backend.sent` `FrontendReqHandler.sent` `GpuOp.sent` | what one operation puts on its socket |
-/
namespace VhostUser
open Bytes EState

/-- One header followed by exactly the bytes it announces, no more than its type allows; the peer's
`recv_header` takes the header off the stream. -/
def WellFramed {H : Type} [MsgHeader H] [Inhabited H] (getSize : H → UInt32) (m : List UInt8 × List File) : Prop :=
  ∃ (hdr : H) (body : List UInt8), m.1 = ByteValued.asSlice hdr ++ body ∧
    body.length = (getSize hdr).toNat ∧ (getSize hdr).toNat ≤ MsgHeader.maxMsgSize H ∧
    VhostUserMsgValidator.isValid hdr = true ∧
    ∀ (rest : List Cell) (s : RxSock), (∀ r ∈ s.sched, r.Good) → s.stream = cells m.1 m.2 ++ rest →
      (recvHeader s).ReturnsAt (ByteValued.size H) s.sched fun p => p.1 = .ok (hdr, toFiles m.2)

/-- For the headers of `message.rs`. -/
abbrev Framed (R : Type) [Req R] : List UInt8 × List File → Prop :=
  WellFramed (H := VhostUserMsgHeader R) VhostUserMsgHeader.getSize

/-- For the headers of `gpu_message.rs`. -/
abbrev GpuFramed : List UInt8 × List File → Prop :=
  WellFramed (H := VhostUserGpuMsgHeader GpuBackendReq) VhostUserGpuMsgHeader.getSize

section Intro
variable {H : Type} [MsgHeader H] [Inhabited H] {getSize : H → UInt32}

theorem wellFramed_of_valid (hH : 0 < ByteValued.size H) {hdr : H} {body : List UInt8} {fds : List File}
    (hlen : body.length = (getSize hdr).toNat) (hmax : body.length ≤ MsgHeader.maxMsgSize H)
    (hvalid : VhostUserMsgValidator.isValid hdr = true) (hfds : fds.length ≤ maxAttachedFdEntries) :
    WellFramed getSize (ByteValued.asSlice hdr ++ body, fds) := by
  refine ⟨hdr, body, rfl, hlen, hlen ▸ hmax, hvalid, fun rest s hg hstream => ?_⟩
  refine (recvHeader_front hH hvalid hfds hg hstream).mono ?_
  rintro ⟨r, s'⟩ ⟨hr, -, -⟩
  exact hr

variable {R : Type} [Req R]

/-- A header made by `new` with the length of what follows. -/
theorem wellFramed_new (r : R) (flags : UInt32) {body : List UInt8} {fds : List File}
    (hmax : body.length ≤ maxMsgSize) (hfds : fds.length ≤ maxAttachedFdEntries) :
    Framed R (ByteValued.asSlice (VhostUserMsgHeader.new r flags (UInt32.ofNat body.length)) ++ body, fds) := by
  have hsize : (UInt32.ofNat body.length).toNat = body.length := by
    have : maxMsgSize = 4096 := rfl
    rw [UInt32.toNat_ofNat']
    omega
  exact wellFramed_of_valid (by simp) hsize.symm hmax (VhostUserMsgHeader.isValid_new r flags (hsize.trans_le hmax)) hfds

theorem wellFramed_gpu (r : GpuBackendReq) {body : List UInt8} {fds : List File}
    (hmax : body.length ≤ VhostUserGpuMsgHeader.maxMsgSize) (hfds : fds.length ≤ maxAttachedFdEntries) :
    GpuFramed (ByteValued.asSlice (VhostUserGpuMsgHeader.new r 0 (UInt32.ofNat body.length)) ++ body, fds) := by
  have hsize : (UInt32.ofNat body.length).toNat = body.length := by
    have : VhostUserGpuMsgHeader.maxMsgSize = 2 ^ 32 - 1 := rfl
    rw [UInt32.toNat_ofNat']
    omega
  exact wellFramed_of_valid (by simp) hsize.symm hmax (VhostUserGpuMsgHeader.isValid_new r _) hfds

end Intro

/-- A record after one send. -/
theorem forall_logSend {τ : Type} {send : List UInt8 → List File → τ → Except Error Unit × τ}
    {W : List UInt8 × List File → Prop} {bytes : List UInt8} {fds : List File} {t : τ × Log}
    (hnew : W (bytes, fds)) (ht : ∀ m ∈ t.2, W m) : ∀ m ∈ (logSend send bytes fds t).2.2, W m := by
  simp only [logSend]
  split
  · intro m hm
    rcases List.mem_append.1 hm with hm | hm
    · exact ht m hm
    · rw [List.mem_singleton.1 hm]
      exact hnew
  · exact ht

/-- A send that succeeds is recorded. -/
theorem length_logSend {τ : Type} {send : List UInt8 → List File → τ → Except Error Unit × τ} {bytes : List UInt8}
    {fds : List File} {t : τ × Log} (h : (logSend send bytes fds t).1 = .ok ()) :
    (logSend send bytes fds t).2.2.length = t.2.length + 1 := by
  simp only [logSend] at h ⊢
  rw [h]
  simp

/-! ## The frontend -/

theorem FrontendOp.sent_wellFramed {τ : Type} (ch : Channel τ) (op : FrontendOp) (x : FrontendCtx τ) :
    ∀ m ∈ op.sent ch x, Framed FrontendReq m := by
  obtain hnone | ⟨m, hm, hone⟩ := op.sent_cases ch x
  · rw [hnone]
    simp
  · have hfits := compose_fits hm
    intro m' hm'
    rw [hone, List.mem_singleton] at hm'
    rw [hm']
    exact wellFramed_new m.code _ hfits.body_le hfits.fds_le

/-- An operation that succeeds has sent one message. -/
theorem FrontendOp.grows_run {τ : Type} (ch : Channel τ) (op : FrontendOp) : Grows record 1 (op.run ch.logged) := by
  rw [run_eq]
  refine .after (fun _ => rfl) fun node => .after (fun x => ?_) fun m => .before ?_ fun hdr =>
    keeps_finish (fun _ _ => rfl) op (fun _ _ _ => rfl) hdr
  · cases op.compose node with
    | ok m => rfl
    | error e => rfl
  · refine .after (fun _ => rfl) fun node => .after (fun x => ?_) fun _ => .before ?_ fun _ => .pure _
    · cases Frontend.checkState node with
      | ok u => rfl
      | error e => rfl
    · intro x a x' h
      rw [Frontend.sendBytes_apply] at h
      cases hsend : (ch.logged.send (ByteValued.asSlice (headerOf node m) ++ m.body) m.fds x.sock).1 with
      | ok u =>
        rw [hsend] at h
        cases h
        exact length_logSend hsend
      | error e =>
        rw [hsend] at h
        cases h

/-! ## The handlers -/

def Service.logged {κ : Type} {Res : κ → Type} {β τ : Type} (svc : Service κ Res β τ) :
    Service κ Res β (τ × Log) where
  invoke := svc.invoke
  send := logSend svc.send

section Handlers
variable {η β κ τ : Type} {Res : κ → Type} {W : List UInt8 × List File → Prop}

/-- Every message that a handler has sent has `W`. -/
def AllSent (W : List UInt8 × List File → Prop) (x : Ctx η β κ (τ × Log)) : Prop := ∀ m ∈ x.sock.2, W m

theorem preserves_of_sock {α : Type} {y : Handling η β κ (τ × Log) α} (h : Keeps (fun x => x.sock) y) :
    Preserves (AllSent W) y :=
  .of_keeps (p := Ctx.sock) (r := fun sock : τ × Log => ∀ m ∈ sock.2, W m) h

theorem preserves_sendBytes (svc : Service κ Res β τ) {bytes : List UInt8} {fds : List File} (h : W (bytes, fds)) :
    Preserves (AllSent W) (sendBytes svc.logged bytes fds : Handling η β κ (τ × Log) Unit) := by
  intro x hx
  rw [sendBytes, bind_of_ok (get_apply x)]
  exact preserves_of_sock (keeps_orFail _) { x with sock := _ } (forall_logSend h hx)

theorem preserves_sendMsg {R T : Type} [Req R] [ByteValued T] (svc : Service κ Res β τ) {hdr : VhostUserMsgHeader R}
    {body : T} {fds : List File} (h : W (ByteValued.asSlice hdr ++ ByteValued.asSlice body, fds)) :
    Preserves (AllSent W) (sendMsg svc.logged hdr body fds : Handling η β κ (τ × Log) Unit) :=
  .ite (fun _ => .throw _) fun _ => preserves_sendBytes svc h

theorem preserves_sendMsgWithPayload {R T : Type} [Req R] [ByteValued T] (svc : Service κ Res β τ)
    {hdr : VhostUserMsgHeader R} {body : T} {payload : List UInt8} {fds : List File}
    (h : W (ByteValued.asSlice hdr ++ (ByteValued.asSlice body ++ payload), fds)) :
    Preserves (AllSent W) (sendMsgWithPayload svc.logged hdr body payload fds : Handling η β κ (τ × Log) Unit) := by
  refine .ite (fun _ => .throw _) fun _ => .bind (.ite (fun _ => .pure _) fun _ => .throw _) fun _ => ?_
  exact .ite (fun _ => .throw _) fun _ => .ite (fun _ => .throw _) fun _ => preserves_sendBytes svc h

/-- The messages a handler has sent. -/
def Ctx.record (x : Ctx η β κ (τ × Log)) : Log := x.sock.2

theorem grows_sendBytes (svc : Service κ Res β τ) (bytes : List UInt8) (fds : List File) :
    Grows Ctx.record 1 (sendBytes svc.logged bytes fds : Handling η β κ (τ × Log) Unit) := by
  intro x a x' h
  have h : (orFail (svc.logged.send bytes fds x.sock).1 : Handling η β κ (τ × Log) Unit)
      { x with sock := (svc.logged.send bytes fds x.sock).2 } = .ok a x' := h
  cases hsend : (svc.logged.send bytes fds x.sock).1 with
  | ok u =>
    rw [hsend] at h
    cases h
    exact length_logSend hsend
  | error e =>
    rw [hsend] at h
    cases h

theorem grows_sendMsg {R T : Type} [Req R] [ByteValued T] (svc : Service κ Res β τ) (hdr : VhostUserMsgHeader R)
    (body : T) (fds : List File) :
    Grows Ctx.record 1 (sendMsg svc.logged hdr body fds : Handling η β κ (τ × Log) Unit) :=
  .ite (.throw _) (grows_sendBytes svc _ _)

theorem grows_sendMsgWithPayload {R T : Type} [Req R] [ByteValued T] (svc : Service κ Res β τ)
    (hdr : VhostUserMsgHeader R) (body : T) (payload : List UInt8) (fds : List File) :
    Grows Ctx.record 1 (sendMsgWithPayload svc.logged hdr body payload fds : Handling η β κ (τ × Log) Unit) :=
  .ite (.throw _) (.after (.ite (.pure _) (.throw _)) fun _ =>
    .ite (.throw _) (.ite (.throw _) (grows_sendBytes svc _ _)))

/-- What a call of a handler has sent when it is over. -/
def logOf {α : Type} : Outcome (α × Ctx η β κ (τ × Log) × RxSock) → Log
  | .ret (_, x, _) => x.sock.2
  | _ => []

/-- The context before a call, with an empty record. -/
def Ctx.unlogged (x : Ctx η β κ τ) : Ctx η β κ (τ × Log) := ⟨x.handler, x.backend, (x.sock, []), x.calls⟩

theorem forall_logOf_serve {α R : Type} {checkState : η → Except Error Unit}
    {recv : RxSock → Outcome (Except Error (Request R) × RxSock)} {dispatch : Request R → Handling η β κ (τ × Log) α}
    (h : ∀ req, Preserves (AllSent W) (dispatch req)) (x : Ctx η β κ τ) (s : RxSock) :
    ∀ m ∈ logOf (serve checkState recv dispatch x.unlogged s), W m := by
  have hempty : AllSent W x.unlogged := nofun
  unfold serve
  split
  · exact hempty
  · split
    · nofun
    · nofun
    · exact hempty
    · rename_i req s' _
      have hd := h req x.unlogged hempty
      split
      · rename_i hret
        rw [hret] at hd
        exact hd
      · nofun
      · rename_i hret
        rw [hret] at hd
        exact hd

end Handlers

namespace BackendReqHandler
variable {β τ : Type} (svc : Svc β τ)

/-- A reply header has a valid code and the size of its body. -/
theorem newReplyHeader_cases {h : BackendReqHandler} {req hdr : VhostUserMsgHeader FrontendReq}
    {tsize payloadSize : Nat} (hhdr : newReplyHeader h req tsize payloadSize = .ok hdr) :
    tsize + payloadSize ≤ maxMsgSize ∧
      ∃ code, hdr = .new code VhostUserHeaderFlag.REPLY (UInt32.ofNat (tsize + payloadSize)) := by
  unfold newReplyHeader at hhdr
  split at hhdr
  · cases hhdr
  · rename_i hsize
    simp only [Bool.or_eq_true, decide_eq_true_eq, not_or, gt_iff_lt, not_lt] at hsize
    split at hhdr
    · cases hhdr
    · split at hhdr
      · cases hhdr
      · cases hhdr
        exact ⟨hsize.2, _, rfl⟩

/-- A reply that succeeds is one message. -/
theorem grows_sendReplyMessage {T : Type} [ByteValued T] (req : VhostUserMsgHeader FrontendReq) (msg : T) :
    Grows Ctx.record 1 (sendReplyMessage svc.logged req msg) :=
  .after (fun _ => rfl) fun _ => .after (keeps_orFail _) fun _ => grows_sendMsg svc _ _ _

theorem grows_sendReplyWithPayload {T : Type} [ByteValued T] (req : VhostUserMsgHeader FrontendReq) (msg : T)
    (payload : List UInt8) : Grows Ctx.record 1 (sendReplyWithPayload svc.logged req msg payload) :=
  .after (fun _ => rfl) fun _ => .after (keeps_orFail _) fun _ => grows_sendMsgWithPayload svc _ _ _ _

/-- An acknowledgement that is asked for is one message. -/
theorem grows_sendAckMessage {req : VhostUserMsgHeader FrontendReq} {res : Except Error Unit}
    {x x' : Ctx BackendReqHandler β Call (τ × Log)} (hack : (x.handler.replyAckEnabled && req.isNeedReply) = true)
    (h : sendAckMessage svc.logged req res x = .ok () x') : x'.record.length = x.record.length + 1 := by
  unfold sendAckMessage at h
  rw [bind_of_ok (getHandler_apply x), if_pos hack] at h
  refine Grows.after (p := Ctx.record) (keeps_orFail _) (fun hdr => ?_) x () x' h
  exact .before (grows_sendMsg svc _ _ _) fun _ => keeps_orFail _

theorem rules_framed : Rules svc.logged (Preserves (AllSent (Framed FrontendReq))) where
  pure a := .pure a
  fail _ := .throw _
  bind hy hf := .bind hy hf
  getHandler := fun _ hx => hx
  reply {T} _ h req msg fds hfds := by
    cases hhdr : newReplyHeader h req (ByteValued.size T) 0 with
    | error e => exact fun _ hx => hx
    | ok hdr =>
      obtain ⟨hsize, code, rfl⟩ := newReplyHeader_cases hhdr
      rw [Nat.add_zero, ← ByteValued.length_asSlice msg] at hsize ⊢
      exact preserves_sendMsg svc (wellFramed_new code _ hsize (hfds.trans (by decide)))
  replyWithPayload {T} _ h req msg payload := by
    cases hhdr : newReplyHeader h req (ByteValued.size T) payload.length with
    | error e => exact fun _ hx => hx
    | ok hdr =>
      obtain ⟨hsize, code, rfl⟩ := newReplyHeader_cases hhdr
      rw [← ByteValued.length_asSlice msg, ← List.length_append] at hsize ⊢
      exact preserves_sendMsgWithPayload svc (wellFramed_new code _ hsize (by decide))

theorem preserves_dispatch (p : Platform) (req : Request FrontendReq) :
    Preserves (AllSent (Framed FrontendReq)) (dispatch svc.logged p req) := by
  intro x hx
  rw [dispatch_eq]
  rcases parse p x.handler req with stop | e | c
  · exact hx
  · exact (rules_framed svc).sendAckMessage req.hdr (.error e) x hx
  · refine Preserves.bind (fun _ hx => hx) (fun res => ?_) x hx
    exact (rules_framed svc).answer req.hdr c res fun _ _ _ hx => hx

/-- What one `handle_request` sends. -/
def sent (p : Platform) (x : Ctx BackendReqHandler β Call τ) (s : RxSock) : Log :=
  logOf (handleRequest svc.logged p x.unlogged s)

theorem sent_wellFramed (p : Platform) (x : Ctx BackendReqHandler β Call τ) (s : RxSock) :
    ∀ m ∈ sent svc p x s, Framed FrontendReq m :=
  forall_logOf_serve (preserves_dispatch svc p) x s

end BackendReqHandler

namespace FrontendReqHandler
variable {β τ : Type} (svc : Svc β τ)

/-- An acknowledgement that is asked for is one message. -/
theorem grows_sendAckMessage {req : VhostUserMsgHeader BackendReq} {res : Except Error UInt64}
    {x x' : Ctx FrontendReqHandler β FrontendCall (τ × Log)}
    (hack : (x.handler.replyAckNegotiated && req.isNeedReply) = true)
    (h : sendAckMessage svc.logged req res x = .ok () x') : x'.record.length = x.record.length + 1 := by
  rw [sendAckMessage, bind_of_ok (getHandler_apply x), if_pos hack] at h
  exact Grows.after (p := Ctx.record) (keeps_orFail _) (fun hdr => grows_sendMsg svc _ _ _) x () x' h

theorem preserves_sendAckMessage (req : VhostUserMsgHeader BackendReq) (res : Except Error UInt64) :
    Preserves (AllSent (Framed BackendReq)) (sendAckMessage svc.logged req res) := by
  refine .bind (fun _ hx => hx) fun h => .ite (fun _ => ?_) fun _ => .pure _
  cases hhdr : newReplyHeader h req (ByteValued.size VhostUserU64) with
  | error e => exact fun _ hx => hx
  | ok hdr =>
    unfold newReplyHeader at hhdr
    split at hhdr
    · cases hhdr
    · split at hhdr
      · cases hhdr
      · split at hhdr
        · cases hhdr
        · cases hhdr
          have hmax : (ByteValued.asSlice (⟨ackValue res⟩ : VhostUserU64)).length ≤ maxMsgSize := by
            rw [ByteValued.length_asSlice]
            decide
          rw [← ByteValued.length_asSlice (⟨ackValue res⟩ : VhostUserU64)]
          exact preserves_sendMsg svc (wellFramed_new _ _ hmax (Nat.zero_le _))

theorem preserves_dispatch (req : Request BackendReq) :
    Preserves (AllSent (Framed BackendReq)) (dispatch svc.logged req) := by
  have hfinish (res : Except Error UInt64) :
      Preserves (AllSent (Framed BackendReq)) (finish svc.logged req.hdr res) :=
    .bind (preserves_sendAckMessage svc req.hdr res) fun _ => preserves_of_sock (keeps_orFail res)
  rw [dispatch_eq]
  rcases parse req with stop | e | c
  · exact .throw _
  · exact hfinish _
  · exact .bind (fun _ hx => hx) fun r => hfinish _

/-- What one `handle_request` sends. -/
def sent (x : Ctx FrontendReqHandler β FrontendCall τ) (s : RxSock) : Log :=
  logOf (handleRequest svc.logged x.unlogged s)

theorem sent_wellFramed (x : Ctx FrontendReqHandler β FrontendCall τ) (s : RxSock) :
    ∀ m ∈ sent svc x s, Framed BackendReq m :=
  forall_logOf_serve (preserves_dispatch svc) x s

end FrontendReqHandler

/-! ## The proxies of the backend -/

namespace Backend
variable {τ : Type} (ch : Channel τ)

theorem wellFramed_requestHeader (node : BackendInternal) (r : BackendReq) {body : List UInt8} {fds : List File}
    (hmax : body.length ≤ maxMsgSize) (hfds : fds.length ≤ maxAttachedFdEntries) :
    Framed BackendReq (ByteValued.asSlice (requestHeader node r body.length) ++ body, fds) := by
  cases hack : node.replyAckNegotiated with
  | true =>
    rw [requestHeader_eq hack]
    exact wellFramed_new r _ hmax hfds
  | false =>
    rw [requestHeader, if_neg (by simp [hack])]
    exact wellFramed_new r _ hmax hfds

def AllSent (x : BackendCtx (τ × Log)) : Prop := ∀ m ∈ x.sock.2, Framed BackendReq m

theorem preserves_orThrow {α : Type} (r : Except Error α) : Preserves AllSent (orThrow r : M (τ × Log) α) := by
  cases r with
  | ok a => exact .pure a
  | error e => exact .throw e

theorem preserves_recvBytes (n : Nat) : Preserves AllSent (recvBytes ch.logged n) := by
  intro x hx
  rw [recvBytes_apply]
  exact preserves_orThrow _ { x with sock := _ } hx

theorem preserves_waitForAck (hdr : VhostUserMsgHeader BackendReq) :
    Preserves AllSent (waitForAck ch.logged hdr) := by
  refine .bind (fun _ hx => hx) fun node => .bind (preserves_orThrow _) fun _ => .ite (fun _ => .pure _) fun _ => ?_
  refine .bind (.bind (preserves_recvBytes ch _) fun _ => .check fun _ => .check fun _ => .pure _) fun _ => ?_
  exact .check fun _ => .check fun _ => .pure _

theorem preserves_sendMessage {T : Type} [ByteValued T] (r : BackendReq) (body : T) {fds : List File}
    (hfds : fds.length ≤ maxAttachedFdEntries) : Preserves AllSent (sendMessage ch.logged r body fds) := by
  refine .bind (fun _ hx => hx) fun node => .bind (preserves_orThrow _) fun _ => .check fun hsize => ?_
  rw [← ByteValued.length_asSlice body] at hsize ⊢
  refine .bind (fun x hx => ?_) fun _ => preserves_waitForAck ch _
  rw [sendBytes_apply]
  exact preserves_orThrow _ { x with sock := _ }
    (forall_logSend (wellFramed_requestHeader node r (not_lt.1 hsize) hfds) hx)

theorem preserves_gated {α : Type} {negotiated : BackendInternal → Bool} {y : M (τ × Log) α}
    (hy : Preserves AllSent y) : Preserves AllSent (gated negotiated y) := by
  refine .bind (fun _ hx => hx) fun _ => .check fun _ x hx => ?_
  have h := hy x hx
  unfold intoIo
  cases hr : y x with
  | ok a x' =>
    rw [hr] at h
    exact h
  | error e x' =>
    rw [hr] at h
    exact h

/-- The messages the proxy has sent. -/
def record (x : BackendCtx (τ × Log)) : Log := x.sock.2

theorem keeps_orThrow {α : Type} (r : Except Error α) : Keeps record (orThrow r : M (τ × Log) α) := by
  cases r with
  | ok a => exact .pure a
  | error e => exact .throw e

theorem keeps_waitForAck (hdr : VhostUserMsgHeader BackendReq) : Keeps record (waitForAck ch.logged hdr) := by
  have hrecv (n : Nat) : Keeps record (recvBytes ch.logged n) := by
    intro x
    rw [recvBytes_apply]
    exact keeps_orThrow _ { x with sock := _ }
  refine .bind (fun _ => rfl) fun node => .bind (keeps_orThrow _) fun _ => .ite (.pure _) ?_
  refine .bind (.bind (hrecv _) fun _ => .check (.check (.pure _))) fun _ => ?_
  exact .check (.check (.pure _))

/-- A method that succeeds has sent one message. -/
theorem grows_sendMessage {T : Type} [ByteValued T] (r : BackendReq) (body : T) (fds : List File) :
    Grows record 1 (sendMessage ch.logged r body fds) := by
  refine .after (fun _ => rfl) fun node => .after (keeps_orThrow _) fun _ => .check ?_
  refine .before (fun x a x' h => ?_) fun _ => keeps_waitForAck ch _
  rw [sendBytes_apply] at h
  cases hsend : (ch.logged.send (ByteValued.asSlice (requestHeader node r (ByteValued.size T)) ++ ByteValued.asSlice body)
      fds x.sock).1 with
  | ok u =>
    rw [hsend] at h
    cases h
    exact length_logSend hsend
  | error e =>
    rw [hsend] at h
    cases h

theorem grows_gated {α : Type} {negotiated : BackendInternal → Bool} {y : M (τ × Log) α} (hy : Grows record 1 y) :
    Grows record 1 (gated negotiated y) := by
  refine .after (fun _ => rfl) fun _ => .check fun x a x' h => ?_
  unfold intoIo at h
  cases hr : y x with
  | ok b y' =>
    rw [hr] at h
    cases h
    exact hy x a x' hr
  | error e y' =>
    rw [hr] at h
    cases h

theorem grows_forward (c : FrontendCall) : Grows record 1 (forward ch.logged c) := by
  cases c with
  | handleConfigChange => exact .throw _
  | sharedObjectAdd uuid | sharedObjectRemove uuid | sharedObjectLookup uuid _ | shmemMap uuid _ | shmemUnmap uuid =>
    exact grows_gated (grows_sendMessage ch _ uuid _)

/-- What one method of the proxy sends. -/
def sent (c : FrontendCall) (x : BackendCtx τ) : Log :=
  (final (forward ch.logged c ⟨x.node, (x.sock, [])⟩)).sock.2

theorem sent_wellFramed (c : FrontendCall) (x : BackendCtx τ) : ∀ m ∈ sent ch c x, Framed BackendReq m := by
  have hnone : ([] : List File).length ≤ maxAttachedFdEntries := by decide
  have hone (fd : File) : [fd].length ≤ maxAttachedFdEntries := Nat.le_add_left 1 31
  have hforward : Preserves AllSent (forward ch.logged c) := by
    cases c with
    | handleConfigChange => exact .throw _
    | sharedObjectAdd uuid | sharedObjectRemove uuid =>
      exact preserves_gated (preserves_sendMessage ch _ uuid hnone)
    | sharedObjectLookup uuid fd => exact preserves_gated (preserves_sendMessage ch _ uuid (hone fd))
    | shmemMap req fd => exact preserves_gated (preserves_sendMessage ch _ req (hone fd))
    | shmemUnmap req => exact preserves_gated (preserves_sendMessage ch _ req hnone)
  exact hforward ⟨x.node, (x.sock, [])⟩ nofun

end Backend

namespace GpuBackend
variable {τ : Type} (ch : Channel τ)

def AllSent (x : GpuCtx (τ × Log)) : Prop := ∀ m ∈ x.sock.2, GpuFramed m

theorem preserves_orThrow {α : Type} (info : String) (r : Except Error α) :
    Preserves AllSent (orThrow info r : M (τ × Log) α) := by
  cases r with
  | ok a => exact .pure a
  | error e => exact .throw _

theorem preserves_checkState : Preserves AllSent (checkState : M (τ × Log) Unit) :=
  .bind (fun _ hx => hx) fun _ => preserves_orThrow _ _

theorem preserves_sendBytes (info : String) {bytes : List UInt8} {fds : List File} (h : GpuFramed (bytes, fds)) :
    Preserves AllSent (sendBytes ch.logged info bytes fds) := by
  intro x hx
  rw [sendBytes, bind_of_ok (get_apply x)]
  exact preserves_orThrow info _ { x with sock := _ } (forall_logSend h hx)

theorem preserves_sendHeader (r : GpuBackendReq) {fds : List File} (hfds : fds.length ≤ maxAttachedFdEntries) :
    Preserves AllSent (sendHeader ch.logged r fds) := by
  refine .bind preserves_checkState fun _ => .bind (preserves_sendBytes ch _ ?_) fun _ => .pure _
  have h := @wellFramed_gpu r [] fds (Nat.zero_le _) hfds
  rwa [List.append_nil] at h

theorem preserves_sendMessage {T : Type} [ByteValued T] (r : GpuBackendReq) (body : T) {fds : List File}
    (hfds : fds.length ≤ maxAttachedFdEntries) : Preserves AllSent (sendMessage ch.logged r body fds) := by
  refine .bind preserves_checkState fun _ => .check fun hsize => ?_
  rw [← ByteValued.length_asSlice body] at hsize ⊢
  exact .bind (preserves_sendBytes ch _ (wellFramed_gpu r (not_lt.1 hsize) hfds)) fun _ => .pure _

/-- The size that was cast is the one that is checked afterwards. -/
theorem preserves_sendMessageWithPayload {T : Type} [ByteValued T] (r : GpuBackendReq) (body : T) (data : List UInt8)
    {fds : List File} : Preserves AllSent (sendMessageWithPayload ch.logged r body data fds) := by
  refine .bind preserves_checkState fun _ => .check fun hsize => .check fun hdata => .check fun hfds => ?_
  have hmax : (ByteValued.asSlice body ++ data).length ≤ VhostUserGpuMsgHeader.maxMsgSize := by
    have hmax : MsgHeader.maxMsgSize Hdr = VhostUserGpuMsgHeader.maxMsgSize := rfl
    rw [List.length_append, ByteValued.length_asSlice]
    omega
  rw [← ByteValued.length_asSlice body, ← List.length_append]
  exact .bind (preserves_sendBytes ch _ (wellFramed_gpu r hmax (not_lt.1 hfds))) fun _ => .pure _

theorem preserves_recvReply {V : Type} [ByteValued V] [VhostUserMsgValidator V] (hdr : Hdr) :
    Preserves AllSent (recvReply ch.logged V hdr) := by
  have hrecv (n : Nat) : Preserves AllSent (recvBytes ch.logged "recv_body" n) := by
    intro x hx
    rw [recvBytes, bind_of_ok (get_apply x)]
    exact preserves_orThrow _ _ { x with sock := _ } hx
  refine .bind preserves_checkState fun _ => .bind (.bind (hrecv _) fun _ => ?_) fun _ => .check fun _ => .pure _
  exact .check fun _ => .check fun _ => .pure _

/-- The messages the proxy has sent. -/
def record (x : GpuCtx (τ × Log)) : Log := x.sock.2

theorem keeps_orThrow {α : Type} (info : String) (r : Except Error α) :
    Keeps record (orThrow info r : M (τ × Log) α) := by
  cases r with
  | ok a => exact .pure a
  | error e => exact .throw _

theorem keeps_checkState : Keeps record (checkState : M (τ × Log) Unit) :=
  .bind (fun _ => rfl) fun _ => keeps_orThrow _ _

theorem keeps_recvReply {V : Type} [ByteValued V] [VhostUserMsgValidator V] (hdr : Hdr) :
    Keeps record (recvReply ch.logged V hdr) := by
  have hrecv (n : Nat) : Keeps record (recvBytes ch.logged "recv_body" n) := by
    intro x
    rw [recvBytes, bind_of_ok (get_apply x)]
    exact keeps_orThrow _ _ { x with sock := _ }
  refine .bind keeps_checkState fun _ => .bind (.bind (hrecv _) fun _ => ?_) fun _ => .check (.pure _)
  exact .check (.check (.pure _))

theorem grows_sendBytes (info : String) (bytes : List UInt8) (fds : List File) :
    Grows record 1 (sendBytes ch.logged info bytes fds) := by
  intro x a x' h
  have h : (orThrow info (ch.logged.send bytes fds x.sock).1 : M (τ × Log) Unit)
      { x with sock := (ch.logged.send bytes fds x.sock).2 } = .ok a x' := h
  cases hsend : (ch.logged.send bytes fds x.sock).1 with
  | ok u =>
    rw [hsend] at h
    cases h
    exact length_logSend hsend
  | error e =>
    rw [hsend] at h
    cases h

theorem grows_sendHeader (r : GpuBackendReq) (fds : List File) : Grows record 1 (sendHeader ch.logged r fds) :=
  .after keeps_checkState fun _ => .before (grows_sendBytes ch _ _ _) fun _ => .pure _

theorem grows_sendMessage {T : Type} [ByteValued T] (r : GpuBackendReq) (body : T) (fds : List File) :
    Grows record 1 (sendMessage ch.logged r body fds) :=
  .after keeps_checkState fun _ => .check (.before (grows_sendBytes ch _ _ _) fun _ => .pure _)

theorem grows_sendMessageWithPayload {T : Type} [ByteValued T] (r : GpuBackendReq) (body : T) (data : List UInt8)
    (fds : List File) : Grows record 1 (sendMessageWithPayload ch.logged r body data fds) :=
  .after keeps_checkState fun _ => .check (.check (.check (.before (grows_sendBytes ch _ _ _) fun _ => .pure _)))

end GpuBackend

namespace GpuOp
variable {τ : Type} (ch : Channel τ)

/-- An operation that succeeds has sent one message. -/
theorem grows_run (op : GpuOp) : Grows GpuBackend.record 1 (op.run ch.logged) := by
  cases op with
  | getProtocolFeatures | getDisplayInfo =>
    exact .before (.before (GpuBackend.grows_sendHeader ch _ _) fun hdr => GpuBackend.keeps_recvReply ch hdr) fun _ => .pure _
  | getEdid req =>
    exact .before (.before (GpuBackend.grows_sendMessage ch _ req _) fun hdr => GpuBackend.keeps_recvReply ch hdr)
      fun _ => .pure _
  | updateDmabufScanout update =>
    exact .before (GpuBackend.grows_sendMessage ch _ update _) fun hdr =>
      .bind (GpuBackend.keeps_recvReply ch hdr) fun _ => .pure _
  | setProtocolFeatures msg => exact .before (GpuBackend.grows_sendMessage ch _ msg _) fun _ => .pure _
  | setScanout scanout => exact .before (GpuBackend.grows_sendMessage ch _ scanout _) fun _ => .pure _
  | setDmabufScanout scanout fd | setDmabufScanout2 scanout fd =>
    exact .before (GpuBackend.grows_sendMessage ch _ scanout _) fun _ => .pure _
  | cursorPos pos | cursorPosHide pos => exact .before (GpuBackend.grows_sendMessage ch _ pos _) fun _ => .pure _
  | updateScanout update data =>
    exact .before (GpuBackend.grows_sendMessageWithPayload ch _ update data _) fun _ => .pure _
  | cursorUpdate update data =>
    exact .before (GpuBackend.grows_sendMessageWithPayload ch _ update data.toList _) fun _ => .pure _

/-- What one method sends. -/
def sent (op : GpuOp) (x : GpuCtx τ) : Log := (final (op.run ch.logged ⟨x.error, (x.sock, [])⟩)).sock.2

theorem sent_wellFramed (op : GpuOp) (x : GpuCtx τ) : ∀ m ∈ op.sent ch x, GpuFramed m := by
  have hnone : ([] : List File).length ≤ maxAttachedFdEntries := by decide
  have hopt (fd : Option File) : fd.toList.length ≤ maxAttachedFdEntries := by
    cases fd with
    | none => exact Nat.zero_le _
    | some fd => exact Nat.le_add_left 1 31
  have hrun : Preserves GpuBackend.AllSent (op.run ch.logged) := by
    cases op with
    | getProtocolFeatures | getDisplayInfo =>
      exact .bind (.bind (GpuBackend.preserves_sendHeader ch _ hnone) fun hdr => GpuBackend.preserves_recvReply ch hdr) fun _ => .pure _
    | getEdid req =>
      exact .bind (.bind (GpuBackend.preserves_sendMessage ch _ req hnone) fun hdr => GpuBackend.preserves_recvReply ch hdr) fun _ => .pure _
    | updateDmabufScanout update =>
      exact .bind (GpuBackend.preserves_sendMessage ch _ update hnone) fun hdr =>
        .bind (GpuBackend.preserves_recvReply ch hdr) fun _ => .pure _
    | setProtocolFeatures msg => exact .bind (GpuBackend.preserves_sendMessage ch _ msg hnone) fun _ => .pure _
    | setScanout scanout => exact .bind (GpuBackend.preserves_sendMessage ch _ scanout hnone) fun _ => .pure _
    | setDmabufScanout scanout fd | setDmabufScanout2 scanout fd =>
      exact .bind (GpuBackend.preserves_sendMessage ch _ scanout (hopt fd)) fun _ => .pure _
    | cursorPos pos | cursorPosHide pos => exact .bind (GpuBackend.preserves_sendMessage ch _ pos hnone) fun _ => .pure _
    | updateScanout update data => exact .bind (GpuBackend.preserves_sendMessageWithPayload ch _ update data) fun _ => .pure _
    | cursorUpdate update data =>
      exact .bind (GpuBackend.preserves_sendMessageWithPayload ch _ update data.toList) fun _ => .pure _
  exact hrun ⟨x.error, (x.sock, [])⟩ nofun

end GpuOp

/-! ## On the wire -/

section Endpoint
variable {H : Type} [MsgHeader H] {T : Type} [ByteValued T] {hdr : H} {fds : List File} {tx : List Io}
  {ws : List Write}

theorem sendHeader_bytes (h : sendHeader hdr fds tx = .ret (.ok (), ws)) :
    ws.flatMap Write.bytes = ByteValued.asSlice hdr := by
  have hbytes := @checkSent_bytes [ByteValued.asSlice hdr] fds tx ws (by simpa [sendHeader] using h)
  simpa using hbytes

theorem sendMessage_bytes {body : T} (h : sendMessage hdr body fds tx = .ret (.ok (), ws)) :
    ws.flatMap Write.bytes = ByteValued.asSlice hdr ++ ByteValued.asSlice body := by
  unfold sendMessage at h
  split at h
  · cases h
  · have hbytes := @checkSent_bytes [ByteValued.asSlice hdr, ByteValued.asSlice body] fds tx ws (by simpa using h)
    simpa using hbytes

theorem sendMessageWithPayload_bytes {body : T} {payload : List UInt8}
    (h : sendMessageWithPayload hdr body payload fds tx = .ret (.ok (), ws)) :
    ws.flatMap Write.bytes = ByteValued.asSlice hdr ++ (ByteValued.asSlice body ++ payload) := by
  unfold sendMessageWithPayload at h
  split at h
  · cases h
  · split at h
    · cases h
    · split at h
      · cases h
      · have hbytes := @checkSent_bytes [ByteValued.asSlice hdr, ByteValued.asSlice body, payload] fds tx ws
          (by simpa [Nat.add_assoc] using h)
        simpa using hbytes

end Endpoint

/-- **Every message sent is well framed**: what the five endpoints hand to their sockets, for every
operation, argument, state and socket, and on the way out of `Endpoint` for every schedule of the
kernel. An operation, a reply or an acknowledgement that succeeds is one message. -/
theorem messages_wellFramed :
    (∀ {τ : Type} (ch : Channel τ) (op : FrontendOp) (x : FrontendCtx τ),
      ∀ m ∈ op.sent ch x, Framed FrontendReq m) ∧
    (∀ {β τ : Type} (svc : BackendReqHandler.Svc β τ) (p : Platform) (x : Ctx BackendReqHandler β Call τ) (s : RxSock),
      ∀ m ∈ BackendReqHandler.sent svc p x s, Framed FrontendReq m) ∧
    (∀ {τ : Type} (ch : Channel τ) (c : FrontendCall) (x : BackendCtx τ),
      ∀ m ∈ Backend.sent ch c x, Framed BackendReq m) ∧
    (∀ {β τ : Type} (svc : FrontendReqHandler.Svc β τ) (x : Ctx FrontendReqHandler β FrontendCall τ) (s : RxSock),
      ∀ m ∈ FrontendReqHandler.sent svc x s, Framed BackendReq m) ∧
    (∀ {τ : Type} (ch : Channel τ) (op : GpuOp) (x : GpuCtx τ), ∀ m ∈ op.sent ch x, GpuFramed m) ∧
    (∀ {H T : Type} [MsgHeader H] [ByteValued T] (hdr : H) (body : T) (payload : List UInt8) (fds : List File)
      (tx : List Io) (ws : List Write),
      (sendHeader hdr fds tx = .ret (.ok (), ws) → ws.flatMap Write.bytes = ByteValued.asSlice hdr) ∧
      (sendMessage hdr body fds tx = .ret (.ok (), ws) →
        ws.flatMap Write.bytes = ByteValued.asSlice hdr ++ ByteValued.asSlice body) ∧
      (sendMessageWithPayload hdr body payload fds tx = .ret (.ok (), ws) →
        ws.flatMap Write.bytes = ByteValued.asSlice hdr ++ (ByteValued.asSlice body ++ payload))) ∧
    (∀ {τ : Type} (ch : Channel τ) (op : FrontendOp), Grows FrontendOp.record 1 (op.run ch.logged)) ∧
    (∀ {τ : Type} (ch : Channel τ) (c : FrontendCall), Grows Backend.record 1 (Backend.forward ch.logged c)) ∧
    (∀ {τ : Type} (ch : Channel τ) (op : GpuOp), Grows GpuBackend.record 1 (op.run ch.logged)) ∧
    (∀ {β τ T : Type} [ByteValued T] (svc : BackendReqHandler.Svc β τ) (req : VhostUserMsgHeader FrontendReq) (msg : T)
      (payload : List UInt8), Grows Ctx.record 1 (BackendReqHandler.sendReplyMessage svc.logged req msg) ∧
        Grows Ctx.record 1 (BackendReqHandler.sendReplyWithPayload svc.logged req msg payload)) ∧
    (∀ {β τ : Type} (svc : BackendReqHandler.Svc β τ) (req : VhostUserMsgHeader FrontendReq) (res : Except Error Unit)
      (x x' : Ctx BackendReqHandler β Call (τ × Log)), (x.handler.replyAckEnabled && req.isNeedReply) = true →
        BackendReqHandler.sendAckMessage svc.logged req res x = .ok () x' → x'.record.length = x.record.length + 1) ∧
    ∀ {β τ : Type} (svc : FrontendReqHandler.Svc β τ) (req : VhostUserMsgHeader BackendReq) (res : Except Error UInt64)
      (x x' : Ctx FrontendReqHandler β FrontendCall (τ × Log)), (x.handler.replyAckNegotiated && req.isNeedReply) = true →
        FrontendReqHandler.sendAckMessage svc.logged req res x = .ok () x' → x'.record.length = x.record.length + 1 := by
  refine ⟨FrontendOp.sent_wellFramed, BackendReqHandler.sent_wellFramed, Backend.sent_wellFramed,
    FrontendReqHandler.sent_wellFramed, GpuOp.sent_wellFramed, fun hdr body payload fds tx ws => ?_,
    FrontendOp.grows_run, Backend.grows_forward, GpuOp.grows_run, fun svc req msg payload => ?_,
    fun svc _ _ _ _ => BackendReqHandler.grows_sendAckMessage svc,
    fun svc _ _ _ _ => FrontendReqHandler.grows_sendAckMessage svc⟩
  · exact ⟨sendHeader_bytes, sendMessage_bytes, sendMessageWithPayload_bytes⟩
  · exact ⟨BackendReqHandler.grows_sendReplyMessage svc req msg, BackendReqHandler.grows_sendReplyWithPayload svc req msg payload⟩

/-- Three bytes of an image, and a queue's size. -/
theorem messages_wellFramed_update :
    (∃ m ∈ (GpuOp.updateScanout ⟨1, 0, 0, 1, 1⟩ [7, 8, 9]).sent Channel.mute ⟨none, ()⟩, GpuFramed m) ∧
      ∃ m ∈ (FrontendOp.setVringNum 3 256).sent Channel.mute ⟨Frontend.new 4, ()⟩, Framed FrontendReq m := by
  have hgpu : (ByteValued.asSlice (VhostUserGpuMsgHeader.new GpuBackendReq.update 0 23) ++
      (ByteValued.asSlice (⟨1, 0, 0, 1, 1⟩ : VhostUserGpuUpdate) ++ [7, 8, 9]), ([] : List File)) ∈
        (GpuOp.updateScanout ⟨1, 0, 0, 1, 1⟩ [7, 8, 9]).sent Channel.mute ⟨none, ()⟩ := by decide
  have hnum : (ByteValued.asSlice (VhostUserMsgHeader.new FrontendReq.setVringNum 0x1 8) ++
      ByteValued.asSlice (⟨3, 256⟩ : VhostUserVringState), ([] : List File)) ∈
        (FrontendOp.setVringNum 3 256).sent Channel.mute ⟨Frontend.new 4, ()⟩ := by decide
  exact ⟨⟨_, hgpu, messages_wellFramed.2.2.2.2.1 _ _ _ _ hgpu⟩, ⟨_, hnum, messages_wellFramed.1 _ _ _ _ hnum⟩⟩

end VhostUser
