import Mathlib.Data.Nat.Bitwise
import VhostUser.Frontend
import VhostUser.Segmentation
/-!
# A vring fd request from end to end

Follows `SET_VRING_CALL`, `SET_VRING_KICK` and `SET_VRING_ERR` from the frontend's arguments over
the wire to the method of the backend. The payload is a `u64` of which the receiver keeps the
low 8 bits as the index and takes bit 8 for the invalid fd flag; the sender writes the whole index
and checks it against `max_queue_num` only. So the request reaches its own ring exactly when the
index fits 8 bits (`vringFd_reaches_iff`): 256 to 511 come without the promised descriptor, 512 is
taken for ring 0.
-/
namespace VhostUser
open Bytes EState

/-- The three requests that carry an event fd. -/
inductive VringFd where
  | call | kick | err
deriving DecidableEq, Repr

namespace VringFd

def code : VringFd → FrontendReq
  | call => .setVringCall
  | kick => .setVringKick
  | err => .setVringErr

/-- The backend's method for it. -/
def method : VringFd → UInt8 → Option File → Call
  | call => .setVringCall
  | kick => .setVringKick
  | err => .setVringErr

/-- The frontend's operation. -/
def request {τ : Type} (k : VringFd) (ch : Channel τ) (queueIndex : UInt64) (fd : File) : Frontend.M τ Unit :=
  match k with
  | call => Frontend.setVringCall ch queueIndex fd
  | kick => Frontend.setVringKick ch queueIndex fd
  | err => Frontend.setVringErr ch queueIndex fd

end VringFd

/-- A channel that keeps what is sent, whatever answers come back. -/
def mailbox (recv : Nat → Except Error (List UInt8 × Option (List File))) :
    Channel (List (List UInt8 × List File)) where
  send bytes fds q := (.ok (), q ++ [(bytes, fds)])
  recv n q := (recv n, q)

/-! ## The frontend's side -/

namespace Frontend
variable {recv : Nat → Except Error (List UInt8 × Option (List File))} {code : FrontendReq}
  {queueIndex : UInt64} {fd : File} {node : FrontendInternal} {q : List (List UInt8 × List File)}

/-- Waiting for the acknowledgement sends nothing. -/
theorem keeps_waitForAck_sock (hdr : VhostUserMsgHeader FrontendReq) :
    Keeps FrontendCtx.sock (waitForAck (mailbox recv) hdr) := by
  have hrecv : Keeps FrontendCtx.sock (recvBody (mailbox recv) VhostUserU64) := by
    refine .bind (fun x => keeps_orThrow _ { x with sock := _ }) fun r => ?_
    dsimp only
    split
    · exact .bind (.throw _) fun _ => .ite (.bind (.throw _) fun _ => .pure _) (.pure _)
    · exact .ite (.bind (.throw _) fun _ => .pure _) (.pure _)
  refine .bind (fun _ => rfl) fun n => .ite (.pure _) (.bind (keeps_orThrow _) fun _ => ?_)
  refine .bind hrecv fun r => ?_
  dsimp only
  split
  · exact .bind (.throw _) fun _ => .ite (.throw _) (.pure _)
  · exact .ite (.throw _) (.pure _)

theorem request_eq {τ : Type} (k : VringFd) (ch : Channel τ) (i : UInt64) (fd : File) :
    k.request ch i fd = setVringFd ch k.code i fd := by
  cases k <;> rfl

theorem setVringFd_refused (h : node.maxQueueNum ≤ queueIndex) :
    setVringFd (mailbox recv) code queueIndex fd ⟨node, q⟩ = .error .invalidParam ⟨node, q⟩ := by
  simp [setVringFd, bind_apply, throw_apply, h]

/-- An accepted request puts one message on the wire, with the whole index as its body. -/
theorem setVringFd_sent (h : queueIndex < node.maxQueueNum) (herr : node.error = none) :
    (final (setVringFd (mailbox recv) code queueIndex fd ⟨node, q⟩)).sock =
      q ++ [(ByteValued.asSlice (newRequestHeader node code 8) ++
        ByteValued.asSlice (⟨queueIndex⟩ : VhostUserU64), [fd])] := by
  have hlt : ¬ node.maxQueueNum ≤ queueIndex := by simpa using h
  have hcs : checkState node = .ok () := by simp [checkState, herr]
  simp only [setVringFd, sendFdForVring, bind_apply, getNode_apply, ge_iff_le, hlt, if_false, hcs,
    orThrow_ok_apply, sendBytes_apply, mailbox, pure_apply]
  exact keeps_waitForAck_sock _ _

end Frontend

/-! ## The backend's side -/

namespace BackendReqHandler
variable {β τ : Type} {svc : Svc β τ} {p : Platform} {x : Ctx BackendReqHandler β Call τ}
  {hdr : VhostUserMsgHeader FrontendReq} {fd : File} {v : UInt64}

/-- With bit 8 clear and one descriptor attached, the low 8 bits are the index. -/
theorem handleVringFdRequest_apply (hv : v &&& 0x100 = 0) :
    (handleVringFdRequest (ByteValued.asSlice (⟨v⟩ : VhostUserU64)) (some [fd]) : M β τ _) x =
      .ok (v.toUInt8, some fd) x := by
  have hlen : (ByteValued.asSlice (⟨v⟩ : VhostUserU64)).length = 8 := ByteValued.length_asSlice _
  have hsize : ByteValued.size VhostUserU64 = 8 := rfl
  simp [handleVringFdRequest, hlen, hsize, maxMsgSize, bind_apply, hv, takeSingleFile, pure_apply]

theorem checkRequestSize_new {k : FrontendReq} {f : UInt32} :
    checkRequestSize (VhostUserMsgHeader.new k f 8) 8 8 =
      if (f &&& VhostUserHeaderFlag.REPLY) = 0 then .ok () else .error .invalidMessage := by
  simp [checkRequestSize, VhostUserMsgHeader.isReply_new]

/-- A request of the right size makes its one call, whatever the backend answers. -/
theorem dispatch_vringFd (k : VringFd) (hcode : hdr.getCode = .ok k.code)
    (hsize : checkRequestSize hdr 8 8 = .ok ()) (hv : v &&& 0x100 = 0) :
    (final (dispatch svc p ⟨hdr, 8, ByteValued.asSlice (⟨v⟩ : VhostUserU64), some [fd]⟩ x)).calls =
        x.calls ++ [k.method v.toUInt8 (some fd)] ∧
      ∀ x', dispatch svc p ⟨hdr, 8, ByteValued.asSlice (⟨v⟩ : VhostUserU64), some [fd]⟩ x ≠
        .error .panic x' := by
  have hsize' : checkRequestSize hdr 8 (ByteValued.size VhostUserU64) = .ok () := hsize
  cases k
  all_goals
    simp only [VringFd.code] at hcode
    simp only [dispatch, hcode, hsize', bind_apply, orFail_ok_apply, handleVringFdRequest_apply hv, call_apply]
    exact ⟨keeps_sendAckMessage svc (p := Ctx.calls) (fun _ _ => rfl) hdr _ { x with backend := _, calls := _ },
      noPanic_sendAckMessage svc hdr _ _⟩

theorem dispatch_vringFd_refused (k : VringFd) {e : Error} (hcode : hdr.getCode = .ok k.code)
    (hsize : checkRequestSize hdr 8 8 = .error e) {buf : List UInt8} {files : Option (List File)} :
    dispatch svc p ⟨hdr, 8, buf, files⟩ x = .error (.err e) x := by
  have hsize' : checkRequestSize hdr 8 (ByteValued.size VhostUserU64) = .error e := hsize
  cases k
  all_goals
    simp only [VringFd.code] at hcode
    simp only [dispatch, hcode, hsize', bind_apply, orFail_error_apply]

end BackendReqHandler

/-! ## End to end -/

/-- What the request has to achieve: an index the frontend refuses is not sent; for one it
accepts, the backend is called once, for that ring and with that descriptor. -/
structure ReachesItsRing (k : VringFd) (node : FrontendInternal) (queueIndex : UInt64) (fd : File) : Prop where
  refused : node.maxQueueNum ≤ queueIndex → ∀ recv,
    k.request (mailbox recv) queueIndex fd ⟨node, []⟩ = .error .invalidParam ⟨node, []⟩
  delivered : queueIndex < node.maxQueueNum → node.error = none → ∀ recv, ∃ bytes,
    (final (k.request (mailbox recv) queueIndex fd ⟨node, []⟩)).sock = [(bytes, [fd])] ∧
    ∀ {β τ : Type} (svc : BackendReqHandler.Svc β τ) (p : Platform) (x : Ctx BackendReqHandler β Call τ)
      (truncErr : Errno), x.handler.error = none →
      ∃ index r x' s',
        BackendReqHandler.handleRequest svc p x ⟨cells bytes [fd], wholeSched 8, truncErr⟩ = .ret (r, x', s') ∧
        index.toNat = queueIndex.toNat ∧ x'.calls = x.calls ++ [k.method index (some fd)]

section EndToEnd
variable {k : VringFd} {node : FrontendInternal} {queueIndex : UInt64} {fd : File}

/-- The message on the wire is decoded to the frontend's header, index and descriptor. -/
theorem recv_vringFd (truncErr : Errno) :
    ∃ s', recvRequest BackendReqHandler.checkAttachedFiles (fun _ => true)
        ⟨cells (ByteValued.asSlice (Frontend.newRequestHeader node k.code 8) ++
          ByteValued.asSlice (⟨queueIndex⟩ : VhostUserU64)) [fd], wholeSched 8, truncErr⟩ =
      .ret (.ok ⟨Frontend.newRequestHeader node k.code 8, 8,
        ByteValued.asSlice (⟨queueIndex⟩ : VhostUserU64), some [fd]⟩, s') := by
  have hlen : (ByteValued.asSlice (⟨queueIndex⟩ : VhostUserU64)).length = 8 := ByteValued.length_asSlice _
  have hc : BackendReqHandler.checkAttachedFiles (Frontend.newRequestHeader node k.code 8) (toFiles [fd]) =
      .ok () := by
    cases k <;> simp [BackendReqHandler.checkAttachedFiles, Frontend.newRequestHeader, VringFd.code,
      BackendReqHandler.takesFiles]
  obtain ⟨s', hr, -⟩ := @recvRequest_whole FrontendReq _ BackendReqHandler.checkAttachedFiles (fun _ => true)
    (Frontend.newRequestHeader node k.code 8) (ByteValued.asSlice (⟨queueIndex⟩ : VhostUserU64)) [fd] []
    ⟨cells (ByteValued.asSlice (Frontend.newRequestHeader node k.code 8) ++
      ByteValued.asSlice (⟨queueIndex⟩ : VhostUserU64)) [fd], wholeSched 8, truncErr⟩
    (by rw [hlen]; rfl) (VhostUserMsgHeader.isValid_new _ _ (by decide)) (fun _ _ => rfl)
    (by simp [maxAttachedFdEntries]) (by rw [hlen]) (List.append_nil _).symm hc
  rw [hlen] at hr
  exact ⟨s', hr⟩

/-- The size check of the handler sees the frontend's own header flags. -/
theorem checkRequestSize_request :
    BackendReqHandler.checkRequestSize (Frontend.newRequestHeader node k.code 8) 8 8 =
      if (node.hdrFlags &&& VhostUserHeaderFlag.REPLY) = 0 then .ok () else .error .invalidMessage := by
  have hone : (0x1 : UInt32) &&& VhostUserHeaderFlag.REPLY = 0 := rfl
  rw [Frontend.newRequestHeader, BackendReqHandler.checkRequestSize_new, u32_or_and, hone, UInt32.or_zero]

theorem and_flag_of_lt (h : queueIndex.toNat < 256) : queueIndex &&& 0x100 = 0 := by
  apply UInt64.toNat_inj.1
  have hbit : queueIndex.toNat.testBit 8 = false := Nat.testBit_lt_two_pow h
  have hand : queueIndex.toNat &&& 2 ^ 8 = 0 := by
    rw [Nat.and_two_pow, hbit]; rfl
  simpa using hand

theorem getCode_request : (Frontend.newRequestHeader node k.code 8).getCode = .ok k.code :=
  VhostUserMsgHeader.getCode_new _ _ _

/-- What is sent and reaches its ring has an index of 8 bits and is not flagged as a reply. -/
theorem ReachesItsRing.fits (h : ReachesItsRing k node queueIndex fd) (hlt : queueIndex < node.maxQueueNum)
    (herr : node.error = none) :
    queueIndex.toNat < 256 ∧ node.hdrFlags &&& VhostUserHeaderFlag.REPLY = 0 := by
  obtain ⟨bytes, hsock, hall⟩ := h.delivered hlt herr fun _ => .error .disconnected
  rw [Frontend.request_eq, Frontend.setVringFd_sent hlt herr, List.nil_append] at hsock
  obtain rfl : _ = bytes := by
    injection hsock with hsock _
    injection hsock
  obtain ⟨index, r, x', s', hrun, hidx, hcalls⟩ :=
    hall refusing ⟨false, fun _ _ => .ok 1⟩ freshCtx .EINTR rfl
  refine ⟨hidx ▸ index.toNat_lt, ?_⟩
  -- a request flagged as a reply is turned down before any call
  by_contra hflag
  obtain ⟨s₁, hrecv⟩ := @recv_vringFd k node queueIndex fd .EINTR
  have hsize := @checkRequestSize_request k node
  rw [if_neg hflag] at hsize
  have hcs : BackendReqHandler.checkState freshCtx.handler = .ok () := rfl
  simp only [BackendReqHandler.handleRequest, serve, hcs, hrecv,
    BackendReqHandler.dispatch_vringFd_refused k getCode_request hsize] at hrun
  injection hrun with hrun
  injection hrun with _ hrun
  injection hrun with hx _
  rw [← hx] at hcalls
  simp [freshCtx] at hcalls

/-- A request with an index of 8 bits makes one call of the backend, for its own ring. -/
theorem handleRequest_vringFd {β τ : Type} (svc : BackendReqHandler.Svc β τ) (p : Platform)
    (x : Ctx BackendReqHandler β Call τ) (truncErr : Errno) (hx : x.handler.error = none)
    (hidx : queueIndex.toNat < 256) (hflag : node.hdrFlags &&& VhostUserHeaderFlag.REPLY = 0) :
    ∃ index r x' s',
      BackendReqHandler.handleRequest svc p x
        ⟨cells (ByteValued.asSlice (Frontend.newRequestHeader node k.code 8) ++
          ByteValued.asSlice (⟨queueIndex⟩ : VhostUserU64)) [fd], wholeSched 8, truncErr⟩ = .ret (r, x', s') ∧
      index.toNat = queueIndex.toNat ∧ x'.calls = x.calls ++ [k.method index (some fd)] := by
  obtain ⟨s₁, hrecv⟩ := @recv_vringFd k node queueIndex fd truncErr
  have hsize := @checkRequestSize_request k node
  rw [if_pos hflag] at hsize
  have hcs : BackendReqHandler.checkState x.handler = .ok () := by
    simp [BackendReqHandler.checkState, hx]
  obtain ⟨hcalls, hpanic⟩ := @BackendReqHandler.dispatch_vringFd _ _ svc p x _ fd queueIndex k getCode_request
    hsize (and_flag_of_lt hidx)
  have htoNat : queueIndex.toUInt8.toNat = queueIndex.toNat := by
    rw [UInt64.toNat_toUInt8]; omega
  simp only [BackendReqHandler.handleRequest, serve, hcs, hrecv]
  rcases hd : BackendReqHandler.dispatch svc p _ x with ⟨a, x'⟩ | ⟨_ | e, x'⟩
  · rw [hd] at hcalls
    exact ⟨queueIndex.toUInt8, .ok a, x', s₁, rfl, htoNat, hcalls⟩
  · exact absurd hd (hpanic x')
  · rw [hd] at hcalls
    exact ⟨queueIndex.toUInt8, .error e, x', s₁, rfl, htoNat, hcalls⟩

/-- **A vring fd request reaches its own ring exactly when** it is refused or not sent, or its
index fits 8 bits and it is sent as a request. -/
theorem vringFd_reaches_iff :
    ReachesItsRing k node queueIndex fd ↔
      node.maxQueueNum ≤ queueIndex ∨ node.error ≠ none ∨
        (queueIndex.toNat < 256 ∧ node.hdrFlags &&& VhostUserHeaderFlag.REPLY = 0) := by
  constructor
  · intro h
    by_cases hmax : node.maxQueueNum ≤ queueIndex
    · exact .inl hmax
    by_cases herr : node.error = none
    · exact .inr (.inr (h.fits (by simpa using hmax) herr))
    · exact .inr (.inl herr)
  · intro hcond
    refine ⟨fun hmax recv => ?_, fun hlt herr recv => ?_⟩
    · rw [Frontend.request_eq, Frontend.setVringFd_refused hmax]
    · obtain ⟨hidx, hflag⟩ := (hcond.resolve_left (by simpa using hlt)).resolve_left (by simp [herr])
      refine ⟨_, by rw [Frontend.request_eq, Frontend.setVringFd_sent hlt herr, List.nil_append], ?_⟩
      intro β τ svc p x truncErr hx
      exact handleRequest_vringFd svc p x truncErr hx hidx hflag

end EndToEnd

/-- Ring 512 of a backend with 1024 rings: the kick is delivered for ring 0. -/
theorem vringFd_512_taken_for_0 :
    (¬ ReachesItsRing .kick (Frontend.new 1024) 512 7) ∧
    ∃ x' s', BackendReqHandler.handleRequest refusing ⟨false, fun _ _ => .ok 1⟩ freshCtx
        ⟨cells (ByteValued.asSlice (VhostUserMsgHeader.new FrontendReq.setVringKick 0 8) ++
          ByteValued.asSlice (⟨512⟩ : VhostUserU64)) [7], wholeSched 8, .EINTR⟩ =
        .ret (.error .invalidParam, x', s') ∧ x'.calls = [.setVringKick 0 (some 7)] := by
  refine ⟨fun h => ?_, ⟨_, _, rfl, rfl⟩⟩
  obtain ⟨bytes, -, hall⟩ := h.delivered (by decide) rfl fun _ => .error .disconnected
  obtain ⟨index, _, _, _, _, hidx, _⟩ := hall refusing ⟨false, fun _ _ => .ok 1⟩ freshCtx .EINTR rfl
  have := index.toNat_lt
  have h512 : (512 : UInt64).toNat = 512 := rfl
  omega

end VhostUser
