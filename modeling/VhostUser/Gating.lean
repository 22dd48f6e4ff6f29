import VhostUser.Replies
/-!
# The same gate on both sides

A method of the frontend that rests on a protocol feature asks `check_proto_feature` before it sends
(`frontend.rs:386-675`, `:895-902`), and so does the arm of the handler that serves the request
(`backend_req_handler.rs:439-746`, `:370-376`). The checks were written by hand on either side, and two
arms have none: `SET_DEVICE_STATE_FD` and `CHECK_DEVICE_STATE` are served whatever was negotiated.

| here | there |
| --- | --- |
| `FrontendReq.gate`   | the feature a method of `Frontend` asks for |
| `SentOnlyAfter r F`  | no method sends `r` unless `check_proto_feature(F)` let it |
| `Refuses`            | `handle_request` comes back with an error and has not called the backend |

The two sides are compared through the messages: what the handler serves, a frontend with the same
feature word could have sent (`sendable_of_served`), the two arms apart.
-/
namespace VhostUser
open Bytes EState

/-- The protocol feature without which the frontend does not send a request. -/
def FrontendReq.gate : FrontendReq → Option UInt64
  | .getQueueNum => some VhostUserProtocolFeatures.MQ
  | .resetDevice => some VhostUserProtocolFeatures.RESET_DEVICE
  | .getConfig | .setConfig => some VhostUserProtocolFeatures.CONFIG
  | .setBackendReqFd => some VhostUserProtocolFeatures.BACKEND_REQ
  | .getSharedObject => some VhostUserProtocolFeatures.SHARED_OBJECT
  | .getInflightFd | .setInflightFd => some VhostUserProtocolFeatures.INFLIGHT_SHMFD
  | .getMaxMemSlots | .addMemReg | .remMemReg => some VhostUserProtocolFeatures.CONFIGURE_MEM_SLOTS
  | .getShmemConfig => some VhostUserProtocolFeatures.SHMEM
  | .setDeviceStateFd | .checkDeviceState => some VhostUserProtocolFeatures.DEVICE_STATE
  | .postcopyAdvise | .postcopyListen | .postcopyEnd => some VhostUserProtocolFeatures.PAGEFAULT
  | _ => none

/-- Some method sends the request, and none does unless the feature was acknowledged. -/
def SentOnlyAfter (r : FrontendReq) (F : UInt64) : Prop :=
  (∃ (op : FrontendOp) (node : FrontendInternal) (m : Outgoing), op.compose node = .ok m ∧ m.code = r) ∧
    ∀ (op : FrontendOp) (node : FrontendInternal) (m : Outgoing), op.compose node = .ok m → m.code = r →
      Frontend.checkProtoFeature node F = .ok ()

/-! ## The frontend's side -/

namespace FrontendOp
open Frontend

theorem checkProtoFeature_iff {node : FrontendInternal} {F : UInt64} :
    Frontend.checkProtoFeature node F = .ok () ↔ node.ackedProtocolFeatures &&& F ≠ 0 := by
  unfold Frontend.checkProtoFeature
  by_cases h : node.ackedProtocolFeatures &&& F ≠ 0
  · simp [h]
  · simp [h]

/-- A node that has seen and acknowledged everything, with `w` as its protocol features. -/
def knowing (w : UInt64) : FrontendInternal :=
  ⟨VhostUserVirtioFeatures.PROTOCOL_FEATURES, VhostUserVirtioFeatures.PROTOCOL_FEATURES, w, w, true, 1, none, 0⟩

/-- Every request that some method sends is sent with any protocol features that pass its gate. -/
theorem sendable (op : FrontendOp) {w : UInt64} (hw : ∀ F, op.code.gate = some F → w &&& F ≠ 0) :
    ∃ (op' : FrontendOp) (node : FrontendInternal) (m : Outgoing),
      node.ackedProtocolFeatures = w ∧ op'.code = op.code ∧ op'.compose node = .ok m := by
  have hgate (F : UInt64) (hF : op.code.gate = some F) : Frontend.checkProtoFeature (knowing w) F = .ok () :=
    checkProtoFeature_iff.2 (hw F hF)
  have hbit : (knowing w).ackedVirtioFeatures &&& VhostUserVirtioFeatures.PROTOCOL_FEATURES ≠ 0 := by
    show VhostUserVirtioFeatures.PROTOCOL_FEATURES &&& VhostUserVirtioFeatures.PROTOCOL_FEATURES ≠ 0
    decide
  have hfeat : checkFeature (knowing w) VhostUserVirtioFeatures.PROTOCOL_FEATURES = .ok () := if_pos hbit
  have hsends (op' : FrontendOp) {m : Outgoing} (hcode : op'.code = op.code)
      (hm : op'.compose (knowing w) = .ok m) : ∃ (op' : FrontendOp) (node : FrontendInternal) (m : Outgoing),
      node.ackedProtocolFeatures = w ∧ op'.code = op.code ∧ op'.compose node = .ok m :=
    ⟨op', knowing w, m, rfl, hcode, hm⟩
  cases op with
  | getFeatures => exact hsends .getFeatures rfl rfl
  | setFeatures _ => exact hsends (.setFeatures 0) rfl rfl
  | setOwner => exact hsends .setOwner rfl rfl
  | resetOwner => exact hsends .resetOwner rfl rfl
  | setMemTable _ => exact hsends (.setMemTable [⟨0, 1, 0, 0, 0⟩]) rfl rfl
  | setLogBase _ _ => exact hsends (.setLogBase 0 none) rfl rfl
  | setLogFd _ => exact hsends (.setLogFd 0) rfl rfl
  | setVringNum _ _ => exact hsends (.setVringNum 0 0) rfl rfl
  | setVringAddr _ _ => exact hsends (.setVringAddr 0 ⟨0, 0, 0, 0, 0, 0, none⟩) rfl rfl
  | setVringBase _ _ => exact hsends (.setVringBase 0 0) rfl rfl
  | getVringBase _ => exact hsends (.getVringBase 0) rfl rfl
  | setVringCall _ _ => exact hsends (.setVringCall 0 0) rfl rfl
  | setVringKick _ _ => exact hsends (.setVringKick 0 0) rfl rfl
  | setVringErr _ _ => exact hsends (.setVringErr 0 0) rfl rfl
  | getProtocolFeatures =>
    exact hsends .getProtocolFeatures rfl (by rw [compose, hfeat]; rfl)
  | setProtocolFeatures _ =>
    exact hsends (.setProtocolFeatures 0) rfl (by rw [compose, hfeat]; rfl)
  | setVringEnable _ _ =>
    exact hsends (.setVringEnable 0 true) rfl (by rw [compose, if_neg hbit]; rfl)
  | getQueueNum | resetDevice | getMaxMemSlots | getShmemConfig | checkDeviceState | postcopyAdvise
  | postcopyListen | postcopyEnd =>
    exact hsends _ rfl (by rw [compose, hgate _ rfl]; rfl)
  | getConfig _ _ _ _ =>
    exact hsends (.getConfig 0 1 0 []) rfl (by rw [compose, hgate _ rfl]; rfl)
  | setConfig _ _ _ =>
    exact hsends (.setConfig 0 0 [0]) rfl (by rw [compose, hgate _ rfl]; rfl)
  | setBackendRequestFd fd =>
    exact hsends (.setBackendRequestFd fd) rfl (by rw [compose, hgate _ rfl]; rfl)
  | getSharedObject _ =>
    exact hsends (.getSharedObject ⟨1⟩) rfl (by rw [compose, hgate _ rfl]; rfl)
  | getInflightFd inflight =>
    exact hsends (.getInflightFd inflight) rfl (by rw [compose, hgate _ rfl]; rfl)
  | setInflightFd _ _ =>
    exact hsends (.setInflightFd ⟨1, 0, 1, 1⟩ 0) rfl (by rw [compose, hgate _ rfl]; rfl)
  | addMemRegion _ =>
    exact hsends (.addMemRegion ⟨0, 1, 0, 0, 0⟩) rfl (by rw [compose, hgate _ rfl]; rfl)
  | removeMemRegion _ =>
    exact hsends (.removeMemRegion ⟨0, 1, 0, 0, 0⟩) rfl (by rw [compose, hgate _ rfl]; rfl)
  | setDeviceStateFd direction phase fd =>
    exact hsends (.setDeviceStateFd direction phase fd) rfl (by rw [compose, hgate _ rfl]; rfl)

/-- The gates, read off the methods. -/
theorem compose_gated (op : FrontendOp) (node : FrontendInternal) {F : UInt64} (hF : op.code.gate = some F) :
    Ensures (fun _ => Frontend.checkProtoFeature node F = .ok ()) (op.compose node) := by
  intro m hm
  cases op with
  | getConfig offset size flags buf =>
    cases hF
    exact (getConfig_ok hm).2.1
  | setConfig offset flags buf =>
    cases hF
    exact (setConfig_ok hm).1
  | getQueueNum | resetDevice | setBackendRequestFd _ | getSharedObject _ | getInflightFd _ | setInflightFd _ _
  | getMaxMemSlots | addMemRegion _ | removeMemRegion _ | getShmemConfig | setDeviceStateFd _ _ _
  | checkDeviceState | postcopyAdvise | postcopyListen | postcopyEnd =>
    cases hF
    obtain ⟨_, hcheck, -⟩ := except_bind_ok hm
    exact hcheck
  | _ => cases hF

end FrontendOp

/-- What `FrontendReq.gate` lists is what the methods ask for. -/
theorem sentOnlyAfter_gate (op : FrontendOp) {F : UInt64} (hF : op.code.gate = some F) (hne : F ≠ 0) :
    SentOnlyAfter op.code F := by
  constructor
  · obtain ⟨op', node, m, -, hcode, hm⟩ := op.sendable (w := F) fun F' hF' => by
      rw [hF] at hF'
      cases hF'
      simpa using hne
    exact ⟨op', node, m, hm, (op'.compose_code node m hm).trans hcode⟩
  · intro op' node m hm hcode
    have hcode' : op'.code = op.code := (op'.compose_code node m hm).symm.trans hcode
    exact op'.compose_gated node (hcode' ▸ hF) m hm

/-! ## The handler's side -/

namespace BackendReqHandler

/-- An arm that comes to a verdict has passed its check, unless it has none. -/
theorem gate_of_parse {p : Platform} {h : BackendReqHandler} {req : Request FrontendReq} {v : Verdict}
    {r : FrontendReq} {F : UInt64} (hcode : req.hdr.getCode = .ok r) (hv : parse p h req = .ok v)
    (hF : r.gate = some F) (hset : r ≠ .setDeviceStateFd) (hstate : r ≠ .checkDeviceState) :
    h.ackedProtocolFeatures &&& F ≠ 0 := by
  obtain ⟨hdr, size, buf, files⟩ := req
  cases r with
  | getQueueNum | resetDevice | getConfig | setConfig | setBackendReqFd | getSharedObject | getInflightFd
  | setInflightFd | getMaxMemSlots | addMemReg | remMemReg | getShmemConfig =>
    cases hF
    simp only [parse, hcode] at hv
    obtain ⟨_, hcheck, -⟩ := orStop_bind_ok hv
    exact checkProtoFeature_ok.1 hcheck
  | postcopyAdvise | postcopyListen | postcopyEnd =>
    cases hF
    simp only [parse, hcode] at hv
    split at hv
    · cases hv
    · obtain ⟨_, hcheck, -⟩ := orStop_bind_ok hv
      exact checkProtoFeature_ok.1 hcheck
  | setDeviceStateFd => exact absurd rfl hset
  | checkDeviceState => exact absurd rfl hstate
  | _ => cases hF

/-- What the handler serves, a frontend with the same protocol features could have sent. -/
theorem sendable_of_served {p : Platform} {h : BackendReqHandler} {req : Request FrontendReq} {v : Verdict}
    {op : FrontendOp} (hcode : req.hdr.getCode = .ok op.code) (hv : parse p h req = .ok v)
    (hset : op.code ≠ .setDeviceStateFd) (hstate : op.code ≠ .checkDeviceState) :
    ∃ (op' : FrontendOp) (node : FrontendInternal) (m : Outgoing),
      node.ackedProtocolFeatures = h.ackedProtocolFeatures ∧ op'.code = op.code ∧ op'.compose node = .ok m :=
  op.sendable fun _ hF => gate_of_parse hcode hv hF hset hstate

/-- A request that the frontend would not have sent is served in two cases only. -/
theorem unchecked_of_served {p : Platform} {h : BackendReqHandler} {req : Request FrontendReq} {v : Verdict}
    {r : FrontendReq} {F : UInt64} (hsent : SentOnlyAfter r F) (hlacks : h.ackedProtocolFeatures &&& F = 0)
    (hcode : req.hdr.getCode = .ok r) (hv : parse p h req = .ok v) : r = .setDeviceStateFd ∨ r = .checkDeviceState := by
  obtain ⟨⟨op, node, m, hm, rfl⟩, honly⟩ := hsent
  rw [op.compose_code node m hm] at hcode honly ⊢
  by_cases hset : op.code = .setDeviceStateFd
  · exact .inl hset
  by_cases hstate : op.code = .checkDeviceState
  · exact .inr hstate
  obtain ⟨op', node', m', hw, hcode', hm'⟩ := sendable_of_served hcode hv hset hstate
  have hcheck := honly op' node' m' hm' ((op'.compose_code node' m' hm').trans hcode')
  rw [FrontendOp.checkProtoFeature_iff, hw] at hcheck
  exact absurd hlacks hcheck

/-- The two arms have nothing to refuse. -/
theorem call_of_unchecked {p : Platform} {h : BackendReqHandler} {req : Request FrontendReq} {v : Verdict}
    {r : FrontendReq} (hr : r = .setDeviceStateFd ∨ r = .checkDeviceState) (hcode : req.hdr.getCode = .ok r)
    (hv : parse p h req = .ok v) : ∃ c, v = .ok c := by
  obtain ⟨hdr, size, buf, files⟩ := req
  obtain rfl | rfl := hr
  · simp only [parse, hcode] at hv
    split at hv
    · cases hv
    · obtain ⟨msg, -, hv⟩ := except_bind_ok hv
      obtain ⟨_, -, hv⟩ := orStop_bind_ok hv
      split at hv
      · cases hv
        exact ⟨_, rfl⟩
      · cases hv
  · simp only [parse, hcode] at hv
    cases hv
    exact ⟨_, rfl⟩

theorem extractBody_of_fixedBody {T : Type} [ByteValued T] [VhostUserMsgValidator T] {req : Request FrontendReq}
    (hreq : Delivered checkAttachedFiles req) (hreply : req.hdr.isReply = false) (hbody : FixedBody T req.buf) :
    extractBody T req.hdr req.size req.buf = .ok (ByteValued.fromSlice req.buf) := by
  have hsize : req.size = ByteValued.size T := hreq.length_eq.symm.trans hbody.1
  have hcheck : checkRequestSize req.hdr req.size (ByteValued.size T) = .ok () := by
    obtain ⟨-, -, hversion, -⟩ := VhostUserMsgHeader.isValid_iff.1 hreq.valid
    exact checkRequestSize_ok.2 ⟨hreq.size_eq.symm.trans hsize, hreply, hversion, hsize⟩
  unfold extractBody
  rw [hcheck, readAt_ok hbody.1.ge]
  show (if (!VhostUserMsgValidator.isValid (ByteValued.fromSlice req.buf : T)) = true then _ else _) = _
  rw [hbody.2]
  rfl

/-- `SET_DEVICE_STATE_FD` is served when it is well formed, whatever was negotiated. -/
theorem setDeviceStateFd_served_iff {p : Platform} {h : BackendReqHandler} {req : Request FrontendReq}
    (hreq : Delivered checkAttachedFiles req) (herr : h.error = none)
    (hcode : req.hdr.getCode = .ok .setDeviceStateFd) :
    (∃ c, parse p h req = .ok (.ok c)) ↔ WellFormed req := by
  constructor
  · rintro ⟨c, hc⟩
    obtain hwf | ⟨r, hr, hslack⟩ := wellFormed_or_slack hreq hc
    · exact hwf
    · rw [hcode] at hr
      cases hr
      exact hslack.elim
  · rintro ⟨hreply, r, hr, hcarries, hfiles⟩
    rw [hcode] at hr
    cases hr
    have hbody := extractBody_of_fixedBody hreq hreply hcarries
    have hvalid := hcarries.2
    have hheader : newReplyHeader h req.hdr (ByteValued.size VhostUserU64) 0 = _ :=
      newReplyHeader_ok herr hcode (by decide)
    obtain ⟨hdr, size, buf, files⟩ := req
    obtain ⟨file, hfile⟩ : ∃ file, takeSingleFile files = some file := by
      rw [← Option.isSome_iff_exists, Option.isSome_iff_ne_none]
      exact fun hnone => takeSingleFile_none.1 hnone hfiles
    simp only [VhostUserMsgValidator.isValid, Bool.and_eq_true, Option.isSome_iff_exists] at hvalid
    obtain ⟨⟨direction, hdirection⟩, phase, hphase⟩ := hvalid
    refine ⟨.setDeviceStateFd direction phase file, ?_⟩
    dsimp only at hcode hbody hheader
    simp only [parse, hcode, hfile, hbody, hheader, orStop, bind, Except.bind, hdirection, hphase]
    rfl

/-- The requests that are served although their feature was not acknowledged. -/
def Unchecked (r : FrontendReq) (req : Request FrontendReq) : Prop :=
  r = .checkDeviceState ∨ r = .setDeviceStateFd ∧ WellFormed req

/-- Without the feature, exactly the unchecked requests reach the backend. -/
theorem served_iff_unchecked {p : Platform} {h : BackendReqHandler} {req : Request FrontendReq}
    {r : FrontendReq} {F : UInt64} (hreq : Delivered checkAttachedFiles req) (herr : h.error = none)
    (hsent : SentOnlyAfter r F) (hlacks : h.ackedProtocolFeatures &&& F = 0) (hcode : req.hdr.getCode = .ok r) :
    (∃ c, parse p h req = .ok (.ok c)) ↔ Unchecked r req := by
  constructor
  · rintro ⟨c, hc⟩
    obtain rfl | rfl := unchecked_of_served hsent hlacks hcode hc
    · exact .inr ⟨rfl, (setDeviceStateFd_served_iff hreq herr hcode).1 ⟨c, hc⟩⟩
    · exact .inl rfl
  · rintro (rfl | ⟨rfl, hwf⟩)
    · refine ⟨.checkDeviceState, ?_⟩
      obtain ⟨hdr, size, buf, files⟩ := req
      simp only [parse, hcode]
      rfl
    · exact (setDeviceStateFd_served_iff hreq herr hcode).2 hwf

section HandleRequest
variable {β τ : Type} (svc : Svc β τ)

/-- `handle_request` comes back with an error and has not called the backend. -/
def Refuses (p : Platform) (x : Ctx BackendReqHandler β Call τ) (s : RxSock) : Prop :=
  ∃ e x' s', handleRequest svc p x s = .ret (.error e, x', s') ∧ x'.calls = x.calls

theorem refuses_of_stop {p : Platform} {x : Ctx BackendReqHandler β Call τ} {s s' : RxSock}
    {req : Request FrontendReq} {stop : Stop} (herr : x.handler.error = none)
    (hrecv : recvRequest checkAttachedFiles (fun _ => true) s = .ret (.ok req, s'))
    (hparse : parse p x.handler req = .error stop) : Refuses svc p x s := by
  have hcheck : checkState x.handler = .ok () := by rw [checkState, herr]
  have hd : dispatch svc p req x = .error stop x := by
    rw [dispatch_eq, hparse]
    rfl
  cases stop with
  | panic => exact absurd hd (noPanic_dispatch svc p (recvRequest_delivered hrecv).length_eq x x)
  | err e =>
    refine ⟨e, x, s', ?_, rfl⟩
    simp only [handleRequest, serve, hcheck, hrecv, hd]

/-- **A request without its feature is refused, unless its arm does not check**: for every request that
the frontend gates, every message of that code and every state of the handler. -/
theorem refuses_iff_not_unchecked (p : Platform) (x : Ctx BackendReqHandler β Call τ) (s s' : RxSock)
    (res : Except Error (Request FrontendReq)) (r : FrontendReq) (F : UInt64) (hsent : SentOnlyAfter r F)
    (hlacks : x.handler.ackedProtocolFeatures &&& F = 0)
    (hrecv : recvRequest checkAttachedFiles (fun _ => true) s = .ret (res, s'))
    (hcode : ∀ req, res = .ok req → req.hdr.getCode = .ok r) :
    Refuses svc p x s ↔ ¬(x.handler.error = none ∧ ∃ req, res = .ok req ∧ Unchecked r req) := by
  cases herr : x.handler.error with
  | some n =>
    have hcheck : checkState x.handler = .error (.socketBroken (.errno n)) := by rw [checkState, herr]
    have hrefuses : Refuses svc p x s := ⟨.socketBroken (.errno n), x, s, by simp only [handleRequest, serve, hcheck], rfl⟩
    simp [hrefuses]
  | none =>
    have hcheck : checkState x.handler = .ok () := by rw [checkState, herr]
    cases res with
    | error e =>
      have hrefuses : Refuses svc p x s := ⟨e, x, s', by simp only [handleRequest, serve, hcheck, hrecv], rfl⟩
      simp [hrefuses]
    | ok req =>
      have hcode := hcode req rfl
      have hserved : (∃ c, parse p x.handler req = .ok (.ok c)) ↔ Unchecked r req :=
        served_iff_unchecked (recvRequest_delivered hrecv) herr hsent hlacks hcode
      have hinvokes : Invokes svc p x s ↔ Unchecked r req := by
        rw [invokes_iff svc hrecv, herr, hserved]
        simp
      suffices hiff : Refuses svc p x s ↔ ¬Unchecked r req by simpa using hiff
      constructor
      · rintro ⟨e, x', s₁, hret, hcalls⟩ hunchecked
        obtain ⟨r', x'', s₂, hret', hne⟩ := hinvokes.2 hunchecked
        rw [hret] at hret'
        cases hret'
        exact hne hcalls
      · intro hnot
        rcases hv : parse p x.handler req with stop | v
        · exact refuses_of_stop svc herr hrecv hv
        · obtain ⟨c, rfl⟩ := call_of_unchecked (unchecked_of_served hsent hlacks hcode hv) hcode hv
          exact absurd (hserved.1 ⟨c, hv⟩) hnot

end HandleRequest

/-- `CHECK_DEVICE_STATE` on a fresh connection, with nothing negotiated: the backend is called. -/
theorem checkDeviceState_unchecked :
    SentOnlyAfter .checkDeviceState VhostUserProtocolFeatures.DEVICE_STATE ∧
      freshCtx.handler.ackedProtocolFeatures &&& VhostUserProtocolFeatures.DEVICE_STATE = 0 ∧
      recvRequest checkAttachedFiles (fun _ => true) (arrives (.new .checkDeviceState 0 0) [] []) =
        .ret (.ok ⟨.new .checkDeviceState 0 0, 0, [], none⟩, ⟨[], [.bytes 0], .EINTR⟩) ∧
      ¬Refuses refusing ⟨false, fun _ _ => .ok 1⟩ freshCtx (arrives (.new .checkDeviceState 0 0) [] []) := by
  have hrecv : recvRequest checkAttachedFiles (fun _ => true) (arrives (.new .checkDeviceState 0 0) [] []) =
      .ret (.ok ⟨.new .checkDeviceState 0 0, 0, [], none⟩, ⟨[], [.bytes 0], .EINTR⟩) := by decide
  obtain ⟨r, x', s', hret, hne⟩ :=
    (invokes_iff refusing (p := ⟨false, fun _ _ => .ok 1⟩) (x := freshCtx) hrecv).2 ⟨rfl, .checkDeviceState, rfl⟩
  refine ⟨sentOnlyAfter_gate .checkDeviceState rfl (by decide), by decide, hrecv, ?_⟩
  rintro ⟨e, x'', s'', hret', hcalls⟩
  rw [hret] at hret'
  cases hret'
  exact hne hcalls

theorem getQueueNum_refused :
    Refuses refusing ⟨false, fun _ _ => .ok 1⟩ freshCtx (arrives (.new .getQueueNum 0 0) [] []) := by
  refine (refuses_iff_not_unchecked refusing ⟨false, fun _ _ => .ok 1⟩ freshCtx
    (arrives (.new .getQueueNum 0 0) [] []) ⟨[], [.bytes 0], .EINTR⟩ (.ok ⟨.new .getQueueNum 0 0, 0, [], none⟩)
    .getQueueNum VhostUserProtocolFeatures.MQ (sentOnlyAfter_gate .getQueueNum rfl (by decide))
    (by decide) (by decide) ?_).2 ?_
  · rintro req h
    cases h
    decide
  · rintro ⟨-, req, -, h | ⟨h, -⟩⟩
    · cases h
    · cases h

end BackendReqHandler

end VhostUser
