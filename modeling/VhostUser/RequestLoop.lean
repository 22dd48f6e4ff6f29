import VhostUser.Replies
import VhostUser.Stream
import VhostUser.Lib.Consume
/-!
# The request loop of a connection (`vhost-user-backend/src/lib.rs`)

`start_daemon` spawns a thread that calls `handle_request` until it reports an error. What the thread does to
the device is read off the bytes of the connection alone: on any schedule it does the beginning of what it
does with everything at hand (`serveConnection_cut`), so no way of cutting the stream makes the device do
something it was not asked to. Where the peer hangs up decides what `serve` returns (`serve_hangup`).

| here | there |
| --- | --- |
| `Thread`, `requestLoop` | the thread of `start_daemon` (`:179-187`): how it stands, its loop |
| `DaemonError` | the `Error`s of `wait` and `serve` (`:54-69`) |
| `waitResult`  | the outcome of `wait` for a joined thread (`:250-255`) |
| `serveResult` | the end of `serve` (`:302-309`) |
-/
namespace VhostUser
open Bytes EState Consume

/-- The thread of a connection: waiting for the socket, gone in a panic, or out of its loop. -/
inductive Thread where
  | waiting
  | panicked
  | ended (e : Error)
deriving DecidableEq, Repr

inductive DaemonError where
  | waitDaemon
  | handleRequest (e : Error)
deriving DecidableEq, Repr

/-- What `wait` makes of the thread it has joined. -/
def waitResult (thread : Thread) (shutdownRequested : Bool) : Except DaemonError Unit :=
  match thread with
  | .ended (.socketBroken _) => .ok ()
  | .ended e => if shutdownRequested then .ok () else .error (.handleRequest e)
  | .waiting | .panicked => .error .waitDaemon

/-- `serve` does not take a disconnect for an error. -/
def serveResult : Except DaemonError Unit → Except DaemonError Unit
  | .error (.handleRequest .disconnected) | .error (.handleRequest .partialMessage) => .ok ()
  | r => r

namespace BackendReqHandler
variable {β τ : Type} (svc : Svc β τ) (p : Platform)

/-- The `loop` of the thread; `fuel` bounds the number of requests and is never the reason to stop
(`requestLoop_fuel`). A request that is waited for has not changed anything yet. -/
def requestLoop : Nat → Ctx BackendReqHandler β Call τ → RxSock → Thread × Ctx BackendReqHandler β Call τ × RxSock
  | 0, x, s => (.waiting, x, s)
  | fuel + 1, x, s =>
    match handleRequest svc p x s with
    | .blocked => (.waiting, x, s)
    | .panic => (.panicked, x, s)
    | .ret (.error e, x, s) => (.ended e, x, s)
    | .ret (.ok (), x, s) => requestLoop fuel x s

/-- Every request uses an answer of the socket. -/
def serveConnection (x : Ctx BackendReqHandler β Call τ) (s : RxSock) : Thread × Ctx BackendReqHandler β Call τ × RxSock :=
  requestLoop svc p (s.sched.length + 1) x s

/-! ## The connection as a stream -/

/-- What the handler reads next. -/
def nextOf (truncErr : Errno) (x : Ctx BackendReqHandler β Call τ) (st : List Cell) :
    Except Stop (Request FrontendReq × List Cell) := do
  orStop (checkState x.handler)
  orStop (nextRequest checkAttachedFiles (fun _ => true) truncErr st)

/-- What the handler does about it. -/
def actOn (x : Ctx BackendReqHandler β Call τ) (req : Request FrontendReq) : Ctx BackendReqHandler β Call τ × Option Stop :=
  match dispatch svc p req x with
  | .ok _ x' => (x', none)
  | .error s x' => (x', some s)

/-- The device has been called with some requests more. -/
def Made (x y : Ctx BackendReqHandler β Call τ) : Prop :=
  ∃ cs, y.calls = x.calls ++ cs ∧ y.backend = cs.foldl (fun b c => (svc.invoke c b).2) x.backend

variable {svc p} {x x' y : Ctx BackendReqHandler β Call τ} {s s' : RxSock}

theorem Made.refl (x : Ctx BackendReqHandler β Call τ) : Made svc x x := ⟨[], (List.append_nil _).symm, rfl⟩

theorem Made.trans {z : Ctx BackendReqHandler β Call τ} (h : Made svc x y) (k : Made svc y z) : Made svc x z := by
  obtain ⟨cs, hcalls, hback⟩ := h
  obtain ⟨ds, hcalls', hback'⟩ := k
  exact ⟨cs ++ ds, by rw [hcalls', hcalls, List.append_assoc], by rw [hback', hback, List.foldl_append]⟩

theorem nextOf_rest {truncErr : Errno} {st rest : List Cell} {req : Request FrontendReq}
    (h : nextOf truncErr x st = .ok (req, rest)) : rest <:+ st ∧ rest.length < st.length := by
  obtain ⟨-, -, h⟩ := except_bind_ok h
  exact nextRequest_rest (orStop_ok h)

/-- The request `req` was taken off the stream, with what the handler did about it. -/
structure TakesNext (svc : Svc β τ) (p : Platform) (x : Ctx BackendReqHandler β Call τ) (s : RxSock) (req : Request FrontendReq)
    (s' : RxSock) : Prop where
  next : nextOf s.truncErr x s.stream = .ok (req, s'.stream)
  truncErr : s'.truncErr = s.truncErr
  sched : s'.sched.length < s.sched.length
  acted : (∃ x', actOn svc p x req = (x', none) ∧ handleRequest svc p x s = .ret (.ok (), x', s')) ∨
    ∃ e x', actOn svc p x req = (x', some (.err e)) ∧ handleRequest svc p x s = .ret (.error e, x', s')

section Loop
variable (hfds : ∀ c ∈ s.stream, c.fds.length ≤ maxAttachedFdEntries)
include hfds

theorem takesNext_of_recvRequest {req : Request FrontendReq} (hstate : checkState x.handler = .ok ())
    (hr : recvRequest checkAttachedFiles (fun _ => true) s = .ret (.ok req, s')) : TakesNext svc p x s req s' := by
  obtain ⟨hnext, hte, hsched⟩ := recvRequest_next hfds hr
  have hsafe := noPanic_dispatch svc p (recvRequest_delivered hr).length_eq x
  refine ⟨by rw [nextOf, hstate, hnext]; rfl, hte, hsched, ?_⟩
  simp only [handleRequest, serve, hstate, hr, actOn]
  rcases hd : dispatch svc p req x with ⟨a, x'⟩ | ⟨_ | e, x'⟩
  · exact .inl ⟨x', rfl, rfl⟩
  · exact absurd hd (hsafe x')
  · exact .inr ⟨e, x', rfl, rfl⟩

/-- **What one `handle_request` may do**: wait, fail without having read a request, or take the request
that is next on the stream. -/
theorem handleRequest_steps :
    handleRequest svc p x s = .blocked ∨ (∃ e s', handleRequest svc p x s = .ret (.error e, x, s')) ∨
      ∃ req s', TakesNext svc p x s req s' := by
  cases hstate : checkState x.handler with
  | error e => exact .inr (.inl ⟨e, s, by simp only [handleRequest, serve, hstate]⟩)
  | ok u =>
    rcases hr : recvRequest checkAttachedFiles (fun _ => true) s with _ | _ | ⟨e | req, s'⟩
    · exact .inl (by simp only [handleRequest, serve, hstate, hr])
    · exact absurd hr (recvRequest_ne_panic s)
    · exact .inr (.inl ⟨e, s', by simp only [handleRequest, serve, hstate, hr]⟩)
    · exact .inr (.inr ⟨req, s', takesNext_of_recvRequest hfds hstate hr⟩)

/-- With everything at hand it does what the stream says. -/
theorem handleRequest_prompt (hp : Prompt s) :
    (∃ e s', nextOf s.truncErr x s.stream = .error (.err e) ∧ handleRequest svc p x s = .ret (.error e, x, s')) ∨
      ∃ req s', TakesNext svc p x s req s' ∧ Prompt s' := by
  cases hstate : checkState x.handler with
  | error e =>
    exact .inl ⟨e, s, by rw [nextOf, hstate]; rfl, by simp only [handleRequest, serve, hstate]⟩
  | ok u =>
    obtain ⟨e | req, s', hr, hprompt, hread⟩ := @recvRequest_prompt _ _ s hfds checkAttachedFiles (fun _ => true) hp
    · refine .inl ⟨e, s', ?_, by simp only [handleRequest, serve, hstate, hr]⟩
      rw [nextOf, hstate, (hread e).1 rfl]
      rfl
    · exact .inr ⟨req, s', takesNext_of_recvRequest hfds hstate hr, hprompt req rfl⟩

/-- With more fuel than the socket has answers the loop is not cut short. -/
theorem requestLoop_fuel {n m : Nat} (hn : s.sched.length < n) (hm : s.sched.length < m) :
    requestLoop svc p n x s = requestLoop svc p m x s := by
  induction n generalizing m x s with
  | zero => omega
  | succ n ih =>
    obtain ⟨m, rfl⟩ := @Nat.exists_eq_succ_of_ne_zero m (by omega)
    rw [requestLoop, requestLoop]
    obtain hwait | ⟨e, s', hr⟩ | ⟨req, s', htaken⟩ := @handleRequest_steps _ _ svc p x s hfds
    · simp only [hwait]
    · simp only [hr]
    · obtain ⟨x', -, hr⟩ | ⟨e, x', -, hr⟩ := htaken.acted
      · have hsched := htaken.sched
        have hsub := (nextOf_rest htaken.next).1
        simp only [hr]
        exact ih (fun c hc => hfds c (hsub.subset hc)) (by omega) (by omega)
      · simp only [hr]

/-- **The loop with everything at hand** goes through the session of the stream to its end. -/
theorem requestLoop_prompt {n : Nat} (hp : Prompt s) (hn : s.sched.length < n) :
    ∃ e y s' rs, requestLoop svc p n x s = (.ended e, y, s') ∧
      Ends (nextOf s.truncErr) (actOn svc p) x s.stream rs y (.err e) := by
  induction n generalizing x s with
  | zero => omega
  | succ n ih =>
    rw [requestLoop]
    obtain ⟨e, s', hnext, hr⟩ | ⟨req, s', htaken, hp'⟩ := @handleRequest_prompt _ _ svc p x s hfds hp
    · simp only [hr]
      exact ⟨e, x, s', [], rfl, .unread hnext⟩
    · obtain ⟨x', hact, hr⟩ | ⟨e, x', hact, hr⟩ := htaken.acted
      · have hsched := htaken.sched
        have hsub := (nextOf_rest htaken.next).1
        simp only [hr]
        obtain ⟨e, y, s₁, rs, hloop, hends⟩ := ih (fun c hc => hfds c (hsub.subset hc)) (x := x') hp' (by omega)
        rw [htaken.truncErr] at hends
        exact ⟨e, y, s₁, req :: rs, hloop, .cons htaken.next hact hends⟩
      · simp only [hr]
        exact ⟨e, x', s', [req], rfl, .failed htaken.next hact⟩

omit hfds in
/-- Answers for the whole stream at once. -/
theorem prompt_replicate (st : List Cell) (truncErr : Errno) :
    Prompt ⟨st, List.replicate (st.length + 1) (.bytes maxMsgSize), truncErr⟩ where
  full r hr := by
    rw [List.eq_of_mem_replicate hr]
    exact le_rfl
  enough := by
    rw [List.length_replicate]
    exact Nat.lt_succ_self _

end Loop

/-- A backend that only takes queue sizes. -/
def numbering : Svc Unit Unit where
  invoke
    | .setVringNum .., b => (.ok (), b)
    | c, b => (c.refuse .invalidParam, b)
  send _ _ t := (.ok (), t)

/-- A request as its sender framed it. -/
structure Frame where
  hdr : VhostUserMsgHeader FrontendReq
  payload : List UInt8
  fds : List File
  valid : hdr.isValid = true
  framed : hdr.getSize.toNat = payload.length
  fds_le : fds.length ≤ maxAttachedFdEntries
  files_ok : checkAttachedFiles hdr (toFiles fds) = .ok ()

namespace Frame

def cells (f : Frame) : List Cell := VhostUser.cells (ByteValued.asSlice f.hdr ++ f.payload) f.fds

def request (f : Frame) : Request FrontendReq := ⟨f.hdr, f.payload.length, f.payload, toFiles f.fds⟩

theorem length_cells (f : Frame) : f.cells.length = 12 + f.payload.length := by
  rw [cells, VhostUser.length_cells, List.length_append, ByteValued.length_asSlice, VhostUserMsgHeader.size_header]

end Frame

/-- The requests one after the other, up to the first that fails. -/
def handleAll (svc : Svc β τ) (p : Platform) (x : Ctx BackendReqHandler β Call τ) :
    List Frame → Ctx BackendReqHandler β Call τ × Option Stop
  | [] => (x, none)
  | f :: fs =>
    match actOn svc p x f.request with
    | (y, none) => handleAll svc p y fs
    | (y, some e) => (y, some e)

/-- No request puts the handler into the failed state. -/
theorem error_actOn (x : Ctx BackendReqHandler β Call τ) (req : Request FrontendReq) :
    (actOn svc p x req).1.handler.error = x.handler.error := by
  have hfinal : (actOn svc p x req).1 = final (dispatch svc p req x) := by
    unfold actOn
    cases dispatch svc p req x with
    | ok a x' => rfl
    | error s x' => rfl
  have hack (res : Except Error Unit) := @keeps_sendAckMessage _ _ svc _ (fun x => x.handler.error) (fun _ _ => rfl) req.hdr res
  rw [hfinal, dispatch_eq]
  obtain s | e | c := parse p x.handler req
  · rfl
  · exact hack (.error e) x
  · rw [perform, bind_of_ok (call_apply _ _ _)]
    refine @keeps_answer _ _ svc _ (fun x => x.handler.error) (fun _ _ => rfl) req.hdr c _ (fun f hf y => ?_) _
    have hup := error_update c (svc.invoke c x.backend).1 y.handler
    rwa [update, hf] at hup

/-- **The session of a stream that was cut**: the complete requests, then the error of the cut. -/
theorem ends_cut {truncErr : Errno} (done : List Frame) {f : Frame} {left : Nat} (hleft : left < f.cells.length)
    (herr : x.handler.error = none) :
    ∃ rs, Ends (nextOf truncErr) (actOn svc p) x (done.flatMap Frame.cells ++ f.cells.take left) rs
      (handleAll svc p x done).1 ((handleAll svc p x done).2.getD (.err (cutError left))) := by
  have hstate {x : Ctx BackendReqHandler β Call τ} (herr : x.handler.error = none) (st : List Cell) :
      nextOf truncErr x st = orStop (nextRequest checkAttachedFiles (fun _ => true) truncErr st) := by
    rw [nextOf, checkState, herr]
    rfl
  induction done generalizing x with
  | nil =>
    rw [f.length_cells] at hleft
    refine ⟨[], .unread ?_⟩
    rw [hstate herr, List.flatMap_nil, List.nil_append, Frame.cells,
      nextRequest_cut f.valid f.framed (fun _ _ => rfl) (.inl f.files_ok) hleft]
    rfl
  | cons g done ih =>
    have hnext : nextOf truncErr x ((g :: done).flatMap Frame.cells ++ f.cells.take left) =
        .ok (g.request, done.flatMap Frame.cells ++ f.cells.take left) := by
      rw [hstate herr, List.flatMap_cons, List.append_assoc, Frame.cells,
        nextRequest_message g.valid g.framed (fun _ _ => rfl) g.files_ok]
      rfl
    rw [handleAll]
    rcases hact : actOn svc p x g.request with ⟨y, _ | e⟩
    · have hkeep := @error_actOn _ _ svc p x g.request
      rw [hact] at hkeep
      obtain ⟨rs, hends⟩ := ih (hkeep.trans herr)
      exact ⟨g.request :: rs, .cons hnext hact hends⟩
    · exact ⟨[g.request], .failed hnext hact⟩

theorem fds_of_mem_cells {bytes : List UInt8} {fds : List File} (hfds : fds.length ≤ maxAttachedFdEntries) {c : Cell}
    (hc : c ∈ cells bytes fds) : c.fds.length ≤ maxAttachedFdEntries := by
  cases bytes with
  | nil => cases hc
  | cons b bs =>
    rw [cells, List.mem_cons, List.mem_map] at hc
    obtain rfl | ⟨b', -, rfl⟩ := hc
    · exact hfds
    · exact Nat.zero_le _

theorem Frame.fds_cells (f : Frame) : ∀ c ∈ f.cells, c.fds.length ≤ maxAttachedFdEntries :=
  fun _ hc => fds_of_mem_cells f.fds_le hc

/-- **What a hang-up leads to.** The peer has gone `left` bytes into a message. The device has seen the complete
requests and nothing else; unless one of these failed, `serve` reports success exactly if the peer went between
two messages or inside a header. -/
theorem serve_hangup (done : List Frame) (f : Frame) (left : Nat) (hleft : left < f.cells.length)
    (herr : x.handler.error = none) (hs : s.stream = done.flatMap Frame.cells ++ f.cells.take left) (hp : Prompt s) :
    ∃ e s', serveConnection svc p x s = (.ended e, (handleAll svc p x done).1, s') ∧
      (handleAll svc p x done).2.getD (.err (cutError left)) = .err e ∧
      ((handleAll svc p x done).2 = none → (serveResult (waitResult (.ended e) false) = .ok () ↔ left < 12)) := by
  have hfds : ∀ c ∈ s.stream, c.fds.length ≤ maxAttachedFdEntries := by
    intro c hc
    rw [hs, List.mem_append, List.mem_flatMap] at hc
    obtain ⟨g, -, hc⟩ | hc := hc
    · exact g.fds_cells c hc
    · exact f.fds_cells c (List.mem_of_mem_take hc)
  obtain ⟨e, y, s', rs, hloop, hends⟩ := @requestLoop_prompt _ _ svc p x s hfds _ hp (Nat.lt_succ_self _)
  obtain ⟨rs', hends'⟩ := @ends_cut _ _ svc p x s.truncErr done f left hleft herr
  rw [← hs] at hends'
  obtain ⟨-, rfl, he⟩ := hends.unique hends'
  refine ⟨e, s', hloop, he.symm, fun hnone => ?_⟩
  rw [hnone] at he
  cases he
  unfold cutError
  by_cases h0 : left = 0
  · simp [h0, waitResult, serveResult]
  · by_cases h12 : left < 12
    · simp [h0, h12, waitResult, serveResult]
    · simp [h0, h12, waitResult, serveResult]

def vringNumFrame : Frame where
  hdr := vringNumHdr
  payload := ByteValued.asSlice vringNumBody
  fds := []
  valid := by decide
  framed := by decide
  fds_le := by decide
  files_ok := rfl

/-- The peer goes three bytes into the body of its second request. -/
theorem serve_hangup_body :
    ∃ e y s', serveConnection numbering ⟨false, fun _ _ => .ok 1⟩ freshCtx
        ⟨vringNumFrame.cells ++ vringNumFrame.cells.take 15, List.replicate 36 (.bytes 4096), .errno 105⟩ = (.ended e, y, s') ∧
      y.calls = [.setVringNum 1 256] ∧ serveResult (waitResult (.ended e) false) ≠ .ok () := by
  obtain ⟨e, s', hserve, -, hiff⟩ := @serve_hangup _ _ numbering ⟨false, fun _ _ => .ok 1⟩ freshCtx
    ⟨vringNumFrame.cells ++ vringNumFrame.cells.take 15, List.replicate 36 (.bytes 4096), .errno 105⟩
    [vringNumFrame] vringNumFrame 15 (by decide) rfl (by simp) ⟨by decide, by decide⟩
  exact ⟨e, _, s', hserve, rfl, fun hok => absurd ((hiff rfl).1 hok) (by decide)⟩

end BackendReqHandler
end VhostUser
