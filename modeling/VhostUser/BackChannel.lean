import VhostUser.BackendReq
import VhostUser.Results
import VhostUser.Session
/-!
# The backend communication channel

A device asks its frontend for something through a `Backend`, which is one socket behind a mutex, and a
`FrontendReqHandler` serves it. `answered_iff` follows one request on a quiet channel. Here the two parties move in any
order, the flags of both change between the moves, the receives are cut in any way, and the VMM that calls
`handle_request` stops or goes on after an error as it likes, so long as it does not go on in the middle of a message
(`frontend_req_handler.rs:211-216`). It is not asked that both sides agree on `REPLY_ACK`.

| here | there |
| --- | --- |
| `Backend.start` `Backend.finish` | `send_message` before and after `sock.send_message` (`backend_req.rs:46-62`) |
| `Duplex`      | the socket as the proxy has it; its `toBackend` is what the proxy sends |
| `BackChannel` | the proxy, the handler and what is between them, and **ghost**: the requests that were sent |
| `Step`        | the setters, a method up to its send, `handle_request`, the drop of the handler, the rest of the method |
-/
namespace VhostUser
open Bytes EState

/-! ## The methods of the proxy in two parts -/

namespace Backend

def setReplyAckFlag (node : BackendInternal) (enable : Bool) : BackendInternal :=
  { node with replyAckNegotiated := enable }

def setSharedObjectFlag (node : BackendInternal) (enable : Bool) : BackendInternal :=
  { node with sharedObjectNegotiated := enable }

def setShmemFlag (node : BackendInternal) (enable : Bool) : BackendInternal := { node with shmemNegotiated := enable }

def setFailed (node : BackendInternal) (error : Int32) : BackendInternal := { node with error := some error }

/-- The feature a method needs. -/
def negotiated : FrontendCall → BackendInternal → Bool
  | .handleConfigChange, _ => false
  | .sharedObjectAdd _, node | .sharedObjectRemove _, node | .sharedObjectLookup _ _, node => node.sharedObjectNegotiated
  | .shmemMap _ _, node | .shmemUnmap _, node => node.shmemNegotiated

section
variable {τ : Type} (ch : Channel τ)

/-- `send_message` up to its send. -/
def issue (request : BackendReq) (body : List UInt8) (fds : List File) : M τ (VhostUserMsgHeader BackendReq) := do
  let node ← getNode
  orThrow (checkState node)
  let hdr := requestHeader node request body.length
  sendBytes ch (ByteValued.asSlice hdr ++ body) fds
  pure hdr

/-- A method up to its send. -/
def start : FrontendCall → IoM τ (VhostUserMsgHeader BackendReq)
  | .handleConfigChange => throw ⟨.unsupported, some ENOSYS⟩
  | c => gated (negotiated c) (issue ch c.code c.body c.fds)

theorem start_eq {c : FrontendCall} (hc : c ≠ .handleConfigChange) :
    start ch c = gated (negotiated c) (issue ch c.code c.body c.fds) := by
  cases c with
  | handleConfigChange => exact absurd rfl hc
  | _ => rfl

/-- The rest of it. -/
def finish (hdr : VhostUserMsgHeader BackendReq) : IoM τ UInt64 := intoIo (waitForAck ch hdr)

theorem intoIo_bind {α γ : Type} (y : M τ α) (f : α → M τ γ) : intoIo (y >>= f) = intoIo y >>= fun a => intoIo (f a) := by
  funext x
  simp only [intoIo, bind_apply]
  cases y x with
  | ok a x' => rfl
  | error e x' => rfl

theorem gated_bind {α γ : Type} (p : BackendInternal → Bool) (y : M τ α) (f : α → M τ γ) :
    gated p (y >>= f) = gated p y >>= fun a => intoIo (f a) := by
  funext x
  cases hp : p x.node with
  | true => simp [gated, bind_apply, get_apply, hp, intoIo_bind]
  | false => simp [gated, bind_apply, get_apply, hp, throw_apply]

theorem sendMessage_issue {T : Type} [ByteValued T] (hT : ByteValued.size T ≤ maxMsgSize) (request : BackendReq) (body : T)
    (fds : List File) :
    sendMessage ch request body fds = issue ch request (ByteValued.asSlice body) fds >>= waitForAck ch := by
  have hbig : ¬ByteValued.size T > maxMsgSize := by omega
  simp only [sendMessage, issue, bind_assoc, hbig, if_false, ByteValued.length_asSlice, pure_bind]

/-- **A method is its two parts.** -/
theorem forward_start (c : FrontendCall) : forward ch c = start ch c >>= finish ch := by
  cases c with
  | handleConfigChange => rfl
  | sharedObjectAdd uuid | sharedObjectRemove uuid | sharedObjectLookup uuid _ | shmemMap req _ | shmemUnmap req =>
    exact (congrArg (gated _) (sendMessage_issue ch (by decide) _ _ _)).trans (gated_bind _ _ _)

end

end Backend

/-! ## A request -/

/-- A request as it was sent, with or without the flag that asks for an acknowledgement. -/
structure Asked where
  call : FrontendCall
  needReply : Bool
deriving DecidableEq

namespace Asked
variable (q : Asked)

def hdr : VhostUserMsgHeader BackendReq :=
  .new q.call.code (if q.needReply then VhostUserHeaderFlag.NEED_REPLY else 0) (UInt32.ofNat q.call.body.length)

def cells : List Cell := VhostUser.cells (ByteValued.asSlice q.hdr ++ q.call.body) q.call.fds

/-- The request as the dispatch sees it. -/
def request : Request BackendReq := ⟨q.hdr, q.call.body.length, q.call.body, toFiles q.call.fds⟩

theorem hdr_requestHeader (node : BackendInternal) (c : FrontendCall) :
    Backend.requestHeader node c.code c.body.length = (⟨c, node.replyAckNegotiated⟩ : Asked).hdr := by
  cases hack : node.replyAckNegotiated with
  | true => exact Backend.requestHeader_eq hack _ _
  | false =>
    rw [Backend.requestHeader, hack]
    rfl

theorem getSize_hdr : q.hdr.getSize.toNat = q.call.body.length := q.call.getSize_hdr

theorem isValid_hdr : q.hdr.isValid = true := by
  have hsize := q.call.getSize_hdr
  have hle := q.call.body_length_le
  refine VhostUserMsgHeader.isValid_new _ _ ?_
  rw [FrontendCall.hdr, VhostUserMsgHeader.getSize_new] at hsize
  rw [hsize, maxMsgSize]
  omega

theorem isNeedReply_hdr : q.hdr.isNeedReply = q.needReply := by
  rw [hdr, VhostUserMsgHeader.isNeedReply_new]
  cases q.needReply with
  | true => rfl
  | false => rfl

theorem isReply_hdr : q.hdr.isReply = false := by
  rw [hdr, VhostUserMsgHeader.isReply_new]
  cases q.needReply with
  | true => rfl
  | false => rfl

theorem fds_le : q.call.fds.length ≤ maxAttachedFdEntries := by
  cases q.call with
  | sharedObjectLookup _ _ | shmemMap _ _ => exact Nat.le_add_left 1 31
  | _ => exact Nat.zero_le _

end Asked

namespace FrontendReqHandler

/-- The flags that the checks look at do not tell the two kinds of request apart. -/
theorem checkMsgSize_asked (q : Asked) (size expected : Nat) :
    checkMsgSize q.hdr size expected = checkMsgSize q.call.hdr size expected := by
  have hreply : q.call.hdr.isReply = false := by
    rw [FrontendCall.hdr, VhostUserMsgHeader.isReply_new]
    rfl
  have hversion : q.call.hdr.getVersion = 0x1 := VhostUserMsgHeader.getVersion_new _ _ _
  have hversion' : q.hdr.getVersion = 0x1 := VhostUserMsgHeader.getVersion_new _ _ _
  rw [checkMsgSize, checkMsgSize, q.isReply_hdr, hreply, hversion, hversion', q.getSize_hdr, q.call.getSize_hdr]

theorem parse_asked {q : Asked} (hq : q.call ≠ .handleConfigChange) :
    parse q.request = if q.call.bodyIsValid then .ok (.ok q.call) else .error (.err .invalidMessage) := by
  have hcode : q.hdr.getCode = q.call.hdr.getCode :=
    (VhostUserMsgHeader.getCode_new _ _ _).trans (VhostUserMsgHeader.getCode_new _ _ _).symm
  rw [← parse_requestOf hq]
  simp only [Asked.request, requestOf, parse, hcode, extractBody, checkMsgSize_asked]

theorem checkAttachedFiles_asked (q : Asked) : checkAttachedFiles q.hdr (toFiles q.call.fds) = .ok () := by
  have hcode : q.hdr.getCode = q.call.hdr.getCode :=
    (VhostUserMsgHeader.getCode_new _ _ _).trans (VhostUserMsgHeader.getCode_new _ _ _).symm
  rw [← checkAttachedFiles_hdr q.call]
  simp only [checkAttachedFiles, hcode]

section Serve
variable {β : Type} (invoke : FrontendCall → β → Except IoError UInt64 × β) {x : Served β}

/-- The handler acknowledges the request. -/
def Acks (x : Served β) (q : Asked) : Prop := (x.handler.replyAckNegotiated && q.needReply) = true

instance (x : Served β) (q : Asked) : Decidable (Acks x q) := inferInstanceAs (Decidable (_ = true))

/-- The handler after a request. -/
def after (q : Asked) (x : Served β) : Served β :=
  if q.call.bodyIsValid then
    if Acks x q then acknowledged invoke q.call x
    else { x with backend := (invoke q.call x.backend).2, calls := x.calls ++ [q.call] }
  else x

theorem finish_asked (herr : x.handler.error = none) (q : Asked) (res : Except Error UInt64) :
    finish (onWire invoke) q.hdr res x = (orFail res : M β Wire UInt64)
      (if Acks x q then { x with sock := (x.sock.post (ackOf q.call (ackValue res)) []).2 } else x) := by
  by_cases hacks : Acks x q
  · have hack : (x.handler.replyAckNegotiated && q.needReply) = true := hacks
    obtain ⟨hflag, hneed⟩ := Bool.and_eq_true_iff.1 hack
    have hhdr : q.hdr = q.call.hdr := by
      rw [Asked.hdr, hneed]
      rfl
    rw [if_pos hacks, hhdr]
    exact finish_acknowledges invoke hflag herr q.call res
  · have hack : (x.handler.replyAckNegotiated && q.hdr.isNeedReply) = false := by
      rw [q.isNeedReply_hdr]
      exact Bool.not_eq_true _ ▸ hacks
    rw [if_neg hacks, finish, sendAckMessage, bind_assoc, bind_of_ok (getHandler_apply x), hack]
    rfl

theorem final_orFail {α : Type} (r : Except Error α) (y : Served β) : final ((orFail r : M β Wire α) y) = y := by
  cases r with
  | ok a => rfl
  | error e => rfl

/-- What `handle_request` does with a request once it has it. -/
theorem dispatch_asked (herr : x.handler.error = none) {q : Asked} (hq : q.call ≠ .handleConfigChange) :
    ∃ r, dispatch (onWire invoke) q.request x = (orFail r : M β Wire UInt64) (after invoke q x) := by
  rw [dispatch_eq, parse_asked hq, after]
  split
  · refine ⟨mapErr (invoke q.call x.backend).1, ?_⟩
    rw [perform, bind_of_ok (call_apply _ _ _)]
    have hfin := @finish_asked _ invoke { x with backend := (invoke q.call x.backend).2, calls := x.calls ++ [q.call] }
      herr q (mapErr (invoke q.call x.backend).1)
    refine hfin.trans ?_
    by_cases hacks : Acks x q
    · rw [if_pos hacks]
      exact congrArg _ (if_pos hacks)
    · rw [if_neg hacks]
      exact congrArg _ (if_neg hacks)
  · exact ⟨.error .invalidMessage, rfl⟩

/-! What the handler has after a request. -/

section After
variable (q : Asked) (x : Served β)

theorem handler_after : (after invoke q x).handler = x.handler := by
  unfold after
  split
  · split
    · rfl
    · rfl
  · rfl

theorem calls_after : (after invoke q x).calls = x.calls ++ [q.call].filter FrontendCall.bodyIsValid := by
  unfold after
  split
  · rename_i hvalid
    rw [List.filter_cons_of_pos hvalid]
    split
    · rfl
    · rfl
  · rename_i hvalid
    rw [List.filter_cons_of_neg hvalid]
    exact (List.append_nil _).symm

theorem backend_after : (after invoke q x).backend =
    ([q.call].filter FrontendCall.bodyIsValid).foldl (fun b c => (invoke c b).2) x.backend := by
  unfold after
  split
  · rename_i hvalid
    rw [List.filter_cons_of_pos hvalid]
    split
    · rfl
    · rfl
  · rename_i hvalid
    rw [List.filter_cons_of_neg hvalid]
    rfl

theorem inFlight_after (h : ¬(q.call.bodyIsValid = true ∧ Acks x q)) :
    (after invoke q x).sock.inFlight = x.sock.inFlight := by
  unfold after
  split
  · rename_i hvalid
    rw [if_neg fun hacks => h ⟨hvalid, hacks⟩]
  · rfl

theorem inFlight_after_silent (hneed : q.needReply = false) :
    (after invoke q x).sock.inFlight = x.sock.inFlight := by
  refine inFlight_after invoke q x fun hacks => ?_
  have hack : (x.handler.replyAckNegotiated && q.needReply) = true := hacks.2
  rw [hneed, Bool.and_false] at hack
  cases hack

theorem inFlight_after_acks (hvalid : q.call.bodyIsValid = true) (hacks : Acks x q) (hquiet : x.sock.inFlight = []) :
    (after invoke q x).sock.inFlight = cells (ackOf q.call (ackValue (mapErr (invoke q.call x.backend).1))) [] := by
  rw [after, if_pos hvalid, if_pos hacks]
  simp only [acknowledged, Wire.post, hquiet, List.nil_append]

end After

end Serve

end FrontendReqHandler

/-! ## The parties -/

structure BackChannel (β : Type) where
  node : BackendInternal
  /-- The method that has sent its request and not returned. It holds the mutex. -/
  calling : Option (FrontendCall × VhostUserMsgHeader BackendReq)
  toFrontend : List Cell
  peer : FrontendReqHandler.Served β
  /-- The VMM calls `handle_request` no more. -/
  gaveUp : Bool
  /-- The handler is dropped and its socket with it. -/
  closed : Bool
  /-- The requests that were sent. -/
  issued : List Asked

namespace BackChannel
open FrontendReqHandler
variable {β : Type}

def new (b : β) : BackChannel β := ⟨Backend.new, none, [], ⟨.new, b, ⟨[], []⟩, []⟩, false, false, []⟩

def proxy (s : BackChannel β) : BackendCtx Duplex := ⟨s.node, ⟨s.toFrontend, s.peer.sock, false⟩⟩

/-- After a move of the proxy. -/
def moved (s : BackChannel β) (y : BackendCtx Duplex) : BackChannel β :=
  { s with node := y.node, toFrontend := y.sock.toBackend, peer := { s.peer with sock := y.sock.toFrontend } }

/-- A setter of the proxy. -/
inductive Sets (node : BackendInternal) : BackendInternal → Prop
  | replyAck (enable : Bool) : Sets node (Backend.setReplyAckFlag node enable)
  | sharedObject (enable : Bool) : Sets node (Backend.setSharedObjectFlag node enable)
  | shmem (enable : Bool) : Sets node (Backend.setShmemFlag node enable)
  | failed (error : Int32) : Sets node (Backend.setFailed node error)

/-- A setter of the handler. -/
inductive PeerSets (h : FrontendReqHandler) : FrontendReqHandler → Prop
  | replyAck (enable : Bool) : PeerSets h (h.setReplyAckFlag enable)
  | failed (error : Int32) : PeerSets h (h.setFailed error)

/-- After this receive the stream is at the beginning of a message, as it was before. -/
def InStep (x : Served β) (rx : RxSock) : Prop :=
  x.handler.error ≠ none ∨
    ∃ req rx', recvRequest checkAttachedFiles (fun len => decide (len ≤ maxMsgSize)) rx = .ret (.ok req, rx')

variable (invoke : FrontendCall → β → Except IoError UInt64 × β)

/-- The VMM calls `handle_request`, which returns, on some schedule of its receives; then it goes on or not. -/
def Serves (s s' : BackChannel β) : Prop :=
  ∃ sched truncErr r x' rx goesOn, s.gaveUp = false ∧
    handleRequest (FrontendReqHandler.onWire invoke) s.peer ⟨s.toFrontend, sched, truncErr⟩ = .ret (r, x', rx) ∧
    (goesOn = true → InStep s.peer ⟨s.toFrontend, sched, truncErr⟩) ∧
    s' = { s with toFrontend := rx.stream, peer := x', gaveUp := !goesOn }

inductive Step (s : BackChannel β) : BackChannel β → Prop where
  | sets (node : BackendInternal) : s.calling = none → Sets s.node node → Step s { s with node := node }
  | peerSets (h : FrontendReqHandler) : PeerSets s.peer.handler h → Step s { s with peer := { s.peer with handler := h } }
  | refused (c : FrontendCall) (e : IoError) (y : BackendCtx Duplex) : s.calling = none →
      Backend.start (Duplex.until s.closed) c s.proxy = .error e y → Step s (s.moved y)
  | sent (c : FrontendCall) (hdr : VhostUserMsgHeader BackendReq) (y : BackendCtx Duplex) : s.calling = none →
      Backend.start (Duplex.until s.closed) c s.proxy = .ok hdr y →
      Step s { s.moved y with calling := some (c, hdr), issued := s.issued ++ [⟨c, s.node.replyAckNegotiated⟩] }
  | served (s' : BackChannel β) : Serves invoke s s' → Step s s'
  | dropped : Step s { s with gaveUp := true, closed := true }
  | returned (c : FrontendCall) (hdr : VhostUserMsgHeader BackendReq) (y : BackendCtx Duplex) :
      s.calling = some (c, hdr) → y = final (Backend.finish (Duplex.until s.closed) hdr s.proxy) →
      y.sock.starved = false ∨ s.closed = true → Step s { s.moved y with calling := none }

def Reachable (b : β) (s : BackChannel β) : Prop := Relation.ReflTransGen (Step invoke) (new b) s

/-! ## The invariant -/

/-- The object after these calls. -/
def object (b : β) (calls : List FrontendCall) : β := calls.foldl (fun b c => (invoke c b).2) b

/-- The calls are those of the requests at the front whose bodies are valid; the rest is on its way, unless the VMM
has given up. -/
structure Ledger (s : BackChannel β) (done rest : List Asked) : Prop where
  issued : s.issued = done ++ rest
  calls : s.peer.calls = (done.map Asked.call).filter FrontendCall.bodyIsValid
  toFrontend : s.gaveUp = false → s.toFrontend = rest.flatMap Asked.cells

/-- The method of this request is under way. -/
structure Underway (s : BackChannel β) (q : Asked) : Prop where
  calling : s.calling = some (q.call, q.hdr)
  needReply : s.node.replyAckNegotiated = q.needReply
  error : s.node.error = none

/-- What the last call returned, as an acknowledgement. -/
def Reported (b : β) (s : BackChannel β) (c : FrontendCall) (v : UInt64) : Prop :=
  ∃ calls, s.peer.calls = calls ++ [c] ∧ v = ackValue (mapErr (invoke c (object invoke b calls)).1)

/-- There is an acknowledgement on its way only to the method that waits for it. -/
inductive Phase (b : β) (s : BackChannel β) (rest : List Asked) : Prop where
  | idle : s.calling = none → s.peer.sock.inFlight = [] → (s.gaveUp = false → ∀ q ∈ rest, q.needReply = false) →
      Phase b s rest
  | waiting (q : Asked) (earlier : List Asked) : s.Underway q → s.peer.sock.inFlight = [] →
      (s.gaveUp = false → rest = earlier ++ [q] ∧ ∀ q' ∈ earlier, q'.needReply = false) → Phase b s rest
  /-- The request was taken and not acknowledged. -/
  | unanswered (q : Asked) : s.Underway q → s.peer.sock.inFlight = [] → rest = [] → Phase b s rest
  | answered (q : Asked) (v : UInt64) : s.Underway q → q.needReply = true → rest = [] → Reported invoke b s q.call v →
      s.peer.sock.inFlight = cells (ackOf q.call v) [] → Phase b s rest

structure Inv (b : β) (s : BackChannel β) : Prop where
  proxied : ∀ q ∈ s.issued, q.call ≠ .handleConfigChange
  closed : s.closed = true → s.gaveUp = true
  backend : s.peer.backend = object invoke b s.peer.calls
  ledger : ∃ done rest, s.Ledger done rest ∧ Phase invoke b s rest

variable {invoke} {b : β} {s s' : BackChannel β} {done rest : List Asked}

theorem inv_new (b : β) : Inv invoke b (new b) where
  proxied _ hq := absurd hq List.not_mem_nil
  closed h := absurd h Bool.false_ne_true
  backend := rfl
  ledger := ⟨[], [], ⟨rfl, rfl, fun _ => rfl⟩, .idle rfl rfl fun _ _ hq => absurd hq List.not_mem_nil⟩

/-! ### The proxy moves -/

/-- `send_message` up to its send: the request is on the channel, or nothing has happened. -/
theorem issue_cases (c : FrontendCall) (closed : Bool) (x : BackendCtx Duplex) :
    (∃ e, Backend.issue (Duplex.until closed) c.code c.body c.fds x = .error e x) ∨
      (closed = false ∧ x.node.error = none ∧ Backend.issue (Duplex.until closed) c.code c.body c.fds x =
        .ok (⟨c, x.node.replyAckNegotiated⟩ : Asked).hdr { x with
          sock := { x.sock with
            toBackend := x.sock.toBackend ++ (⟨c, x.node.replyAckNegotiated⟩ : Asked).cells } }) := by
  rw [Backend.issue, bind_of_ok (Backend.getNode_apply x)]
  cases herr : x.node.error with
  | some e =>
    rw [Backend.checkState, herr]
    exact .inl ⟨_, rfl⟩
  | none =>
    rw [Backend.checkState, herr, bind_of_ok (Backend.orThrow_ok_apply _ x), Asked.hdr_requestHeader]
    cases closed with
    | true => exact .inl ⟨_, rfl⟩
    | false => exact .inr ⟨rfl, rfl, rfl⟩

/-- And so with a method, which may also want a feature. -/
theorem start_cases (c : FrontendCall) (closed : Bool) (x : BackendCtx Duplex) :
    (∃ e, Backend.start (Duplex.until closed) c x = .error e x) ∨
      (closed = false ∧ c ≠ .handleConfigChange ∧ x.node.error = none ∧
        Backend.start (Duplex.until closed) c x = .ok (⟨c, x.node.replyAckNegotiated⟩ : Asked).hdr { x with
          sock := { x.sock with
            toBackend := x.sock.toBackend ++ (⟨c, x.node.replyAckNegotiated⟩ : Asked).cells } }) := by
  by_cases hc : c = .handleConfigChange
  · subst hc
    exact .inl ⟨_, rfl⟩
  · rw [Backend.start_eq _ hc]
    cases hp : Backend.negotiated c x.node with
    | false => exact .inl ⟨.ofKind .other, by simp [Backend.gated, bind_apply, get_apply, hp, throw_apply]⟩
    | true =>
      rw [Backend.gated_apply hp]
      obtain ⟨e, he⟩ | ⟨hopen, herr, hok⟩ := issue_cases c closed x
      · exact .inl ⟨.ofKind .other, by rw [Backend.intoIo, he]⟩
      · exact .inr ⟨hopen, hc, herr, by rw [Backend.intoIo, hok]⟩

theorem Underway.congr {q : Asked} (h : s.Underway q) (hcalling : s'.calling = s.calling) (hnode : s'.node = s.node) :
    s'.Underway q :=
  ⟨hcalling.trans h.calling, hnode ▸ h.needReply, hnode ▸ h.error⟩

/-- There is one method under way. -/
theorem Underway.same {q : Asked} {c : FrontendCall} {hdr : VhostUserMsgHeader BackendReq} (h : s.Underway q)
    (hcalling : s.calling = some (c, hdr)) : q.call = c ∧ q.hdr = hdr := by
  have heq := h.calling
  rw [hcalling] at heq
  cases heq
  exact ⟨rfl, rfl⟩

/-- What a phase depends on. -/
theorem Phase.congr (h : Phase invoke b s rest) (hcalling : s'.calling = s.calling) (hnode : s'.node = s.node)
    (hcalls : s'.peer.calls = s.peer.calls) (hflight : s'.peer.sock.inFlight = s.peer.sock.inFlight)
    (hgave : s'.gaveUp = false → s.gaveUp = false) : Phase invoke b s' rest := by
  cases h with
  | idle hidle hquiet hrest =>
    exact .idle (hcalling.trans hidle) (hflight.trans hquiet) fun hrunning => hrest (hgave hrunning)
  | waiting q earlier hq hquiet hrest =>
    exact .waiting q earlier (hq.congr hcalling hnode) (hflight.trans hquiet) fun hrunning => hrest (hgave hrunning)
  | unanswered q hq hquiet hrest => exact .unanswered q (hq.congr hcalling hnode) (hflight.trans hquiet) hrest
  | answered q v hq hneed hrest hreported hreply =>
    obtain ⟨calls, hlast, hv⟩ := hreported
    exact .answered q v (hq.congr hcalling hnode) hneed hrest ⟨calls, hcalls.trans hlast, hv⟩ (hflight.trans hreply)

theorem Phase.quiet (h : Phase invoke b s rest) (hidle : s.calling = none) :
    s.peer.sock.inFlight = [] ∧ (s.gaveUp = false → ∀ q ∈ rest, q.needReply = false) := by
  cases h with
  | idle _ hquiet hsilent => exact ⟨hquiet, hsilent⟩
  | waiting q _ hq _ _ | unanswered q hq _ _ | answered q _ hq _ _ _ _ =>
    have hcalling := hq.calling
    rw [hidle] at hcalling
    cases hcalling

theorem Inv.sets (h : Inv invoke b s) {node : BackendInternal} (hidle : s.calling = none) :
    Inv invoke b { s with node := node } := by
  obtain ⟨done, rest, hledger, hphase⟩ := h.ledger
  obtain ⟨hquiet, hsilent⟩ := hphase.quiet hidle
  exact ⟨h.proxied, h.closed, h.backend, done, rest, ⟨hledger.issued, hledger.calls, hledger.toFrontend⟩,
    .idle hidle hquiet hsilent⟩

theorem Inv.refused (h : Inv invoke b s) {c : FrontendCall} {e : IoError} {y : BackendCtx Duplex}
    (hstart : Backend.start (Duplex.until s.closed) c s.proxy = .error e y) : Inv invoke b (s.moved y) := by
  obtain ⟨e', he⟩ | ⟨-, -, -, hsent⟩ := start_cases c s.closed s.proxy
  · rw [he] at hstart
    cases hstart
    exact h
  · rw [hsent] at hstart
    cases hstart

theorem Inv.sent (h : Inv invoke b s) {c : FrontendCall} {hdr : VhostUserMsgHeader BackendReq} {y : BackendCtx Duplex}
    (hidle : s.calling = none) (hstart : Backend.start (Duplex.until s.closed) c s.proxy = .ok hdr y) :
    Inv invoke b { s.moved y with
      calling := some (c, hdr), issued := s.issued ++ [⟨c, s.node.replyAckNegotiated⟩] } := by
  obtain ⟨e, he⟩ | ⟨hopen, hc, herr, hsent⟩ := start_cases c s.closed s.proxy
  · rw [he] at hstart
    cases hstart
  · rw [hsent] at hstart
    cases hstart
    obtain ⟨done, rest, hledger, hphase⟩ := h.ledger
    obtain ⟨hquiet, hsilent⟩ := hphase.quiet hidle
    refine ⟨fun q hq => ?_, h.closed, h.backend, done, rest ++ [⟨c, s.node.replyAckNegotiated⟩], ⟨?_, hledger.calls, ?_⟩, ?_⟩
    · obtain hq | hq := List.mem_append.1 hq
      · exact h.proxied q hq
      · cases List.mem_singleton.1 hq
        exact hc
    · rw [hledger.issued, List.append_assoc]
    · intro hrunning
      rw [List.flatMap_append, List.flatMap_singleton, ← hledger.toFrontend hrunning]
      rfl
    · exact .waiting ⟨c, s.node.replyAckNegotiated⟩ rest ⟨rfl, rfl, herr⟩ hquiet fun hrunning => ⟨rfl, hsilent hrunning⟩

/-! ### A method returns -/

section Finish
variable {q : Asked}

theorem checkState_none {node : BackendInternal} (herr : node.error = none) : Backend.checkState node = .ok () := by
  rw [Backend.checkState, herr]

/-- A method that asked for no acknowledgement does not wait. -/
theorem finish_silent (hq : s.Underway q) (hsilent : q.needReply = false) (closed : Bool) :
    Backend.finish (Duplex.until closed) q.hdr s.proxy = .ok 0 s.proxy := by
  have hack : s.proxy.node.replyAckNegotiated = false := hq.needReply.trans hsilent
  have hcs : Backend.checkState s.proxy.node = .ok () := checkState_none hq.error
  have hwait : Backend.waitForAck (Duplex.until closed) q.hdr s.proxy = .ok 0 s.proxy := by
    rw [Backend.waitForAck, bind_of_ok (Backend.getNode_apply _), hcs, bind_of_ok (Backend.orThrow_ok_apply _ _), hack]
    rfl
  rw [Backend.finish, Backend.intoIo, hwait]

/-- Nothing is there to read. -/
theorem finish_starved (hq : s.Underway q) (hneed : q.needReply = true) (closed : Bool)
    (hquiet : s.peer.sock.inFlight = []) : Backend.finish (Duplex.until closed) q.hdr s.proxy =
      .error (.ofKind .other) { s.proxy with sock := { s.proxy.sock with starved := true } } := by
  have hack : s.proxy.node.replyAckNegotiated = true := hq.needReply.trans hneed
  have hcs : Backend.checkState s.proxy.node = .ok () := checkState_none hq.error
  have hread : (Duplex.until closed).recv 20 s.proxy.sock =
      (.error .disconnected, { s.proxy.sock with starved := true }) := by
    simp [Duplex.until, Duplex.channel, proxy, Wire.read_quiet hquiet, hquiet]
  have hbytes : Backend.recvBytes (Duplex.until closed) 20 s.proxy =
      .error .disconnected { s.proxy with sock := { s.proxy.sock with starved := true } } := by
    rw [Backend.recvBytes_apply, hread]
    rfl
  have hbody : Backend.recvBody (Duplex.until closed) VhostUserU64 s.proxy =
      .error .disconnected { s.proxy with sock := { s.proxy.sock with starved := true } } :=
    bind_of_error hbytes
  have hwait : Backend.waitForAck (Duplex.until closed) q.hdr s.proxy =
      .error .disconnected { s.proxy with sock := { s.proxy.sock with starved := true } } := by
    rw [Backend.waitForAck, bind_of_ok (Backend.getNode_apply _), hcs, bind_of_ok (Backend.orThrow_ok_apply _ _), hack]
    exact bind_of_error hbody
  rw [Backend.finish, Backend.intoIo, hwait]

/-- A method that finds nothing to be read has asked for nothing, or the read fails. -/
theorem finish_quiet (hq : s.Underway q) (closed : Bool) (hquiet : s.peer.sock.inFlight = []) :
    (q.needReply = false ∧ Backend.finish (Duplex.until closed) q.hdr s.proxy = .ok 0 s.proxy) ∨
      (q.needReply = true ∧ Backend.finish (Duplex.until closed) q.hdr s.proxy =
        .error (.ofKind .other) { s.proxy with sock := { s.proxy.sock with starved := true } }) := by
  cases hneed : q.needReply with
  | false => exact .inl ⟨rfl, finish_silent hq hneed _⟩
  | true => exact .inr ⟨rfl, finish_starved hq hneed _ hquiet⟩

/-- The acknowledgement is there. -/
theorem finish_answered (hq : s.Underway q) (hneed : q.needReply = true) (closed : Bool) {v : UInt64}
    (hreply : s.peer.sock.inFlight = cells (ackOf q.call v) []) : Backend.finish (Duplex.until closed) q.hdr s.proxy =
      if v = 0 then .ok 0 { s.proxy with sock := s.proxy.sock.drained }
      else .error (.ofKind .other) { s.proxy with sock := s.proxy.sock.drained } := by
  have hlen : (ackOf q.call v).length = 12 + ByteValued.size VhostUserU64 := by simp [ackOf, ByteValued.size]
  have hread := Wire.read_cells hreply (List.ne_nil_of_length_pos (by omega))
  rw [hlen] at hread
  have hfor : (VhostUserMsgHeader.new q.call.code VhostUserHeaderFlag.REPLY 8).isReplyFor q.hdr = true := by
    rw [Asked.hdr, hneed, VhostUserMsgHeader.isReplyFor_new]
    rfl
  have hrecv : (Duplex.until closed).recv (12 + ByteValued.size VhostUserU64) s.proxy.sock =
      (.ok (ackOf q.call v, none), s.proxy.sock.drained) := by
    have hin : ¬s.peer.sock.inFlight.length < 12 + ByteValued.size VhostUserU64 := by
      rw [hreply, length_cells, hlen]
      exact Nat.lt_irrefl _
    simp only [Duplex.until, Duplex.channel, proxy, hread, hin, decide_false, Bool.or_false]
    rfl
  have hvalid : (VhostUserMsgHeader.new q.call.code VhostUserHeaderFlag.REPLY 8).isValid = true :=
    VhostUserMsgHeader.isValid_new _ _ (by decide)
  have hwait : Backend.waitForAck (Duplex.until closed) q.hdr s.proxy =
      if v = 0 then .ok 0 { s.proxy with sock := s.proxy.sock.drained }
      else .error .frontendInternalError { s.proxy with sock := s.proxy.sock.drained } :=
    Backend.waitForAck_reply (hq.needReply.trans hneed) hq.error hfor (Backend.recvBody_message hvalid rfl hrecv)
  rw [Backend.finish, Backend.intoIo, hwait]
  by_cases hv : v = 0
  · rw [if_pos hv, if_pos hv]
  · rw [if_neg hv, if_neg hv]

/-- A method that does not wait, or whose answer is there. -/
theorem finish_unstarved (hq : s.Underway q) (closed : Bool)
    (hreply : q.needReply = true → ∃ v, s.peer.sock.inFlight = cells (ackOf q.call v) []) :
    (final (Backend.finish (Duplex.until closed) q.hdr s.proxy)).sock.starved = false := by
  cases hneed : q.needReply with
  | false =>
    rw [finish_silent hq hneed]
    rfl
  | true =>
    obtain ⟨v, hv⟩ := hreply hneed
    rw [finish_answered hq hneed _ hv]
    split
    · rfl
    · rfl

end Finish

/-- What the rest of a method leaves of the channel: nothing, once it returns. -/
theorem Phase.returned (h : Phase invoke b s rest) {c : FrontendCall} {hdr : VhostUserMsgHeader BackendReq}
    {y : BackendCtx Duplex} (hcalling : s.calling = some (c, hdr))
    (hy : y = final (Backend.finish (Duplex.until s.closed) hdr s.proxy))
    (hread : y.sock.starved = false ∨ s.closed = true) (hclosed : s.closed = true → s.gaveUp = true) :
    y.sock.toBackend = s.toFrontend ∧ Phase invoke b { s.moved y with calling := none } rest := by
  cases h with
  | idle hidle _ _ =>
    rw [hidle] at hcalling
    cases hcalling
  | waiting q earlier hq hquiet hrest =>
    obtain ⟨rfl, rfl⟩ := hq.same hcalling
    obtain ⟨hneed, hfin⟩ | ⟨-, hfin⟩ := finish_quiet hq s.closed hquiet
    · rw [hfin] at hy
      subst hy
      refine ⟨rfl, .idle rfl hquiet fun hrunning q' hq' => ?_⟩
      obtain ⟨rfl, hearlier⟩ := hrest hrunning
      obtain hq' | hq' := List.mem_append.1 hq'
      · exact hearlier q' hq'
      · cases List.mem_singleton.1 hq'
        exact hneed
    · rw [hfin] at hy
      subst hy
      -- only the end of the connection lets it return
      have hgone : s.gaveUp = true := hclosed (hread.resolve_left nofun)
      exact ⟨rfl, .idle rfl hquiet fun hrunning => absurd (hgone.symm.trans hrunning) nofun⟩
  | unanswered q hq hquiet hrest =>
    obtain ⟨rfl, rfl⟩ := hq.same hcalling
    subst hrest
    have hidle {y : BackendCtx Duplex} (hflight : y.sock.toFrontend.inFlight = []) :
        Phase invoke b { s.moved y with calling := none } [] :=
      .idle rfl hflight fun _ _ hq' => absurd hq' List.not_mem_nil
    obtain ⟨-, hfin⟩ | ⟨-, hfin⟩ := finish_quiet hq s.closed hquiet
    · rw [hfin] at hy
      subst hy
      exact ⟨rfl, hidle hquiet⟩
    · rw [hfin] at hy
      subst hy
      exact ⟨rfl, hidle hquiet⟩
  | answered q v hq hneed hrest _ hreply =>
    obtain ⟨rfl, rfl⟩ := hq.same hcalling
    subst hrest
    rw [finish_answered hq hneed _ hreply] at hy
    have hfinal : y = { s.proxy with sock := s.proxy.sock.drained } := by
      rw [hy]
      by_cases hv : v = 0
      · rw [if_pos hv]
        rfl
      · rw [if_neg hv]
        rfl
    subst hfinal
    exact ⟨rfl, .idle rfl rfl fun _ _ hq' => absurd hq' List.not_mem_nil⟩

theorem Inv.returned (h : Inv invoke b s) {c : FrontendCall} {hdr : VhostUserMsgHeader BackendReq}
    {y : BackendCtx Duplex} (hcalling : s.calling = some (c, hdr))
    (hy : y = final (Backend.finish (Duplex.until s.closed) hdr s.proxy))
    (hread : y.sock.starved = false ∨ s.closed = true) : Inv invoke b { s.moved y with calling := none } := by
  obtain ⟨done, rest, hledger, hphase⟩ := h.ledger
  obtain ⟨hsent, hnext⟩ := hphase.returned hcalling hy hread h.closed
  refine ⟨h.proxied, h.closed, h.backend, done, rest, ⟨hledger.issued, hledger.calls, fun hrunning => ?_⟩, hnext⟩
  exact hsent.trans (hledger.toFrontend hrunning)

/-! ### The handler moves -/

/-- What one call of `handle_request` does: nothing, or what it does with the request it has received. -/
theorem serves_cases (h : Serves invoke s s') :
    s.gaveUp = false ∧ s' = { s with toFrontend := s'.toFrontend, peer := s'.peer, gaveUp := s'.gaveUp } ∧
      ((s'.peer = s.peer ∧ (s'.gaveUp = false → s'.toFrontend = s.toFrontend)) ∨
        ∃ sched truncErr req rx, s.peer.handler.error = none ∧
          recvRequest checkAttachedFiles (fun len => decide (len ≤ maxMsgSize)) ⟨s.toFrontend, sched, truncErr⟩ =
            .ret (.ok req, rx) ∧
          s'.peer = final (dispatch (FrontendReqHandler.onWire invoke) req s.peer) ∧ s'.toFrontend = rx.stream) := by
  obtain ⟨sched, truncErr, r, x', rx, goesOn, hrunning, hret, hinStep, rfl⟩ := h
  refine ⟨hrunning, rfl, ?_⟩
  dsimp only
  unfold handleRequest serve at hret
  cases herr : s.peer.handler.error with
  | some e =>
    rw [checkState, herr] at hret
    cases hret
    exact .inl ⟨rfl, fun _ => rfl⟩
  | none =>
    rw [checkState, herr] at hret
    dsimp only at hret
    cases hrecv : recvRequest checkAttachedFiles (fun len => decide (len ≤ maxMsgSize)) ⟨s.toFrontend, sched, truncErr⟩ with
    | blocked | panic =>
      rw [hrecv] at hret
      cases hret
    | ret r₁ =>
      rw [hrecv] at hret
      obtain ⟨e | req, rx₁⟩ := r₁
      · -- the receive failed, so the VMM stops
        cases hret
        refine .inl ⟨rfl, fun hgoes => ?_⟩
        obtain hfailed | ⟨req, rx', hok⟩ := hinStep (by simpa using hgoes)
        · exact absurd herr hfailed
        · rw [hrecv] at hok
          cases hok
      · dsimp only at hret
        refine .inr ⟨sched, truncErr, req, rx₁, rfl, hrecv, ?_⟩
        cases hdisp : dispatch (FrontendReqHandler.onWire invoke) req s.peer with
        | ok n x =>
          rw [hdisp] at hret
          cases hret
          exact ⟨rfl, rfl⟩
        | error e x =>
          rw [hdisp] at hret
          cases e with
          | panic => cases hret
          | err e =>
            cases hret
            exact ⟨rfl, rfl⟩

/-- The request at the front is taken as it was sent. -/
theorem taken {q : Asked} {sched : List Io} {truncErr : Errno} {req : Request BackendReq} {rx : RxSock}
    (hstream : s.toFrontend = (q :: rest).flatMap Asked.cells)
    (hrecv : recvRequest checkAttachedFiles (fun len => decide (len ≤ maxMsgSize)) ⟨s.toFrontend, sched, truncErr⟩ =
      .ret (.ok req, rx)) : req = q.request ∧ rx.stream = rest.flatMap Asked.cells :=
  recvRequest_filled q.getSize_hdr q.fds_le hstream hrecv

/-- After the request at the front. -/
theorem Phase.taken {q : Asked} (h : Phase invoke b s (q :: rest)) (hrunning : s.gaveUp = false)
    (hobject : s.peer.backend = object invoke b s.peer.calls) {toFrontend : List Cell} {gaveUp : Bool} :
    Phase invoke b { s with toFrontend := toFrontend, peer := after invoke q s.peer, gaveUp := gaveUp } rest := by
  have hsilent (hneed : q.needReply = false) (hquiet : s.peer.sock.inFlight = []) :
      (after invoke q s.peer).sock.inFlight = [] :=
    (inFlight_after_silent invoke q s.peer hneed).trans hquiet
  cases h with
  | idle hidle hquiet hrest =>
    obtain ⟨hneed, hrest⟩ := List.forall_mem_cons.1 (hrest hrunning)
    exact .idle hidle (hsilent hneed hquiet) fun _ => hrest
  | waiting q₀ earlier hq hquiet hrest =>
    obtain ⟨heq, hearlier⟩ := hrest hrunning
    cases earlier with
    | cons q' earlier =>
      obtain ⟨rfl, rfl⟩ := List.cons.inj heq
      obtain ⟨hneed, hearlier⟩ := List.forall_mem_cons.1 hearlier
      exact .waiting q₀ earlier (hq.congr rfl rfl) (hsilent hneed hquiet) fun _ => ⟨rfl, hearlier⟩
    | nil =>
      obtain ⟨rfl, rfl⟩ := List.cons.inj heq
      have hunder : Underway { s with toFrontend := toFrontend, peer := after invoke q s.peer, gaveUp := gaveUp } q :=
        hq.congr rfl rfl
      by_cases hacks : q.call.bodyIsValid = true ∧ Acks s.peer q
      · obtain ⟨hvalid, hack⟩ := hacks
        refine .answered q (ackValue (mapErr (invoke q.call s.peer.backend).1)) hunder ?_ rfl ⟨s.peer.calls, ?_, ?_⟩ ?_
        · exact (Bool.and_eq_true_iff.1 hack).2
        · show (after invoke q s.peer).calls = _
          rw [calls_after, List.filter_cons_of_pos hvalid]
          rfl
        · rw [hobject]
        · exact inFlight_after_acks invoke q s.peer hvalid hack hquiet
      · exact .unanswered q hunder ((inFlight_after invoke q s.peer hacks).trans hquiet) rfl
  | unanswered _ _ _ hrest | answered _ _ _ _ hrest _ _ => cases hrest

theorem Inv.served (h : Inv invoke b s) (hserve : Serves invoke s s') : Inv invoke b s' := by
  obtain ⟨hrunning, hs', hcases⟩ := serves_cases hserve
  obtain ⟨done, rest, hledger, hphase⟩ := h.ledger
  have hopen : s.closed = true → s'.gaveUp = true := fun hclosed =>
    absurd ((h.closed hclosed).symm.trans hrunning) nofun
  obtain ⟨hpeer, hstream⟩ | ⟨sched, truncErr, req, rx, herr, hrecv, hpeer, hstream⟩ := hcases
  · have hstay : s' = { s with toFrontend := s'.toFrontend, gaveUp := s'.gaveUp } := by
      rw [hpeer] at hs'
      exact hs'
    rw [hstay]
    refine ⟨h.proxied, hopen, h.backend, done, rest, ⟨hledger.issued, hledger.calls, fun hgoes => ?_⟩,
      hphase.congr rfl rfl rfl rfl fun _ => hrunning⟩
    exact (hstream hgoes).trans (hledger.toFrontend hrunning)
  · obtain _ | ⟨q, rest⟩ := rest
    · exact absurd hrecv (recvRequest_empty (hledger.toFrontend hrunning))
    · obtain ⟨rfl, hrest⟩ := taken (hledger.toFrontend hrunning) hrecv
      have hmem : q ∈ s.issued := by
        rw [hledger.issued]
        exact List.mem_append_right _ List.mem_cons_self
      obtain ⟨r, hdisp⟩ := dispatch_asked invoke herr (h.proxied q hmem)
      rw [hdisp, final_orFail] at hpeer
      rw [hpeer] at hs'
      rw [hs']
      refine ⟨h.proxied, hopen, ?_, done ++ [q], rest, ⟨?_, ?_, fun _ => hstream.trans hrest⟩,
        hphase.taken hrunning h.backend⟩
      · show (after invoke q s.peer).backend = object invoke b (after invoke q s.peer).calls
        rw [backend_after, calls_after, h.backend, object, object, List.foldl_append]
      · rw [hledger.issued, List.append_assoc]
        rfl
      · show (after invoke q s.peer).calls = _
        rw [calls_after, hledger.calls, List.map_append, List.filter_append]
        rfl

theorem Inv.step (h : Inv invoke b s) (hstep : Step invoke s s') : Inv invoke b s' := by
  cases hstep with
  | sets node hidle _ => exact h.sets hidle
  | peerSets hd _ =>
    obtain ⟨done, rest, hledger, hphase⟩ := h.ledger
    exact ⟨h.proxied, h.closed, h.backend, done, rest, ⟨hledger.issued, hledger.calls, hledger.toFrontend⟩,
      hphase.congr rfl rfl rfl rfl id⟩
  | refused c e y _ hstart => exact h.refused hstart
  | sent c hdr y hidle hstart => exact h.sent hidle hstart
  | served s' hserve => exact h.served hserve
  | dropped =>
    obtain ⟨done, rest, hledger, hphase⟩ := h.ledger
    exact ⟨h.proxied, fun _ => rfl, h.backend, done, rest, ⟨hledger.issued, hledger.calls, nofun⟩,
      hphase.congr rfl rfl rfl rfl nofun⟩
  | returned c hdr y hcalling hy hread => exact h.returned hcalling hy hread

theorem Reachable.inv (h : Reachable invoke b s) : Inv invoke b s := by
  induction h with
  | refl => exact inv_new b
  | tail _ hstep ih => exact ih.step hstep

/-! ## What a method is told -/

/-- A VMM that goes on can take the request at the front. -/
theorem serves_next {q : Asked} (hrunning : s.gaveUp = false) (herr : s.peer.handler.error = none)
    (hq : q.call ≠ .handleConfigChange) (hstream : s.toFrontend = (q :: rest).flatMap Asked.cells) :
    Serves invoke s { s with
      toFrontend := rest.flatMap Asked.cells, peer := after invoke q s.peer, gaveUp := false } := by
  obtain ⟨rx, hrecv, hrest⟩ := recvRequest_whole (s := ⟨s.toFrontend, wholeSched q.call.body.length, .EINTR⟩) q.getSize_hdr
    q.isValid_hdr (fun n hn => decide_eq_true hn) q.fds_le rfl hstream (checkAttachedFiles_asked q)
  obtain ⟨r, hdisp⟩ := dispatch_asked invoke herr hq
  have hcs : checkState s.peer.handler = .ok () := by rw [checkState, herr]
  have hdisp : dispatch (FrontendReqHandler.onWire invoke) ⟨q.hdr, q.call.body.length, q.call.body, toFiles q.call.fds⟩ s.peer =
    (orFail r : M β Wire UInt64) (after invoke q s.peer) := hdisp
  have hret : handleRequest (FrontendReqHandler.onWire invoke) s.peer ⟨s.toFrontend, wholeSched q.call.body.length, .EINTR⟩ =
      .ret (r, after invoke q s.peer, rx) := by
    unfold handleRequest serve
    rw [hcs]
    dsimp only
    rw [hrecv]
    dsimp only
    rw [hdisp]
    cases r with
    | ok n => rfl
    | error e => rfl
  exact ⟨_, _, r, _, rx, true, hrunning, hret, fun _ => .inr ⟨_, rx, hrecv⟩, by rw [hrest]; rfl⟩

/-- A request that waits on the channel can be answered. -/
theorem answers {q : Asked} {earlier : List Asked} (hq : s.Underway q) (hrunning : s.gaveUp = false)
    (herr : s.peer.handler.error = none) (hack : s.peer.handler.replyAckNegotiated = true)
    (hvalid : q.call.bodyIsValid = true) (hquiet : s.peer.sock.inFlight = [])
    (hproxied : ∀ q' ∈ earlier ++ [q], q'.call ≠ .handleConfigChange)
    (hsilent : ∀ q' ∈ earlier, q'.needReply = false)
    (hstream : s.toFrontend = (earlier ++ [q]).flatMap Asked.cells) :
    ∃ s', Relation.ReflTransGen (Serves invoke) s s' ∧ s'.calling = some (q.call, q.hdr) ∧
      (final (Backend.finish (Duplex.until s'.closed) q.hdr s'.proxy)).sock.starved = false := by
  induction earlier generalizing s with
  | nil =>
    have hserve : Serves invoke s _ := serves_next hrunning herr (hproxied q (by simp)) hstream
    have hunder : Underway { s with toFrontend := [], peer := after invoke q s.peer, gaveUp := false } q :=
      hq.congr rfl rfl
    have hreply (hneed : q.needReply = true) : ∃ v, (after invoke q s.peer).sock.inFlight = cells (ackOf q.call v) [] :=
      ⟨_, inFlight_after_acks invoke q s.peer hvalid (Bool.and_eq_true_iff.2 ⟨hack, hneed⟩) hquiet⟩
    exact ⟨_, .single hserve, hq.calling, finish_unstarved hunder _ hreply⟩
  | cons q' earlier ih =>
    obtain ⟨hfirst, hrest⟩ := List.forall_mem_cons.1 hproxied
    obtain ⟨hneed, hsilent⟩ := List.forall_mem_cons.1 hsilent
    have hserve : Serves invoke s _ := serves_next hrunning herr hfirst hstream
    have hhandler := handler_after invoke q' s.peer
    obtain ⟨s', hrun, hend⟩ := ih (s := { s with
      toFrontend := (earlier ++ [q]).flatMap Asked.cells, peer := after invoke q' s.peer, gaveUp := false })
      (hq.congr rfl rfl) rfl (hhandler ▸ herr) (hhandler ▸ hack)
      ((inFlight_after_silent invoke q' s.peer hneed).trans hquiet) hrest hsilent rfl
    exact ⟨s', .head hserve hrun, hend⟩

/-- A method that returns `Ok` has asked for nothing, or its call has returned zero. -/
theorem Phase.finish_ok (h : Phase invoke b s rest) {c : FrontendCall} {hdr : VhostUserMsgHeader BackendReq} {n : UInt64}
    {y : BackendCtx Duplex} (hcalling : s.calling = some (c, hdr))
    (hret : Backend.finish (Duplex.until s.closed) hdr s.proxy = .ok n y) :
    n = 0 ∧ (s.node.replyAckNegotiated = true → Reported invoke b s c 0) := by
  cases h with
  | idle hidle _ _ =>
    rw [hidle] at hcalling
    cases hcalling
  | waiting q _ hq hquiet _ | unanswered q hq hquiet _ =>
    obtain ⟨rfl, rfl⟩ := hq.same hcalling
    obtain ⟨hneed, hfin⟩ | ⟨-, hfin⟩ := finish_quiet hq s.closed hquiet
    · rw [hfin] at hret
      cases hret
      refine ⟨rfl, fun hflag => ?_⟩
      rw [hq.needReply, hneed] at hflag
      cases hflag
    · rw [hfin] at hret
      cases hret
  | answered q v hq hneed _ hreported hreply =>
    obtain ⟨rfl, rfl⟩ := hq.same hcalling
    rw [finish_answered hq hneed _ hreply] at hret
    split at hret
    · rename_i hv
      cases hret
      subst hv
      exact ⟨rfl, fun _ => hreported⟩
    · cases hret

/-- A method that returns an error, and can, has found nothing to be read, or its call has not returned zero. -/
theorem Phase.finish_error (h : Phase invoke b s rest) {c : FrontendCall} {hdr : VhostUserMsgHeader BackendReq}
    {e : IoError} {y : BackendCtx Duplex} (hcalling : s.calling = some (c, hdr))
    (hret : Backend.finish (Duplex.until s.closed) hdr s.proxy = .error e y)
    (hread : y.sock.starved = false ∨ s.closed = true) :
    (s.closed = true ∧ s.peer.sock.inFlight = []) ∨ ∃ v, v ≠ 0 ∧ Reported invoke b s c v := by
  cases h with
  | idle hidle _ _ =>
    rw [hidle] at hcalling
    cases hcalling
  | waiting q _ hq hquiet _ | unanswered q hq hquiet _ =>
    obtain ⟨rfl, rfl⟩ := hq.same hcalling
    obtain ⟨-, hfin⟩ | ⟨-, hfin⟩ := finish_quiet hq s.closed hquiet
    · rw [hfin] at hret
      cases hret
    · rw [hfin] at hret
      cases hret
      exact .inl ⟨hread.resolve_left nofun, hquiet⟩
  | answered q v hq hneed _ hreported hreply =>
    obtain ⟨rfl, rfl⟩ := hq.same hcalling
    rw [finish_answered hq hneed _ hreply] at hret
    split at hret
    · cases hret
    · rename_i hv
      exact .inr ⟨v, hv, hreported⟩

/-- The device is told the truth about its requests. -/
structure Faithful (invoke : FrontendCall → β → Except IoError UInt64 × β) (b : β) (s : BackChannel β) : Prop where
  /-- The calls are those of the requests that were sent first and have valid bodies; the others are on their way,
  complete and in order, unless the VMM has given up. -/
  calls : ∃ done rest, s.issued = done ++ rest ∧
    s.peer.calls = (done.map Asked.call).filter FrontendCall.bodyIsValid ∧
    (s.gaveUp = false → s.toFrontend = rest.flatMap Asked.cells)
  backend : s.peer.backend = object invoke b s.peer.calls
  /-- Success is only reported where nothing was asked, or as the result of the method's own call, the last one. -/
  ok : ∀ c hdr n y, s.calling = some (c, hdr) → Backend.finish (Duplex.until s.closed) hdr s.proxy = .ok n y →
    n = 0 ∧ (s.node.replyAckNegotiated = true → Reported invoke b s c 0)
  /-- A failure is the result of the method's own call too, or the handler is gone without an answer. -/
  error : ∀ c hdr e y, s.calling = some (c, hdr) → Backend.finish (Duplex.until s.closed) hdr s.proxy = .error e y →
    y.sock.starved = false ∨ s.closed = true →
    (s.closed = true ∧ s.peer.sock.inFlight = []) ∨ ∃ v, v ≠ 0 ∧ Reported invoke b s c v
  /-- As long as its request is on the channel, a method can be answered by a handler that acknowledges. -/
  answerable : ∀ c hdr, s.calling = some (c, hdr) → s.gaveUp = false → s.toFrontend ≠ [] → c.bodyIsValid = true →
    s.peer.handler.error = none → s.peer.handler.replyAckNegotiated = true →
    ∃ s', Relation.ReflTransGen (Serves invoke) s s' ∧ s'.calling = some (c, hdr) ∧
      (final (Backend.finish (Duplex.until s'.closed) hdr s'.proxy)).sock.starved = false

/-- **What a method of the proxy returns is what its own call returned**, in every state that the proxy and the
handler come to, whatever they and the VMM do, however the requests are cut, and with or without `REPLY_ACK` on either
side: no acknowledgement is taken for another request's, and no request is lost, made twice or overtaken. -/
theorem backChannel_faithful (invoke : FrontendCall → β → Except IoError UInt64 × β) (b : β) (s : BackChannel β)
    (hs : Reachable invoke b s) : Faithful invoke b s := by
  have h := hs.inv
  obtain ⟨done, rest, hledger, hphase⟩ := h.ledger
  refine ⟨⟨done, rest, hledger.issued, hledger.calls, hledger.toFrontend⟩, h.backend,
    fun _ _ _ _ hcalling hret => hphase.finish_ok hcalling hret,
    fun _ _ _ _ hcalling hret hread => hphase.finish_error hcalling hret hread,
    fun c hdr hcalling hrunning hsome hvalid herr hack => ?_⟩
  have hstream := hledger.toFrontend hrunning
  cases hphase with
  | idle hidle _ _ =>
    rw [hidle] at hcalling
    cases hcalling
  | waiting q earlier hq hquiet hrest =>
    obtain ⟨rfl, rfl⟩ := hq.same hcalling
    obtain ⟨rfl, hsilent⟩ := hrest hrunning
    refine answers hq hrunning herr hack hvalid hquiet (fun q' hq' => h.proxied q' ?_) hsilent hstream
    rw [hledger.issued]
    exact List.mem_append_right _ hq'
  | unanswered _ _ _ hrest | answered _ _ _ _ hrest _ _ =>
    subst hrest
    exact absurd hstream hsome

/-- The device asks for an object to be added. -/
def uuidAsked : Asked := ⟨.sharedObjectAdd ⟨1⟩, true⟩

/-- Both sides acknowledge; the request is sent and served. -/
theorem backChannel_faithful_uuid : ∃ s : BackChannel Unit,
    s.calling ≠ none ∧ s.peer.calls = [uuidAsked.call] ∧ Faithful (Backend.replies (.ok 0)) () s := by
  have hflags : Reachable (Backend.replies (.ok 0)) ()
      ⟨⟨true, true, false, none⟩, none, [], ⟨⟨true, none⟩, (), ⟨[], []⟩, []⟩, false, false, []⟩ :=
    Relation.ReflTransGen.refl.tail (.sets _ rfl (.replyAck true)) |>.tail (.sets _ rfl (.sharedObject true))
      |>.tail (.peerSets _ (.replyAck true))
  have hsent := hflags.tail (.sent uuidAsked.call uuidAsked.hdr
    ⟨⟨true, true, false, none⟩, ⟨uuidAsked.cells, ⟨[], []⟩, false⟩⟩ rfl rfl)
  have hserved := hsent.tail
    (.served _ (serves_next rfl rfl FrontendCall.noConfusion (show uuidAsked.cells = [uuidAsked].flatMap Asked.cells from rfl)))
  exact ⟨_, Option.some_ne_none _, rfl, backChannel_faithful _ () _ hserved⟩

end BackChannel

end VhostUser
