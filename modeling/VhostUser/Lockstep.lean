import VhostUser.Replies
import VhostUser.Transparency
import Mathlib.Logic.Relation
/-!
# Frontend and backend in lockstep

A `Frontend` and a `BackendReqHandler`, connected by two FIFO byte channels. A method of the frontend
sends its request, then waits for what it expects to come back (`frontend.rs:799-886`); a method that
expects nothing returns at once, so requests may pile up. The handler takes one request after the
other (`backend_req_handler.rs:412-746`) and answers it or not (`:977-1041`).

Whether an acknowledgement is expected is decided on each side from a cached word of its own, and
`SET_PROTOCOL_FEATURES` changes both, at different times. The invariant (`Inv`) follows the words
through the requests under way: every request but the last one was sent by a method that did not
wait, and the handler will not answer it.

| here | there |
| --- | --- |
| `Duplex`   | both directions of the connection; `starved` where the frontend would block |
| `Link`     | the two parties, the connection, and **ghost**: the bytes sent for each request, the bytes each call read |
| `Step`     | `set_hdr_flags`, a method up to its send, the rest of the method, `handle_request` |
-/
namespace VhostUser
open Bytes EState

/-! ## The connection -/

/-- The connection as the frontend has it; it is starved once it waits for bytes that are not there. -/
structure Duplex where
  toBackend : List Cell
  toFrontend : Wire
  starved : Bool
deriving DecidableEq, Repr

def Duplex.channel : Channel Duplex where
  send bytes fds t := (.ok (), { t with toBackend := t.toBackend ++ cells bytes fds })
  recv n t :=
    let (r, w) := t.toFrontend.read n
    (r, { t with toFrontend := w, starved := t.starved || decide (t.toFrontend.inFlight.length < n) })

namespace FrontendOp
open Frontend

/-- A method up to its send. -/
def start {τ : Type} (ch : Channel τ) (op : FrontendOp) : M τ (VhostUserMsgHeader FrontendReq) := do
  let m ← orThrow (op.compose (← getNode))
  issue ch m

theorem run_start {τ : Type} (ch : Channel τ) (op : FrontendOp) :
    op.run ch = (do let hdr ← op.start ch; op.finish ch hdr) := by
  simp only [run_eq, start, bind_assoc]

/-- The request of an operation on the connection. -/
def request (node : FrontendInternal) (m : Outgoing) : List Cell :=
  cells (ByteValued.asSlice (headerOf node m) ++ m.body) m.fds

theorem start_cases (op : FrontendOp) (x : FrontendCtx Duplex) :
    (∃ e, op.start Duplex.channel x = .error e x) ∨
      ∃ m, op.compose x.node = .ok m ∧ op.start Duplex.channel x =
        .ok (headerOf x.node m) { x with sock := { x.sock with toBackend := x.sock.toBackend ++ request x.node m } } := by
  unfold start
  rw [bind_of_ok (getNode_apply x)]
  cases hm : op.compose x.node with
  | error e => exact .inl ⟨e, rfl⟩
  | ok m =>
    rw [bind_of_ok (orThrow_ok_apply m x), issue, bind_of_ok (getNode_apply x)]
    cases checkState x.node with
    | error e => exact .inl ⟨e, rfl⟩
    | ok _ => exact .inr ⟨m, rfl, rfl⟩

end FrontendOp

/-! ## The parties -/

structure Link (β : Type) where
  node : FrontendInternal
  /-- The method that has sent its request and not returned. -/
  calling : Option (FrontendOp × VhostUserMsgHeader FrontendReq)
  toBackend : List Cell
  /-- The handler; its socket is the other direction. -/
  peer : Ctx BackendReqHandler β Call Wire
  /-- For each request that was handled, what went back. -/
  answers : List (List Cell)
  /-- For each call that returned, what it read. -/
  consumed : List (List Cell)

namespace Link
variable {β : Type}

def inFlight (s : Link β) : List Cell := s.peer.sock.inFlight

def new (maxQueueNum : UInt64) (b : β) : Link β :=
  ⟨Frontend.new maxQueueNum, none, [], ⟨.new, b, ⟨[], []⟩, []⟩, [], []⟩

/-- What the frontend's methods work on. -/
def frontend (s : Link β) : FrontendCtx Duplex := ⟨s.node, ⟨s.toBackend, s.peer.sock, false⟩⟩

/-- After a move of the frontend. -/
def moved (s : Link β) (y : FrontendCtx Duplex) : Link β :=
  { s with node := y.node, toBackend := y.sock.toBackend, peer := { s.peer with sock := y.sock.toFrontend } }

variable (invoke : (c : Call) → β → c.Res × β) (p : Platform)

/-- `handle_request` takes `req`; it returns `Ok`, or the error of an acknowledged method. -/
def Serves (s : Link β) (req : Request FrontendReq) (s' : Link β) : Prop :=
  ∃ sched truncErr r x' rx,
    recvRequest BackendReqHandler.checkAttachedFiles (fun _ => true) ⟨s.toBackend, sched, truncErr⟩ =
      .ret (.ok req, rx) ∧
    BackendReqHandler.handleRequest (BackendReqHandler.wired invoke) p s.peer ⟨s.toBackend, sched, truncErr⟩ =
      .ret (r, x', rx) ∧
    BackendReqHandler.Accepted invoke s.peer x' r ∧
    s' = { s with toBackend := rx.stream, peer := x',
                  answers := s.answers ++ [x'.sock.inFlight.drop s.inFlight.length] }

/-- The method under way comes to its end, with or without an error. -/
def Returns (s s' : Link β) : Prop :=
  ∃ op hdr y, s.calling = some (op, hdr) ∧ y = final (op.finish Duplex.channel hdr s.frontend) ∧
    y.sock.starved = false ∧
    s' = { s.moved y with calling := none,
                          consumed := s.consumed ++
                            [s.inFlight.take (s.inFlight.length - y.sock.toFrontend.inFlight.length)] }

inductive Step (s : Link β) : Link β → Prop where
  | setHdrFlags (flags : UInt32) : s.calling = none → flags &&& ~~~VhostUserHeaderFlag.NEED_REPLY = 0 →
      Step s { s with node := Frontend.setHdrFlags s.node flags }
  | refused (op : FrontendOp) (e : Error) (y : FrontendCtx Duplex) : s.calling = none →
      op.start Duplex.channel s.frontend = .error e y → Step s (s.moved y)
  | sent (op : FrontendOp) (hdr : VhostUserMsgHeader FrontendReq) (y : FrontendCtx Duplex) : s.calling = none →
      op.code ≠ .getConfig → op.start Duplex.channel s.frontend = .ok hdr y →
      Step s { s.moved y with calling := some (op, hdr) }
  | served (req : Request FrontendReq) (s' : Link β) : Serves invoke p s req s' → Step s s'
  | returned (s' : Link β) : Returns s s' → Step s s'

def Reachable (maxQueueNum : UInt64) (b : β) (s : Link β) : Prop :=
  Relation.ReflTransGen (Step invoke p) (new maxQueueNum b) s

end Link

/-- The request has a reply of its own. -/
def Request.hasReply (req : Request FrontendReq) : Prop :=
  ∃ r, req.hdr.getCode = .ok r ∧ r.replySize.isSome

instance (req : Request FrontendReq) : Decidable req.hasReply :=
  match h : req.hdr.getCode with
  | .ok r => decidable_of_iff (r.replySize.isSome = true) (by simp [Request.hasReply, h])
  | .error e => .isFalse (by simp [Request.hasReply, h])

/-! ## The handler's fields -/

/-- The protocol features after the call. -/
def Call.word : Call → UInt64 → UInt64
  | .setProtocolFeatures v, _ => v
  | _, w => w

theorem Call.word_eq_self {c : Call} (h : c.code ≠ .setProtocolFeatures) (w : UInt64) : c.word w = w := by
  cases c with
  | setProtocolFeatures v => exact absurd rfl h
  | _ => rfl

theorem FrontendOp.word_eq_self {op : FrontendOp} (h : op.code ≠ .setProtocolFeatures) (w : UInt64) : op.word w = w := by
  cases op with
  | setProtocolFeatures v => exact absurd rfl h
  | _ => rfl

theorem FrontendOp.eq_setProtocolFeatures {op : FrontendOp} (h : op.code = .setProtocolFeatures) :
    ∃ v, op = .setProtocolFeatures v := by
  cases op with
  | setProtocolFeatures v => exact ⟨v, rfl⟩
  | _ => cases h

namespace BackendReqHandler

/-- The frontend has been told that there are protocol features. -/
def OffersProtocol (h : BackendReqHandler) : Prop :=
  h.virtioFeatures &&& VhostUserVirtioFeatures.PROTOCOL_FEATURES ≠ 0

/-- What holds of the handler's fields throughout; `F` is the answer to `GET_FEATURES`. -/
structure Sound (F : UInt64) (h : BackendReqHandler) : Prop where
  error : h.error = none
  flag : h.replyAckEnabled = h.inForce
  features : h.virtioFeatures = 0 ∨ h.virtioFeatures = F
  offered : h.ackedProtocolFeatures ≠ 0 → h.OffersProtocol

theorem sound_new (F : UInt64) : Sound F new := ⟨rfl, rfl, .inl rfl, fun h => absurd rfl h⟩

theorem ackedProtocolFeatures_update (c : Call) (res : c.Res) (h : BackendReqHandler) :
    (update c res h).ackedProtocolFeatures = c.word h.ackedProtocolFeatures := by
  cases c with
  | getFeatures | getProtocolFeatures =>
    cases res with
    | ok v => rfl
    | error e => rfl
  | _ => rfl

/-- Whether acknowledgements are in force can be told from the protocol features alone. -/
theorem Sound.inForce_eq {F : UInt64} {h : BackendReqHandler} (hs : Sound F h) :
    h.replyAckEnabled = ((h.ackedProtocolFeatures &&& VhostUserProtocolFeatures.REPLY_ACK) != 0) := by
  rw [hs.flag, inForce]
  by_cases hack : h.ackedProtocolFeatures &&& VhostUserProtocolFeatures.REPLY_ACK = 0
  · simp [hack]
  · have hne : h.ackedProtocolFeatures ≠ 0 := by
      intro hzero
      rw [hzero] at hack
      exact hack UInt64.zero_and
    have hoffers := hs.offered hne
    rw [OffersProtocol, ← bne_iff_ne] at hoffers
    rw [hoffers, Bool.true_and]

section Update
variable {β : Type} {invoke : (c : Call) → β → c.Res × β} {F : UInt64} {h : BackendReqHandler}
  (hF : ∀ b v, (invoke .getFeatures b).1 = .ok v → v = F)
include hF

theorem virtioFeatures_update (c : Call) (b : β) (h : BackendReqHandler) :
    (update c (invoke c b).1 h).virtioFeatures = h.virtioFeatures ∨
      (update c (invoke c b).1 h).virtioFeatures = F := by
  cases c with
  | getFeatures =>
    cases hres : (invoke .getFeatures b).1 with
    | ok v => exact .inr (hF b v hres)
    | error e => exact .inl rfl
  | getProtocolFeatures =>
    cases (invoke .getProtocolFeatures b).1 with
    | ok v => exact .inl rfl
    | error e => exact .inl rfl
  | _ => exact .inl rfl

/-- The device's features stay what the frontend was told. -/
theorem Sound.virtioFeatures_kept (hs : Sound F h) (c : Call) (b : β) :
    h.virtioFeatures = 0 ∨ (update c (invoke c b).1 h).virtioFeatures = h.virtioFeatures := by
  obtain hzero | hfull := hs.features
  · exact .inl hzero
  · obtain hsame | hnew := virtioFeatures_update hF c b h
    · exact .inr hsame
    · exact .inr (hnew.trans hfull.symm)

theorem OffersProtocol.update (hs : Sound F h) (ho : h.OffersProtocol) (c : Call) (b : β) :
    (update c (invoke c b).1 h).OffersProtocol := by
  obtain hzero | hsame := hs.virtioFeatures_kept hF c b
  · rw [OffersProtocol, hzero] at ho
    exact absurd UInt64.zero_and ho
  · rwa [OffersProtocol, hsame]

theorem Sound.update (hs : Sound F h) {c : Call} (hc : c.code = .setProtocolFeatures → h.OffersProtocol) (b : β) :
    Sound F (update c (invoke c b).1 h) where
  error := (error_update c _ h).trans hs.error
  flag := replyAckEnabled_update hs.flag c _
  features := by
    obtain hsame | hnew := virtioFeatures_update hF c b h
    · rw [hsame]
      exact hs.features
    · exact .inr hnew
  offered := by
    rw [ackedProtocolFeatures_update]
    intro hne
    by_cases hset : c.code = .setProtocolFeatures
    · exact (hc hset).update hF hs c b
    · rw [Call.word_eq_self hset] at hne
      exact (hs.offered hne).update hF hs c b

end Update

end BackendReqHandler

/-! ## A request under way -/

/-- A request that was sent: the operation, the frontend's state at the time, the message. -/
structure Pending where
  op : FrontendOp
  node : FrontendInternal
  msg : Outgoing

namespace Pending

def hdr (q : Pending) : VhostUserMsgHeader FrontendReq := FrontendOp.headerOf q.node q.msg

def cells (q : Pending) : List Cell := FrontendOp.request q.node q.msg

/-- The protocol features once the request is done. -/
def word (q : Pending) : UInt64 := q.op.word q.node.ackedProtocolFeatures

/-- How many bytes the method waits for. -/
def reads (q : Pending) : Nat := (q.op.reads q.word q.hdr).getD 0

/-- The request was sent by a frontend that goes by the protocol features `w`, to a handler `h`. -/
structure Issued (h : BackendReqHandler) (w : UInt64) (q : Pending) : Prop where
  composed : q.op.compose q.node = .ok q.msg
  word : q.node.ackedProtocolFeatures = w
  notConfig : q.op.code ≠ .getConfig
  notReply : q.hdr.isReply = false
  offered : q.op.code = .setProtocolFeatures → h.OffersProtocol

theorem cells_ne_nil (q : Pending) : q.cells ≠ [] := by
  intro hnil
  have hlen := congrArg List.length hnil
  rw [cells, FrontendOp.request, length_cells, List.length_append, ByteValued.length_asSlice,
    VhostUserMsgHeader.size_header, List.length_nil] at hlen
  omega

theorem Issued.mono {h h' : BackendReqHandler} (hh : h.OffersProtocol → h'.OffersProtocol) {w : UInt64} {q : Pending}
    (hq : q.Issued h w) : q.Issued h' w :=
  { hq with offered := fun hset => hh (hq.offered hset) }

end Pending

section Parse
variable {p : Platform} {h : BackendReqHandler} {op : FrontendOp} {node : FrontendInternal} {m : Outgoing} {c : Call}

theorem parse_code_eq (hm : op.compose node = .ok m)
    (hc : BackendReqHandler.parse p h (FrontendOp.arrived node m) = .ok (.ok c)) : c.code = op.code := by
  have hcode := BackendReqHandler.parse_code hc
  rw [FrontendOp.arrived, FrontendOp.getCode_headerOf] at hcode
  exact (Except.ok.inj hcode).symm.trans (op.compose_code node m hm)

/-- The two sides agree on the protocol features a request leads to. -/
theorem parse_word (hm : op.compose node = .ok m)
    (hc : BackendReqHandler.parse p h (FrontendOp.arrived node m) = .ok (.ok c)) (w : UInt64) :
    c.word w = op.word w := by
  have hcode := parse_code_eq hm hc
  by_cases hset : op.code = .setProtocolFeatures
  · obtain ⟨v, rfl⟩ := FrontendOp.eq_setProtocolFeatures hset
    obtain ⟨-, rfl⟩ := FrontendOp.guard_ok hm
    simp only [BackendReqHandler.parse, FrontendOp.arrived, FrontendOp.getCode_headerOf] at hc
    cases FrontendOp.extractBody_asSlice hc
    rfl
  · rw [Call.word_eq_self (hcode ▸ hset), FrontendOp.word_eq_self hset]

/-- `SET_LOG_BASE` without a file is not taken. -/
theorem parse_logsAddress (hm : op.compose node = .ok m)
    (hc : BackendReqHandler.parse p h (FrontendOp.arrived node m) = .ok (.ok c)) :
    op.logsAddress node.ackedProtocolFeatures = false := by
  cases op with
  | setLogBase base region =>
    by_contra hlog
    have hmsg : m = ⟨.setLogBase, ByteValued.asSlice (⟨base⟩ : VhostUserU64), []⟩ := by
      cases region with
      | none => exact (Except.ok.inj hm).symm
      | some region =>
        have hoff : ¬(node.ackedProtocolFeatures &&& VhostUserProtocolFeatures.LOG_SHMFD ≠ 0) := by
          simpa [FrontendOp.logsAddress] using hlog
        simp only [FrontendOp.compose] at hm
        rw [if_neg hoff] at hm
        exact (Except.ok.inj hm).symm
    subst hmsg
    simp only [BackendReqHandler.parse, FrontendOp.arrived, FrontendOp.getCode_headerOf] at hc
    obtain ⟨_, -, hc⟩ := except_bind_ok hc
    cases hc
  | _ => rfl

end Parse

theorem FrontendOp.logsAddress_word (op : FrontendOp) (w : UInt64) : op.logsAddress (op.word w) = op.logsAddress w := by
  cases op with
  | setProtocolFeatures v => rfl
  | _ => rfl

theorem BackendReqHandler.Posted.inFlight {n : Option Nat} {w w' : Wire} (h : BackendReqHandler.Posted n w w') :
    ∃ new, w'.inFlight = w.inFlight ++ new ∧ new.length = n.getD 0 := by
  cases n with
  | none =>
    cases h
    exact ⟨[], by simp, rfl⟩
  | some n =>
    obtain ⟨bytes, fds, hlen, rfl⟩ := h
    exact ⟨cells bytes fds, rfl, (length_cells bytes fds).trans hlen⟩

namespace Link
variable {β : Type}

/-- One request handled: what is on the connection and what became of the handler's fields. -/
structure Handled (F : UInt64) (q : Pending) (rest : List Cell) (s s' : Link β) : Prop where
  node : s'.node = s.node
  calling : s'.calling = s.calling
  consumed : s'.consumed = s.consumed
  toBackend : s'.toBackend = rest
  sound : s'.peer.handler.Sound F
  word : s'.peer.handler.ackedProtocolFeatures = q.word
  features : s.peer.handler.virtioFeatures = 0 ∨
    s'.peer.handler.virtioFeatures = s.peer.handler.virtioFeatures
  posted : BackendReqHandler.Posted (due q.op.code s'.peer.handler.replyAckEnabled q.hdr.isNeedReply) s.peer.sock
    s'.peer.sock
  answer : ∃ new, s'.inFlight = s.inFlight ++ new ∧ s'.answers = s.answers ++ [new] ∧ new.length = q.reads ∧
    (q.op = .getFeatures → new = cells (BackendReqHandler.reply .getFeatures
      (ByteValued.asSlice (⟨s'.peer.handler.virtioFeatures⟩ : VhostUserU64))) [])

variable {invoke : (c : Call) → β → c.Res × β} {p : Platform} {F : UInt64}
  (hF : ∀ b v, (invoke .getFeatures b).1 = .ok v → v = F) {s s' : Link β} {req : Request FrontendReq}

/-- Nothing is handled where nothing is under way. -/
theorem toBackend_ne_nil (h : Serves invoke p s req s') : s.toBackend ≠ [] := by
  obtain ⟨sched, truncErr, r, x', rx, hrecv, -⟩ := h
  exact fun hnil => recvRequest_empty hnil hrecv

include hF

/-- The handler takes the oldest request and sends the bytes its method waits for. -/
theorem handled_of_serves {q : Pending} {rest : List Cell} (hs : s.peer.handler.Sound F)
    (hq : q.Issued s.peer.handler s.peer.handler.ackedProtocolFeatures) (hstream : s.toBackend = q.cells ++ rest)
    (h : Serves invoke p s req s') : req = FrontendOp.arrived q.node q.msg ∧ Handled F q rest s s' := by
  obtain ⟨sched, truncErr, r, x', rx, hrecv, hret, hacc, rfl⟩ := h
  have hfits := FrontendOp.compose_fits hq.composed
  obtain ⟨hlen, -⟩ := FrontendOp.isValid_headerOf q.node hfits
  obtain ⟨hreq, hrest⟩ := recvRequest_filled hlen hfits.fds_le hstream hrecv
  obtain ⟨req', c, hrecv', hc, -, hanswered⟩ := BackendReqHandler.accepted_cases hret hacc
  cases hrecv.symm.trans hrecv'
  subst hreq
  have hcode := parse_code_eq hq.composed hc
  obtain ⟨hhandler, hposted, hfeatures⟩ := hanswered (hcode ▸ hq.notConfig)
  have hword : x'.handler.ackedProtocolFeatures = q.word := by
    rw [hhandler, BackendReqHandler.ackedProtocolFeatures_update, parse_word hq.composed hc, Pending.word, hq.word]
  have hsound : x'.handler.Sound F := by
    rw [hhandler]
    exact hs.update hF (fun hset => hq.offered (hcode ▸ hset)) _
  rw [hcode] at hposted
  refine ⟨rfl, rfl, rfl, rfl, hrest, hsound, hword, ?_, hposted, ?_⟩
  · rw [hhandler]
    exact hs.virtioFeatures_kept hF c _
  · obtain ⟨new, hnew, hlen⟩ := hposted.inFlight
    refine ⟨new, hnew, ?_, ?_, fun hget => ?_⟩
    · rw [hnew, inFlight, List.drop_left]
    · -- both sides come to the same answer
      have haddress := parse_logsAddress hq.composed hc
      rw [hlen, Pending.reads, FrontendOp.reads, Pending.word, FrontendOp.logsAddress_word, haddress,
        hsound.inForce_eq, hword]
      rfl
    · have hsock := hfeatures (by
        cases c with
        | getFeatures => rfl
        | _ => rw [hget] at hcode; cases hcode)
      rw [hsock] at hnew
      exact (List.append_cancel_left hnew).symm

omit hF

/-! ## The invariant -/

/-- Requests under way whose methods did not wait: the protocol features go from `w` to `w'`. -/
inductive Silent (h : BackendReqHandler) : UInt64 → List Pending → UInt64 → Prop where
  | nil (w : UInt64) : Silent h w [] w
  | cons {w w' : UInt64} {q : Pending} {qs : List Pending} : q.Issued h w → q.reads = 0 → Silent h q.word qs w' →
      Silent h w (q :: qs) w'

theorem Silent.snoc {h : BackendReqHandler} {w w' : UInt64} {q : Pending} {qs : List Pending} (hqs : Silent h w qs w')
    (hq : q.Issued h w') (hreads : q.reads = 0) : Silent h w (qs ++ [q]) q.word := by
  induction hqs with
  | nil w => exact .cons hq hreads (.nil _)
  | cons hq₁ hreads₁ _ ih => exact .cons hq₁ hreads₁ (ih hq)

theorem Silent.eq_of_nil {h : BackendReqHandler} {w w' : UInt64} (hqs : Silent h w [] w') : w' = w := by
  cases hqs
  rfl

theorem Silent.head {h : BackendReqHandler} {w w' : UInt64} {q : Pending} {qs : List Pending}
    (hqs : Silent h w (q :: qs) w') : q.Issued h w ∧ q.reads = 0 ∧ Silent h q.word qs w' := by
  cases hqs with
  | cons hq hreads hqs => exact ⟨hq, hreads, hqs⟩

/-- The same requests, for a handler that has moved on. -/
theorem Silent.mono {h h' : BackendReqHandler} (hh : h.OffersProtocol → h'.OffersProtocol) {w w' : UInt64}
    {qs : List Pending} (hqs : Silent h w qs w') : Silent h' w qs w' := by
  induction hqs with
  | nil w => exact .nil w
  | cons hq hreads _ ih => exact .cons (hq.mono hh) hreads ih

/-- Where the two parties stand. -/
inductive Phase (s : Link β) : Prop where
  /-- No method is under way. -/
  | idle (qs : List Pending) (calling : s.calling = none) (toBackend : s.toBackend = qs.flatMap Pending.cells)
      (silent : Silent s.peer.handler s.peer.handler.ackedProtocolFeatures qs s.node.ackedProtocolFeatures)
      (inFlight : s.inFlight = []) (ledger : s.answers ++ List.replicate qs.length [] = s.consumed)
  /-- The request of a method is under way, behind those of earlier ones. -/
  | asked (qs : List Pending) (q : Pending) (calling : s.calling = some (q.op, q.hdr))
      (toBackend : s.toBackend = qs.flatMap Pending.cells ++ q.cells)
      (silent : Silent s.peer.handler s.peer.handler.ackedProtocolFeatures qs s.node.ackedProtocolFeatures)
      (issued : q.Issued s.peer.handler s.node.ackedProtocolFeatures)
      (inFlight : s.inFlight = []) (ledger : s.answers ++ List.replicate qs.length [] = s.consumed)
  /-- The request of the method has been handled. -/
  | answered (q : Pending) (calling : s.calling = some (q.op, q.hdr)) (toBackend : s.toBackend = [])
      (issued : q.Issued s.peer.handler s.node.ackedProtocolFeatures)
      (word : s.peer.handler.ackedProtocolFeatures = q.word) (inFlight : s.inFlight.length = q.reads)
      (features : q.op = .getFeatures → s.inFlight = cells (BackendReqHandler.reply .getFeatures
        (ByteValued.asSlice (⟨s.peer.handler.virtioFeatures⟩ : VhostUserU64))) [])
      (ledger : s.answers = s.consumed ++ [s.inFlight])

structure Inv (F : UInt64) (s : Link β) : Prop where
  error : s.node.error = none
  flags : s.node.hdrFlags &&& ~~~VhostUserHeaderFlag.NEED_REPLY = 0
  sound : s.peer.handler.Sound F
  learned : s.node.virtioFeatures = 0 ∨ s.node.virtioFeatures = s.peer.handler.virtioFeatures
  phase : Phase s

theorem inv_new (F maxQueueNum : UInt64) (b : β) : Inv F (new maxQueueNum b) where
  error := rfl
  flags := UInt32.zero_and
  sound := BackendReqHandler.sound_new F
  learned := .inl rfl
  phase := .idle [] rfl rfl (.nil _) rfl rfl

/-! ### A method sends its request -/

theorem isReply_headerOf {node : FrontendInternal} (h : node.hdrFlags &&& ~~~VhostUserHeaderFlag.NEED_REPLY = 0)
    (m : Outgoing) : (FrontendOp.headerOf node m).isReply = false := by
  have hsub : ~~~VhostUserHeaderFlag.NEED_REPLY &&& VhostUserHeaderFlag.REPLY = VhostUserHeaderFlag.REPLY := rfl
  have hone : (0x1 : UInt32) &&& VhostUserHeaderFlag.REPLY = 0 := rfl
  rw [FrontendOp.headerOf, Frontend.newRequestHeader, VhostUserMsgHeader.isReply_new, u32_or_and, hone, ← hsub,
    ← UInt32.and_assoc, h, UInt32.zero_and]
  rfl

/-- Only a frontend that was told of protocol features sets them. -/
theorem compose_setProtocolFeatures {op : FrontendOp} {node : FrontendInternal} {m : Outgoing}
    (hop : op.code = .setProtocolFeatures) (hm : op.compose node = .ok m) :
    node.virtioFeatures &&& VhostUserVirtioFeatures.PROTOCOL_FEATURES ≠ 0 := by
  obtain ⟨v, rfl⟩ := FrontendOp.eq_setProtocolFeatures hop
  obtain ⟨hcheck, -⟩ := FrontendOp.guard_ok hm
  unfold Frontend.checkFeature at hcheck
  split at hcheck
  · rename_i hfeature
    exact hfeature
  · cases hcheck

theorem Inv.sent (h : Inv F s) {op : FrontendOp} {hdr : VhostUserMsgHeader FrontendReq} {y : FrontendCtx Duplex}
    (hidle : s.calling = none) (hop : op.code ≠ .getConfig)
    (hstart : op.start Duplex.channel s.frontend = .ok hdr y) :
    Inv F { s.moved y with calling := some (op, hdr) } := by
  obtain ⟨e, he⟩ | ⟨m, hm, hsent⟩ := op.start_cases s.frontend
  · rw [he] at hstart
    cases hstart
  · rw [hsent] at hstart
    cases hstart
    have hissued : Pending.Issued s.peer.handler s.node.ackedProtocolFeatures ⟨op, s.node, m⟩ := by
      refine ⟨hm, rfl, hop, isReply_headerOf h.flags m, fun hset => ?_⟩
      have hfeature := compose_setProtocolFeatures hset hm
      obtain hzero | hsame := h.learned
      · rw [frontend, hzero] at hfeature
        exact absurd UInt64.zero_and hfeature
      · rwa [BackendReqHandler.OffersProtocol, ← hsame]
    refine ⟨h.error, h.flags, h.sound, h.learned, ?_⟩
    cases h.phase with
    | idle qs calling toBackend silent inFlight ledger =>
      exact .asked qs ⟨op, s.node, m⟩ rfl (congrArg (· ++ _) toBackend) silent hissued inFlight ledger
    | asked qs q calling => rw [hidle] at calling; cases calling
    | answered q calling => rw [hidle] at calling; cases calling

theorem Inv.refused (h : Inv F s) {op : FrontendOp} {e : Error} {y : FrontendCtx Duplex}
    (hstart : op.start Duplex.channel s.frontend = .error e y) : Inv F (s.moved y) := by
  obtain ⟨e, he⟩ | ⟨m, hm, hsent⟩ := op.start_cases s.frontend
  · rw [he] at hstart
    cases hstart
    exact h
  · rw [hsent] at hstart
    cases hstart

theorem Inv.setHdrFlags (h : Inv F s) {flags : UInt32} (hidle : s.calling = none)
    (hflags : flags &&& ~~~VhostUserHeaderFlag.NEED_REPLY = 0) :
    Inv F { s with node := Frontend.setHdrFlags s.node flags } := by
  refine ⟨h.error, hflags, h.sound, h.learned, ?_⟩
  cases h.phase with
  | idle qs calling toBackend silent inFlight ledger => exact .idle qs calling toBackend silent inFlight ledger
  | asked qs q calling => rw [hidle] at calling; cases calling
  | answered q calling => rw [hidle] at calling; cases calling

/-! ### The handler takes a request -/

theorem Handled.offers {q : Pending} {rest : List Cell} (h : Handled F q rest s s')
    (ho : s.peer.handler.OffersProtocol) : s'.peer.handler.OffersProtocol := by
  obtain hzero | hsame := h.features
  · rw [BackendReqHandler.OffersProtocol, hzero] at ho
    exact absurd UInt64.zero_and ho
  · rwa [BackendReqHandler.OffersProtocol, hsame]

theorem Handled.learned {q : Pending} {rest : List Cell} (h : Handled F q rest s s')
    (hl : s.node.virtioFeatures = 0 ∨ s.node.virtioFeatures = s.peer.handler.virtioFeatures) :
    s'.node.virtioFeatures = 0 ∨ s'.node.virtioFeatures = s'.peer.handler.virtioFeatures := by
  rw [h.node]
  obtain hzero | hsame := h.features
  · rw [hzero, or_self] at hl
    exact .inl hl
  · rwa [hsame]

/-- A request nobody waits for is not answered. -/
theorem Handled.silent {q : Pending} {rest : List Cell} (h : Handled F q rest s s') (hq : q.reads = 0) :
    s'.inFlight = s.inFlight ∧ s'.answers = s.answers ++ [[]] := by
  obtain ⟨new, hnew, hanswers, hlen, -⟩ := h.answer
  obtain rfl : new = [] := List.length_eq_zero_iff.1 (hlen.trans hq)
  exact ⟨by rw [hnew, List.append_nil], hanswers⟩

include hF

theorem Inv.served (h : Inv F s) (hserve : Serves invoke p s req s') : Inv F s' := by
  have hsome := toBackend_ne_nil hserve
  cases h.phase with
  | idle qs calling toBackend silent inFlight ledger =>
    cases qs with
    | nil => exact absurd toBackend hsome
    | cons q qs =>
      obtain ⟨hq, hreads, hqs⟩ := silent.head
      obtain ⟨-, hh⟩ := handled_of_serves hF h.sound hq toBackend hserve
      obtain ⟨hflight, hanswers⟩ := hh.silent hreads
      refine ⟨hh.node ▸ h.error, hh.node ▸ h.flags, hh.sound, hh.learned h.learned, ?_⟩
      refine .idle qs (hh.calling.trans calling) hh.toBackend ?_ (hflight.trans inFlight) ?_
      · rw [hh.word, hh.node]
        exact hqs.mono hh.offers
      · rw [hanswers, hh.consumed, ← ledger, List.append_assoc]
        rfl
  | asked qs q calling toBackend silent issued inFlight ledger =>
    cases qs with
    | nil =>
      -- the request of the method under way
      have hword := silent.eq_of_nil
      obtain ⟨-, hh⟩ := handled_of_serves hF h.sound (hword ▸ issued) (toBackend.trans (List.append_nil _).symm) hserve
      obtain ⟨new, hnew, hanswers, hlen, hfeatures⟩ := hh.answer
      rw [inFlight, List.nil_append] at hnew
      refine ⟨hh.node ▸ h.error, hh.node ▸ h.flags, hh.sound, hh.learned h.learned, ?_⟩
      refine .answered q (hh.calling.trans calling) hh.toBackend (hh.node ▸ issued.mono hh.offers) hh.word
        (hnew ▸ hlen) (fun hget => hnew.trans (hfeatures hget)) ?_
      rw [hanswers, hh.consumed, ← ledger, hnew]
      simp
    | cons q₀ qs =>
      obtain ⟨hq, hreads, hqs⟩ := silent.head
      obtain ⟨-, hh⟩ := handled_of_serves hF h.sound hq (toBackend.trans (List.append_assoc _ _ _)) hserve
      obtain ⟨hflight, hanswers⟩ := hh.silent hreads
      refine ⟨hh.node ▸ h.error, hh.node ▸ h.flags, hh.sound, hh.learned h.learned, ?_⟩
      refine .asked qs q (hh.calling.trans calling) hh.toBackend ?_ (hh.node ▸ issued.mono hh.offers)
        (hflight.trans inFlight) ?_
      · rw [hh.word, hh.node]
        exact hqs.mono hh.offers
      · rw [hanswers, hh.consumed, ← ledger, List.append_assoc]
        rfl
  | answered q calling toBackend => exact absurd toBackend hsome

omit hF

/-! ### A method returns -/

theorem received_duplex (n : Option Nat) {t : Duplex} (ht : t.starved = false) :
    (FrontendOp.received Duplex.channel n t).toBackend = t.toBackend ∧
      ((FrontendOp.received Duplex.channel n t).starved = false ↔ n.getD 0 ≤ t.toFrontend.inFlight.length) ∧
      (n.getD 0 ≤ t.toFrontend.inFlight.length →
        (FrontendOp.received Duplex.channel n t).toFrontend.inFlight = t.toFrontend.inFlight.drop (n.getD 0)) := by
  cases n with
  | none =>
    refine ⟨rfl, ?_, fun _ => rfl⟩
    simp [FrontendOp.received, ht]
  | some n =>
    refine ⟨rfl, ?_, fun hle => ?_⟩
    · simp [FrontendOp.received, Duplex.channel, ht]
    · have hle : n ≤ t.toFrontend.inFlight.length := hle
      simp only [FrontendOp.received, Duplex.channel, Wire.read, hle, if_true, Option.getD_some]

/-- What the method under way does to the connection. -/
theorem sock_returned {q : Pending} {h : BackendReqHandler} (hq : q.Issued h s.node.ackedProtocolFeatures)
    (herr : s.node.error = none) {y : FrontendCtx Duplex} (hy : y = final (q.op.finish Duplex.channel q.hdr s.frontend)) :
    y.sock.toBackend = s.toBackend ∧ (y.sock.starved = false ↔ q.reads ≤ s.inFlight.length) ∧
      (q.reads ≤ s.inFlight.length → y.sock.toFrontend.inFlight = s.inFlight.drop q.reads) := by
  have hsock := @FrontendOp.sock_finish Duplex Duplex.channel q.hdr s.frontend q.op hq.notConfig herr hq.notReply
  rw [hy, hsock, Pending.reads, Pending.word, hq.word]
  exact received_duplex _ rfl

/-- A method that does not wait may always return, one that waits once its answer is there. -/
theorem returns_of_reads {q : Pending} {h : BackendReqHandler} (hcalling : s.calling = some (q.op, q.hdr))
    (hq : q.Issued h s.node.ackedProtocolFeatures) (herr : s.node.error = none)
    (hreads : q.reads ≤ s.inFlight.length) : ∃ s', Returns s s' :=
  ⟨_, q.op, q.hdr, _, hcalling, rfl, (sock_returned hq herr rfl).2.1.2 hreads, rfl⟩

/-- What the frontend learns of the features is what the handler told it. -/
theorem virtioFeatures_getFeatures {hdr : VhostUserMsgHeader FrontendReq} {v : UInt64}
    (hflight : s.inFlight = cells (BackendReqHandler.reply .getFeatures (ByteValued.asSlice (⟨v⟩ : VhostUserU64))) []) :
    (final (FrontendOp.getFeatures.finish Duplex.channel hdr s.frontend)).node.virtioFeatures = s.node.virtioFeatures ∨
      (final (FrontendOp.getFeatures.finish Duplex.channel hdr s.frontend)).node.virtioFeatures = v := by
  have hlen : s.inFlight.length = 20 := by
    rw [hflight, length_cells, BackendReqHandler.length_reply, ByteValued.length_asSlice]
    rfl
  have hkeep := @FrontendOp.keeps_recvReply Duplex _ Duplex.channel FrontendCtx.node VhostUserU64 _ _
    (fun _ _ => rfl) hdr s.frontend
  unfold FrontendOp.finish
  dsimp only
  rw [bind_apply]
  cases hr : Frontend.recvReply Duplex.channel VhostUserU64 hdr s.frontend with
  | error e x' =>
    rw [hr] at hkeep
    exact .inl (congrArg FrontendInternal.virtioFeatures hkeep)
  | ok val x' =>
    have hread : s.peer.sock.read (12 + ByteValued.size VhostUserU64) =
        (.ok (s.inFlight.map Cell.byte, toFiles (chunkFds s.inFlight)), ⟨[], s.peer.sock.sent⟩) := by
      have hlen : s.peer.sock.inFlight.length = 12 + ByteValued.size VhostUserU64 := hlen
      rw [Wire.read, if_pos hlen.ge, List.take_of_length_le hlen.le, List.drop_of_length_le hlen.le]
      rfl
    obtain ⟨t, hrecv⟩ : ∃ t, Duplex.channel.recv (12 + ByteValued.size VhostUserU64) s.frontend.sock =
        (.ok (s.inFlight.map Cell.byte, toFiles (chunkFds s.inFlight)), t) := by
      simp only [Duplex.channel, frontend, hread]
      exact ⟨_, rfl⟩
    have hval := FrontendOp.recvReply_value _ hrecv hr
    rw [hflight, map_byte_cells, BackendReqHandler.drop_reply, fromSlice_asSlice_nil] at hval
    subst hval
    exact .inr rfl

/-- The requests that are waited for are the answered ones. -/
theorem Pending.reads_getFeatures {q : Pending} (hop : q.op = .getFeatures) : q.reads = 20 := by
  rw [Pending.reads, hop, FrontendOp.reads_of_reply _ rfl rfl]
  rfl

/-- The cached state of a frontend whose method has returned. -/
theorem Inv.of_returned (h : Inv F s) {q : Pending} (hq : q.Issued s.peer.handler s.node.ackedProtocolFeatures)
    (hlearned : q.op = .getFeatures → s.inFlight = cells (BackendReqHandler.reply .getFeatures
      (ByteValued.asSlice (⟨s.peer.handler.virtioFeatures⟩ : VhostUserU64))) [])
    {y : FrontendCtx Duplex} (hy : y = final (q.op.finish Duplex.channel q.hdr s.frontend))
    (hphase : y.node.ackedProtocolFeatures = q.word → Phase s') (hnode : s'.node = y.node)
    (hhandler : s'.peer.handler = s.peer.handler) : Inv F s' := by
  have herr := FrontendOp.error_finish Duplex.channel q.hdr q.op s.frontend
  have hflags := FrontendOp.hdrFlags_finish Duplex.channel q.hdr q.op s.frontend
  have hword := FrontendOp.ackedProtocolFeatures_finish Duplex.channel q.hdr q.op s.frontend
  rw [← hy] at herr hflags hword
  refine ⟨?_, ?_, hhandler ▸ h.sound, ?_, hphase ?_⟩
  · rw [hnode, herr]
    exact h.error
  · rw [hnode, hflags]
    exact h.flags
  · rw [hnode, hhandler]
    by_cases hop : q.op = .getFeatures
    · rw [hop] at hy
      obtain hsame | hnew := @virtioFeatures_getFeatures β s q.hdr _ (hlearned hop)
      · rw [← hy] at hsame
        rw [hsame]
        exact h.learned
      · rw [← hy] at hnew
        exact .inr hnew
    · have hsame := FrontendOp.virtioFeatures_finish Duplex.channel q.hdr q.op s.frontend hop
      rw [← hy] at hsame
      rw [hsame]
      exact h.learned
  · rw [hword, Pending.word, hq.word]
    rfl

theorem Inv.returned (h : Inv F s) (hret : Returns s s') : Inv F s' := by
  obtain ⟨op, hdr, y, hcalling, hy, hstarved, rfl⟩ := hret
  cases h.phase with
  | idle qs calling => rw [calling] at hcalling; cases hcalling
  | asked qs q calling toBackend silent issued inFlight ledger =>
    obtain ⟨rfl, rfl⟩ : q.op = op ∧ q.hdr = hdr := by simpa using calling.symm.trans hcalling
    obtain ⟨hback, hfed, hread⟩ := sock_returned issued h.error hy
    have hreads : q.reads = 0 := by
      have hle := hfed.1 hstarved
      rw [inFlight] at hle
      exact Nat.le_zero.1 hle
    have hflight := hread (hfed.1 hstarved)
    rw [inFlight, List.drop_nil] at hflight
    refine h.of_returned issued (fun hop => ?_) hy (fun hword => ?_) rfl rfl
    · rw [Pending.reads_getFeatures hop] at hreads
      cases hreads
    · refine .idle (qs ++ [q]) rfl ?_ ?_ hflight ?_
      · rw [List.flatMap_append, List.flatMap_singleton, ← toBackend]
        exact hback
      · have hsnoc := silent.snoc issued hreads
        rw [← hword] at hsnoc
        exact hsnoc
      · dsimp only [moved]
        rw [inFlight, ← ledger, List.take_nil, List.length_append, List.length_singleton, List.replicate_succ',
          List.append_assoc]
  | answered q calling toBackend issued word inFlight features ledger =>
    obtain ⟨rfl, rfl⟩ : q.op = op ∧ q.hdr = hdr := by simpa using calling.symm.trans hcalling
    obtain ⟨hback, -, hread⟩ := sock_returned issued h.error hy
    have hflight := hread inFlight.ge
    rw [List.drop_of_length_le inFlight.le] at hflight
    refine h.of_returned issued features hy (fun hword => ?_) rfl rfl
    refine .idle [] rfl (hback.trans toBackend) ?_ hflight ?_
    · have hagree : s.peer.handler.ackedProtocolFeatures = y.node.ackedProtocolFeatures := word.trans hword.symm
      exact hagree ▸ .nil _
    · dsimp only [moved]
      rw [hflight, ledger]
      simp

/-! ## Lockstep -/

include hF

theorem Inv.step (h : Inv F s) (hstep : Step invoke p s s') : Inv F s' := by
  cases hstep with
  | setHdrFlags flags hidle hflags => exact h.setHdrFlags hidle hflags
  | refused op e y hidle hstart => exact h.refused hstart
  | sent op hdr y hidle hop hstart => exact h.sent hidle hop hstart
  | served req s' hserve => exact h.served hF hserve
  | returned s' hret => exact h.returned hret

theorem Reachable.inv {maxQueueNum : UInt64} {b : β} (h : Reachable invoke p maxQueueNum b s) : Inv F s := by
  induction h with
  | refl => exact inv_new F maxQueueNum b
  | tail _ hstep ih => exact ih.step hF hstep

omit hF

/-- The request that is handled next. -/
theorem Inv.oldest (h : Inv F s) (hsome : s.toBackend ≠ []) : ∃ q rest,
    Pending.Issued s.peer.handler s.peer.handler.ackedProtocolFeatures q ∧ s.toBackend = q.cells ++ rest := by
  cases h.phase with
  | idle qs calling toBackend silent inFlight ledger =>
    cases qs with
    | nil => exact absurd toBackend hsome
    | cons q qs => exact ⟨q, _, silent.head.1, toBackend⟩
  | asked qs q calling toBackend silent issued inFlight ledger =>
    cases qs with
    | nil => exact ⟨q, [], silent.eq_of_nil ▸ issued, toBackend.trans (List.append_nil _).symm⟩
    | cons q₀ qs => exact ⟨q₀, _, silent.head.1, toBackend.trans (List.append_assoc _ _ _)⟩
  | answered q calling toBackend => exact absurd toBackend hsome

/-- The two parties agree on who answers what. -/
structure InLockstep (invoke : (c : Call) → β → c.Res × β) (p : Platform) (s : Link β) : Prop where
  /-- Between calls nothing is left on the way to the frontend. -/
  quiet : s.calling = none → s.inFlight = []
  /-- A request is answered with one message or none. -/
  oneReply : ∀ req s', Serves invoke p s req s' → ∃ msgs : Log,
    s'.peer.sock.sent = s.peer.sock.sent ++ msgs ∧
    s'.inFlight = s.inFlight ++ msgs.flatMap (fun m => cells m.1 m.2) ∧
    msgs.length = if req.hasReply ∨ s'.peer.handler.inForce = true ∧ req.hdr.isNeedReply = true then 1 else 0
  /-- What a call has read is what was sent for its request: the `i`-th call, the `i`-th request. -/
  readsAll : ∀ (i : Nat) sent read, s.answers[i]? = some sent → s.consumed[i]? = some read → read = sent
  /-- A call whose request was handled returns. -/
  returns : s.calling ≠ none → s.toBackend = [] → ∃ s', Returns s s'

theorem Handled.oneReply {q : Pending} {rest : List Cell} (h : Handled F q rest s s') : ∃ msgs : Log,
    s'.peer.sock.sent = s.peer.sock.sent ++ msgs ∧
    s'.inFlight = s.inFlight ++ msgs.flatMap (fun m => cells m.1 m.2) ∧
    msgs.length = if q.op.code.replySize.isSome = true ∨ s'.peer.handler.inForce = true ∧ q.hdr.isNeedReply = true
      then 1 else 0 := by
  have hposted := h.posted
  rw [h.sound.flag, due] at hposted
  cases hown : q.op.code.replySize with
  | some n =>
    rw [hown] at hposted
    obtain ⟨bytes, fds, -, hsock⟩ := hposted
    refine ⟨[(bytes, fds)], ?_, ?_, by simp⟩
    · rw [hsock]
      rfl
    · rw [inFlight, hsock, List.flatMap_singleton]
      rfl
  | none =>
    rw [hown] at hposted
    simp only [← Bool.and_eq_true, Option.isSome_none, Bool.false_eq_true, false_or]
    split
    · rename_i hack
      rw [if_pos hack] at hposted
      obtain ⟨bytes, fds, -, hsock⟩ := hposted
      refine ⟨[(bytes, fds)], ?_, ?_, rfl⟩
      · rw [hsock]
        rfl
      · rw [inFlight, hsock, List.flatMap_singleton]
        rfl
    · rename_i hack
      rw [if_neg hack] at hposted
      refine ⟨[], ?_, ?_, rfl⟩
      · rw [hposted, List.append_nil]
      · rw [inFlight, hposted, List.flatMap_nil, List.append_nil]
        rfl

theorem Inv.readsAll (h : Inv F s) (i : Nat) (sent read : List Cell) (hsent : s.answers[i]? = some sent)
    (hread : s.consumed[i]? = some read) : read = sent := by
  have hlt := (List.getElem?_eq_some_iff.1 hsent).1
  have hltr := (List.getElem?_eq_some_iff.1 hread).1
  cases h.phase with
  | idle qs calling toBackend silent inFlight ledger =>
    rw [← ledger, List.getElem?_append_left hlt] at hread
    exact Option.some.inj (hread.symm.trans hsent)
  | asked qs q calling toBackend silent issued inFlight ledger =>
    rw [← ledger, List.getElem?_append_left hlt] at hread
    exact Option.some.inj (hread.symm.trans hsent)
  | answered q calling toBackend issued word inFlight features ledger =>
    rw [ledger, List.getElem?_append_left hltr] at hsent
    exact Option.some.inj (hread.symm.trans hsent)

/-- **Frontend and handler stay in lockstep**, in every state that any interleaving of the frontend's
methods and of `handle_request` leads to, on any schedule of the receives. -/
theorem lockstep (invoke : (c : Call) → β → c.Res × β) (p : Platform) (F : UInt64)
    (hF : ∀ b v, (invoke .getFeatures b).1 = .ok v → v = F) (maxQueueNum : UInt64) (b : β) (s : Link β)
    (hs : Reachable invoke p maxQueueNum b s) : InLockstep invoke p s := by
  have h := Reachable.inv hF hs
  refine ⟨fun hidle => ?_, fun req s' hserve => ?_, h.readsAll, fun hbusy hnone => ?_⟩
  · cases h.phase with
    | idle qs calling toBackend silent inFlight ledger => exact inFlight
    | asked qs q calling => rw [hidle] at calling; cases calling
    | answered q calling => rw [hidle] at calling; cases calling
  · obtain ⟨q, rest, hq, hstream⟩ := h.oldest (toBackend_ne_nil hserve)
    obtain ⟨rfl, hh⟩ := handled_of_serves hF h.sound hq hstream hserve
    have hown : (FrontendOp.arrived q.node q.msg).hasReply ↔ q.op.code.replySize.isSome = true := by
      rw [Request.hasReply, FrontendOp.arrived, FrontendOp.getCode_headerOf, ← q.op.compose_code q.node _ hq.composed]
      simp
    simp only [hown]
    exact hh.oneReply
  · cases h.phase with
    | idle qs calling => exact absurd calling hbusy
    | asked qs q calling toBackend silent issued inFlight ledger =>
      rw [hnone] at toBackend
      exact absurd (List.append_eq_nil_iff.1 toBackend.symm).2 q.cells_ne_nil
    | answered q calling toBackend issued word inFlight features ledger =>
      exact returns_of_reads calling issued h.error inFlight.ge

/-- A backend that has features and refuses everything else. -/
def offering (F : UInt64) : (c : Call) → Unit → c.Res × Unit
  | .getFeatures, b => (.ok F, b)
  | c, b => (c.refuse .invalidParam, b)

/-- `GET_FEATURES` has been sent. -/
def asking : Link Unit :=
  { new 1 () with
    calling := some (.getFeatures, FrontendOp.headerOf (Frontend.new 1) ⟨.getFeatures, [], []⟩)
    toBackend := FrontendOp.request (Frontend.new 1) ⟨.getFeatures, [], []⟩ }

/-- The first answer is on its way, and the call returns. -/
theorem lockstep_getFeatures :
    ∃ s : Link Unit, Reachable (offering 0x40000000) ⟨false, fun _ _ => .ok 1⟩ 1 () s ∧ s.inFlight.length = 20 ∧
      ∃ s', Returns s s' := by
  have hsent : Step (offering 0x40000000) ⟨false, fun _ _ => .ok 1⟩ (new 1 ()) asking :=
    .sent .getFeatures (FrontendOp.headerOf (Frontend.new 1) ⟨.getFeatures, [], []⟩)
      ⟨Frontend.new 1, ⟨FrontendOp.request (Frontend.new 1) ⟨.getFeatures, [], []⟩, ⟨[], []⟩, false⟩⟩ rfl (by decide) rfl
  have hserve : Serves (offering 0x40000000) ⟨false, fun _ _ => .ok 1⟩ asking
      (FrontendOp.arrived (Frontend.new 1) ⟨.getFeatures, [], []⟩) _ :=
    ⟨[.bytes 12], .EINTR, .ok (), _, ⟨[], [], .EINTR⟩, by decide, rfl, .inl rfl, rfl⟩
  have hs := Relation.ReflTransGen.refl.tail hsent |>.tail (.served _ _ hserve)
  have hlock := lockstep (offering 0x40000000) ⟨false, fun _ _ => .ok 1⟩ 0x40000000
    (fun _ _ h => (Except.ok.inj h).symm) 1 () _ hs
  exact ⟨_, hs, rfl, hlock.returns nofun rfl⟩

end Link

end VhostUser
