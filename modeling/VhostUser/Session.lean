import Mathlib.Data.List.Forall2
import VhostUser.Lockstep
import VhostUser.RequestLoop
/-!
# A session of a frontend and a daemon

The methods of a frontend on one side, the thread of `start_daemon` on the other, their moves in any order.
Nothing is asked of the header flags, the operations or the device. A request that fails ends the loop of the
thread, which then shuts the connection down (`vhost-user-backend/src/lib.rs:179-191`). The device sees what was
asked of it: the calls are those of the requests that were sent, each once and in their order
(`session_inOrder`).

| here | there |
| --- | --- |
| `Duplex.until` | the connection, before and after `conn.shutdown(Shutdown::Both)` (`:188`) |
| `Session`      | the two parties, the connection, and **ghost**: the requests that were sent |
| `Step`         | `set_hdr_flags`, a method up to its send, `handle_request`, the shutdown, the rest of the method |
| `ServesPrompt` | a turn of the loop (`:181-185`) that has all that was sent at hand |
-/
namespace VhostUser
open Bytes EState

/-! ## A request and its call -/

namespace FrontendOp

/-- The call an operation leads to: the method of the same name with equal arguments, except that only the
low eight bits of the index of a vring fd request arrive. -/
def Delivers : FrontendOp → Call → Prop
  | setVringCall queueIndex fd, .setVringCall index file => index = queueIndex.toUInt8 ∧ file = some fd
  | setVringKick queueIndex fd, .setVringKick index file => index = queueIndex.toUInt8 ∧ file = some fd
  | setVringErr queueIndex fd, .setVringErr index file => index = queueIndex.toUInt8 ∧ file = some fd
  | op, c => op.IsCall c

section Parse
variable {p : Platform} {h : BackendReqHandler} {node : FrontendInternal} {m : Outgoing} {c : Call} {op : FrontendOp}

theorem delivers_of_isCall (hcall : op.IsCall c) : op.Delivers c := by
  cases op with
  | setVringCall _ _ | setVringKick _ _ | setVringErr _ _ => exact hcall.elim
  | _ => exact hcall

/-- A vring fd request comes with its file. -/
theorem parseVringFd_ok {v : UInt64} {fd : File} {index : UInt8} {file : Option File}
    (hv : BackendReqHandler.parseVringFd (ByteValued.asSlice (⟨v⟩ : VhostUserU64)) (some [fd]) = .ok (index, file)) :
    index = v.toUInt8 ∧ file = some fd := by
  unfold BackendReqHandler.parseVringFd at hv
  obtain ⟨-, -, hv⟩ := except_bind_ok hv
  obtain ⟨msg, hmsg, hv⟩ := except_bind_ok hv
  have hread := BackendReqHandler.readAt_ok (T := VhostUserU64) (ByteValued.length_asSlice (⟨v⟩ : VhostUserU64)).ge
  rw [hread, fromSlice_asSlice_nil] at hmsg
  cases hmsg
  dsimp only at hv
  split at hv
  · cases hv
  · split at hv
    · cases hv
    · cases hv
      exact ⟨rfl, rfl⟩

/-- What gets through both sides' checks is the call of the operation. -/
theorem parse_delivers (hmax : node.maxQueueNum ≤ 0x8000) (hm : op.compose node = .ok m)
    (hc : BackendReqHandler.parse p h (arrived node m) = .ok (.ok c)) : op.Delivers c := by
  cases hop : op.isVringFd with
  | false => exact delivers_of_isCall (parse_isCall hop hmax hm hc)
  | true =>
    cases op with
    | setVringCall queueIndex fd | setVringKick queueIndex fd | setVringErr queueIndex fd =>
      obtain ⟨-, rfl⟩ := guard_ok hm
      simp only [BackendReqHandler.parse, arrived, getCode_headerOf] at hc
      obtain ⟨-, -, hc⟩ := except_bind_ok hc
      obtain ⟨⟨index, file⟩, hfd, hc⟩ := except_bind_ok hc
      cases hc
      exact parseVringFd_ok hfd
    | _ => cases hop

/-- Only requests that may carry descriptors are sent with them. -/
theorem takesFiles_compose (hm : op.compose node = .ok m) :
    BackendReqHandler.takesFiles m.code = true ∨ m.fds = [] := by
  cases op with
  | setMemTable regions =>
    obtain ⟨-, -, -, rfl⟩ := setMemTable_ok hm
    exact .inl rfl
  | getFeatures | setOwner | resetOwner | setFeatures _ =>
    cases hm
    exact .inr rfl
  | getProtocolFeatures | getQueueNum | resetDevice | getMaxMemSlots | getShmemConfig | checkDeviceState
  | postcopyAdvise | postcopyListen | postcopyEnd | setVringNum _ _ | setVringBase _ _ | getVringBase _
  | setProtocolFeatures _ | getInflightFd _ =>
    obtain ⟨-, rfl⟩ := guard_ok hm
    exact .inr rfl
  | setBackendRequestFd fd | setVringCall _ fd | setVringKick _ fd | setVringErr _ fd | setDeviceStateFd _ _ fd =>
    obtain ⟨-, rfl⟩ := guard_ok hm
    exact .inl rfl
  | setVringAddr queueIndex configData =>
    simp only [compose] at hm
    split at hm
    · cases hm
    · cases hm
      exact .inr rfl
  | setLogBase base region =>
    cases region with
    | none =>
      cases hm
      exact .inr rfl
    | some region =>
      simp only [compose] at hm
      split at hm
      · obtain ⟨fd, -, hm⟩ := except_bind_ok hm
        cases hm
        exact .inl rfl
      · cases hm
        exact .inr rfl
  | setLogFd fd =>
    obtain ⟨fd, -, hm⟩ := except_bind_ok hm
    cases hm
    exact .inl rfl
  | setVringEnable queueIndex enable =>
    simp only [compose] at hm
    split at hm
    · cases hm
    · obtain ⟨-, rfl⟩ := guard_ok hm
      exact .inr rfl
  | getConfig offset size flags buf =>
    obtain ⟨-, -, -, rfl⟩ := getConfig_ok hm
    exact .inr rfl
  | setConfig offset flags buf =>
    obtain ⟨-, -, rfl⟩ := setConfig_ok hm
    exact .inr rfl
  | getSharedObject uuid | removeMemRegion region =>
    obtain ⟨-, -, hm⟩ := except_bind_ok hm
    split at hm
    · cases hm
    · cases hm
      exact .inr rfl
  | setInflightFd inflight fd | addMemRegion region =>
    obtain ⟨-, -, hm⟩ := except_bind_ok hm
    split at hm
    · cases hm
    · cases hm
      exact .inl rfl

/-- So the handler takes them. -/
theorem checkAttachedFiles_headerOf (hm : op.compose node = .ok m) :
    BackendReqHandler.checkAttachedFiles (headerOf node m) (toFiles m.fds) = .ok () := by
  unfold BackendReqHandler.checkAttachedFiles
  rw [getCode_headerOf]
  obtain htakes | hnone := takesFiles_compose hm
  · simp [htakes]
  · simp [hnone, toFiles]

end Parse

/-! ### The number of rings the frontend goes by -/

section MaxQueueNum
variable {τ : Type} {ch : Channel τ}

/-- `get_queue_num` takes no more rings than there can be. -/
theorem maxQueueNum_finish (op : FrontendOp) (hdr : VhostUserMsgHeader FrontendReq) (x : FrontendCtx τ)
    (hmax : x.node.maxQueueNum ≤ 0x8000) : (final (op.finish ch hdr x)).node.maxQueueNum ≤ 0x8000 := by
  have hkeep (hop : op ≠ getQueueNum) :
      (final (op.finish ch hdr x)).node.maxQueueNum = x.node.maxQueueNum := by
    refine keeps_finish (p := fun x : FrontendCtx τ => x.node.maxQueueNum) (fun _ _ => rfl) op (fun f hf y => ?_) hdr x
    cases hf with
    | queueNum v => exact absurd rfl hop
    | _ => rfl
  by_cases hop : op = getQueueNum
  · subst hop
    have hnode := @keeps_recvReply _ _ ch FrontendCtx.node VhostUserU64 _ _ (fun _ _ => rfl) hdr x
    unfold finish
    dsimp only
    rw [bind_apply]
    cases hr : Frontend.recvReply ch VhostUserU64 hdr x with
    | error e y =>
      rw [hr] at hnode
      exact (congrArg FrontendInternal.maxQueueNum hnode).trans_le hmax
    | ok val y =>
      rw [hr] at hnode
      dsimp only
      split
      · exact (congrArg FrontendInternal.maxQueueNum hnode).trans_le hmax
      · rename_i hle
        exact UInt64.not_lt.1 hle
  · exact (hkeep hop).trans_le hmax

end MaxQueueNum

end FrontendOp

/-! ## The parties -/

/-- The connection as the frontend has it. Once it is shut down it takes nothing more, but what has arrived
can still be read. -/
def Duplex.until (closed : Bool) : Channel Duplex where
  send bytes fds t := if closed then (.error (.fromErrno .EPIPE), t) else channel.send bytes fds t
  recv := channel.recv

structure Session (β : Type) where
  node : FrontendInternal
  /-- The method that has sent its request and not returned. -/
  calling : Option (FrontendOp × VhostUserMsgHeader FrontendReq)
  toBackend : List Cell
  peer : Ctx BackendReqHandler β Call Wire
  /-- The thread has left its loop. -/
  gaveUp : Bool
  /-- The thread has shut the connection down. -/
  closed : Bool
  /-- The requests that were sent. -/
  issued : List Pending

namespace Session
variable {β : Type}

def new (maxQueueNum : UInt64) (b : β) : Session β :=
  ⟨Frontend.new maxQueueNum, none, [], ⟨.new, b, ⟨[], []⟩, []⟩, false, false, []⟩

def frontend (s : Session β) : FrontendCtx Duplex := ⟨s.node, ⟨s.toBackend, s.peer.sock, false⟩⟩

/-- After a move of the frontend. -/
def moved (s : Session β) (y : FrontendCtx Duplex) : Session β :=
  { s with node := y.node, toBackend := y.sock.toBackend, peer := { s.peer with sock := y.sock.toFrontend } }

variable (invoke : (c : Call) → β → c.Res × β) (p : Platform)

/-- One turn of the thread's loop: `handle_request` returns, on some schedule of its receives. -/
def Serves (s s' : Session β) : Prop :=
  ∃ sched truncErr r x' rx, s.gaveUp = false ∧
    BackendReqHandler.handleRequest (BackendReqHandler.wired invoke) p s.peer ⟨s.toBackend, sched, truncErr⟩ =
      .ret (r, x', rx) ∧
    s' = { s with toBackend := rx.stream, peer := x', gaveUp := !r.isOk }

/-- The same on a schedule that has everything that is there at hand. -/
def ServesPrompt (s s' : Session β) : Prop :=
  ∃ sched truncErr r x' rx, Prompt ⟨s.toBackend, sched, truncErr⟩ ∧ s.gaveUp = false ∧
    BackendReqHandler.handleRequest (BackendReqHandler.wired invoke) p s.peer ⟨s.toBackend, sched, truncErr⟩ =
      .ret (r, x', rx) ∧
    s' = { s with toBackend := rx.stream, peer := x', gaveUp := !r.isOk }

inductive Step (s : Session β) : Session β → Prop where
  | setHdrFlags (flags : UInt32) : s.calling = none → Step s { s with node := Frontend.setHdrFlags s.node flags }
  | refused (op : FrontendOp) (e : Error) (y : FrontendCtx Duplex) : s.calling = none →
      op.start (Duplex.until s.closed) s.frontend = .error e y → Step s (s.moved y)
  | sent (op : FrontendOp) (m : Outgoing) (hdr : VhostUserMsgHeader FrontendReq) (y : FrontendCtx Duplex) :
      s.calling = none → op.compose s.node = .ok m → op.start (Duplex.until s.closed) s.frontend = .ok hdr y →
      Step s { s.moved y with calling := some (op, hdr), issued := s.issued ++ [⟨op, s.node, m⟩] }
  | served (s' : Session β) : Serves invoke p s s' → Step s s'
  | shutDown : s.gaveUp = true → Step s { s with closed := true }
  | returned (op : FrontendOp) (hdr : VhostUserMsgHeader FrontendReq) (y : FrontendCtx Duplex) :
      s.calling = some (op, hdr) → y = final (op.finish (Duplex.until s.closed) hdr s.frontend) →
      y.sock.starved = false ∨ s.closed = true → Step s { s.moved y with calling := none }

def Reachable (maxQueueNum : UInt64) (b : β) (s : Session β) : Prop :=
  Relation.ReflTransGen (Step invoke p) (new maxQueueNum b) s

/-! ## The invariant -/

/-- The requests that were sent were composed by the frontend as it was. -/
def Composed (q : Pending) : Prop := q.op.compose q.node = .ok q.msg ∧ q.node.maxQueueNum ≤ 0x8000

/-- The calls are those of the requests at the front; the rest is on its way, unless the thread has given up. -/
structure Ledger (s : Session β) (done rest : List Pending) : Prop where
  issued : s.issued = done ++ rest
  calls : List.Forall₂ (fun q c => q.op.Delivers c) done s.peer.calls
  toBackend : s.gaveUp = false → s.toBackend = rest.flatMap Pending.cells

structure Inv (b : β) (s : Session β) : Prop where
  maxQueueNum : s.node.maxQueueNum ≤ 0x8000
  composed : ∀ q ∈ s.issued, Composed q
  closed : s.closed = true → s.gaveUp = true
  device : s.peer.backend = s.peer.calls.foldl (fun b c => (invoke c b).2) b
  ledger : ∃ done rest, s.Ledger done rest

variable {invoke p} {b : β} {s s' : Session β}

theorem inv_new {maxQueueNum : UInt64} (hmax : maxQueueNum ≤ 0x8000) : Inv invoke b (new maxQueueNum b) where
  maxQueueNum := hmax
  composed _ hq := absurd hq List.not_mem_nil
  closed h := absurd h Bool.false_ne_true
  device := rfl
  ledger := ⟨[], [], rfl, .nil, fun _ => rfl⟩

/-! ### The frontend moves -/

/-- A method up to its send: the message is on the connection, or nothing has happened. -/
theorem start_until (op : FrontendOp) (closed : Bool) (x : FrontendCtx Duplex) :
    (∃ e, op.start (Duplex.until closed) x = .error e x) ∨
      ∃ m, closed = false ∧ op.compose x.node = .ok m ∧ op.start (Duplex.until closed) x = .ok (FrontendOp.headerOf x.node m)
        { x with sock := { x.sock with toBackend := x.sock.toBackend ++ FrontendOp.request x.node m } } := by
  cases closed with
  | false =>
    obtain ⟨e, he⟩ | ⟨m, hm, hsent⟩ := op.start_cases x
    · exact .inl ⟨e, he⟩
    · exact .inr ⟨m, rfl, hm, hsent⟩
  | true =>
    refine .inl ?_
    unfold FrontendOp.start
    rw [bind_of_ok (Frontend.getNode_apply x)]
    cases hm : op.compose x.node with
    | error e => exact ⟨e, rfl⟩
    | ok m =>
      rw [bind_of_ok (Frontend.orThrow_ok_apply m x), FrontendOp.issue, bind_of_ok (Frontend.getNode_apply x)]
      cases Frontend.checkState x.node with
      | error e => exact ⟨e, rfl⟩
      | ok _ => exact ⟨_, rfl⟩

/-- The rest of a method sends nothing. -/
theorem toBackend_finish (op : FrontendOp) (closed : Bool) (hdr : VhostUserMsgHeader FrontendReq)
    (x : FrontendCtx Duplex) : (final (op.finish (Duplex.until closed) hdr x)).sock.toBackend = x.sock.toBackend :=
  FrontendOp.keeps_finish (p := fun x : FrontendCtx Duplex => x.sock.toBackend) (fun _ _ => rfl) op
    (fun _ _ _ => rfl) hdr x

theorem Inv.sent (h : Inv invoke b s) {op : FrontendOp} {m : Outgoing} {hdr : VhostUserMsgHeader FrontendReq}
    {y : FrontendCtx Duplex} (hm : op.compose s.node = .ok m)
    (hstart : op.start (Duplex.until s.closed) s.frontend = .ok hdr y) :
    Inv invoke b { s.moved y with calling := some (op, hdr), issued := s.issued ++ [⟨op, s.node, m⟩] } := by
  obtain ⟨e, he⟩ | ⟨m', -, hm', hsent⟩ := start_until op s.closed s.frontend
  · rw [he] at hstart
    cases hstart
  · cases hm.symm.trans hm'
    rw [hsent] at hstart
    cases hstart
    obtain ⟨done, rest, hissued, hcalls, hback⟩ := h.ledger
    refine ⟨h.maxQueueNum, fun q hq => ?_, h.closed, h.device, done, rest ++ [⟨op, s.node, m⟩], ?_, hcalls, fun hover => ?_⟩
    · obtain hq | hq := List.mem_append.1 hq
      · exact h.composed q hq
      · cases List.mem_singleton.1 hq
        exact ⟨hm, h.maxQueueNum⟩
    · rw [hissued, List.append_assoc]
    · rw [List.flatMap_append, List.flatMap_singleton, ← hback hover]
      rfl

theorem Inv.refused (h : Inv invoke b s) {op : FrontendOp} {e : Error} {y : FrontendCtx Duplex}
    (hstart : op.start (Duplex.until s.closed) s.frontend = .error e y) : Inv invoke b (s.moved y) := by
  obtain ⟨e', he⟩ | ⟨m, -, -, hsent⟩ := start_until op s.closed s.frontend
  · rw [he] at hstart
    cases hstart
    exact h
  · rw [hsent] at hstart
    cases hstart

theorem Inv.returned (h : Inv invoke b s) {op : FrontendOp} {hdr : VhostUserMsgHeader FrontendReq}
    {y : FrontendCtx Duplex} (hy : y = final (op.finish (Duplex.until s.closed) hdr s.frontend)) :
    Inv invoke b { s.moved y with calling := none } := by
  subst hy
  obtain ⟨done, rest, hissued, hcalls, hback⟩ := h.ledger
  refine ⟨op.maxQueueNum_finish hdr s.frontend h.maxQueueNum, h.composed, h.closed, h.device, done, rest, hissued, hcalls,
    fun hover => ?_⟩
  exact (toBackend_finish op s.closed hdr s.frontend).trans (hback hover)

/-! ### The thread moves -/

/-- What one turn of the loop does to the device: nothing, and the loop is left, or the call of a request. -/
theorem serves_cases (h : Serves invoke p s s') :
    (s'.gaveUp = true ∧ s'.peer.calls = s.peer.calls ∧ s'.peer.backend = s.peer.backend) ∨
      ∃ sched truncErr req c rx, recvRequest BackendReqHandler.checkAttachedFiles (fun _ => true)
          ⟨s.toBackend, sched, truncErr⟩ = .ret (.ok req, rx) ∧ s'.toBackend = rx.stream ∧
        BackendReqHandler.parse p s.peer.handler req = .ok (.ok c) ∧ s'.peer.calls = s.peer.calls ++ [c] ∧
        s'.peer.backend = (invoke c s.peer.backend).2 := by
  obtain ⟨sched, truncErr, r, x', rx, -, hret, rfl⟩ := h
  obtain ⟨rfl, e, rfl⟩ | ⟨req, hrecv, hdispatch⟩ := BackendReqHandler.handleRequest_cases _ hret
  · exact .inl ⟨rfl, rfl, rfl⟩
  · have hcalls := BackendReqHandler.calls_dispatch (BackendReqHandler.wired invoke) p req s.peer
    have hback := BackendReqHandler.backend_dispatch (BackendReqHandler.wired invoke) p req s.peer
    have hfinal : final (BackendReqHandler.dispatch (BackendReqHandler.wired invoke) p req s.peer) = x' := by
      obtain ⟨hd, -⟩ | ⟨e, hd, -⟩ := hdispatch
      · exact congrArg final hd
      · exact congrArg final hd
    rw [hfinal] at hcalls hback
    -- without a call the loop is left
    have hleft (hnone : ∀ c, BackendReqHandler.parse p s.peer.handler req ≠ .ok (.ok c)) : (!r.isOk) = true := by
      cases r with
      | error e => rfl
      | ok u =>
        obtain ⟨req', c, hrecv', hc, -⟩ := BackendReqHandler.accepted_cases hret (.inl rfl)
        cases hrecv.symm.trans hrecv'
        exact absurd hc (hnone c)
    rcases hv : BackendReqHandler.parse p s.peer.handler req with stop | e | c
    · rw [hv, BackendReqHandler.callsOf_stop, List.append_nil] at hcalls
      rw [hv] at hback
      exact .inl ⟨hleft (by simp [hv]), hcalls, hback⟩
    · rw [hv, BackendReqHandler.callsOf_refused, List.append_nil] at hcalls
      rw [hv] at hback
      exact .inl ⟨hleft (by simp [hv]), hcalls, hback⟩
    · rw [hv, BackendReqHandler.callsOf_call] at hcalls
      rw [hv] at hback
      exact .inr ⟨sched, truncErr, req, c, rx, hrecv, rfl, hv, hcalls, hback⟩

theorem Inv.served (h : Inv invoke b s) (hserve : Serves invoke p s s') : Inv invoke b s' := by
  have hcases := serves_cases hserve
  obtain ⟨sched, truncErr, r, x', rx, hrunning, hret, rfl⟩ := hserve
  obtain ⟨done, rest, hissued, hcalls, hback⟩ := h.ledger
  have hopen : s.closed = true → (!r.isOk) = true := fun hclosed => by
    have := h.closed hclosed
    rw [hrunning] at this
    cases this
  obtain ⟨hover, hsame, hdevice⟩ | ⟨sched, truncErr, req, c, rx', hrecv, hstream, hc, hcall, hdevice⟩ := hcases
  · refine ⟨h.maxQueueNum, h.composed, hopen, ?_, done, rest, hissued, hsame ▸ hcalls, fun hrun => ?_⟩
    · rw [hdevice, hsame, h.device]
    · exact absurd (hover.symm.trans hrun) nofun
  · obtain _ | ⟨q, rest⟩ := rest
    · exact absurd hrecv (recvRequest_empty (hback hrunning))
    · obtain ⟨hm, hmax⟩ := h.composed q (by rw [hissued]; simp)
      have hfits := FrontendOp.compose_fits hm
      obtain ⟨hlen, -⟩ := FrontendOp.isValid_headerOf q.node hfits
      obtain ⟨rfl, hrest⟩ := recvRequest_filled hlen hfits.fds_le (hback hrunning) hrecv
      refine ⟨h.maxQueueNum, h.composed, hopen, ?_, done ++ [q], rest, ?_, ?_, fun _ => hstream.trans hrest⟩
      · rw [hdevice, hcall, List.foldl_append, ← h.device]
        rfl
      · rw [hissued, List.append_assoc]
        rfl
      · rw [hcall]
        exact List.rel_append hcalls (.cons (FrontendOp.parse_delivers hmax hm hc) .nil)

theorem Inv.step (h : Inv invoke b s) (hstep : Step invoke p s s') : Inv invoke b s' := by
  cases hstep with
  | setHdrFlags flags hidle =>
    obtain ⟨done, rest, hledger⟩ := h.ledger
    exact ⟨h.maxQueueNum, h.composed, h.closed, h.device, done, rest, hledger.issued, hledger.calls, hledger.toBackend⟩
  | refused op e y hidle hstart => exact h.refused hstart
  | sent op m hdr y hidle hm hstart => exact h.sent hm hstart
  | served s' hserve => exact h.served hserve
  | shutDown hover =>
    obtain ⟨done, rest, hledger⟩ := h.ledger
    exact ⟨h.maxQueueNum, h.composed, fun _ => hover, h.device, done, rest, hledger.issued, hledger.calls, hledger.toBackend⟩
  | returned op hdr y hcalling hy hread => exact h.returned hy

theorem Reachable.inv {maxQueueNum : UInt64} (hmax : maxQueueNum ≤ 0x8000)
    (h : Reachable invoke p maxQueueNum b s) : Inv invoke b s := by
  induction h with
  | refl => exact inv_new hmax
  | tail _ hstep ih => exact ih.step hstep

/-! ## Every request is served -/

/-- The handler does not fail for good. -/
theorem Serves.error (h : Serves invoke p s s') : s'.peer.handler.error = s.peer.handler.error := by
  obtain ⟨sched, truncErr, r, x', rx, -, hret, rfl⟩ := h
  obtain ⟨rfl, -⟩ | ⟨req, -, hdispatch⟩ := BackendReqHandler.handleRequest_cases _ hret
  · rfl
  · have hkept := @BackendReqHandler.error_actOn _ _ (BackendReqHandler.wired invoke) p s.peer req
    unfold BackendReqHandler.actOn at hkept
    obtain ⟨hd, -⟩ | ⟨e, hd, -⟩ := hdispatch
    · rwa [hd] at hkept
    · rwa [hd] at hkept

theorem Reachable.error {maxQueueNum : UInt64} (h : Reachable invoke p maxQueueNum b s) :
    s.peer.handler.error = none := by
  induction h with
  | refl => rfl
  | tail _ hstep ih =>
    cases hstep with
    | served s' hserve => exact hserve.error.trans ih
    | setHdrFlags _ _ | refused _ _ _ _ _ | sent _ _ _ _ _ _ _ | shutDown _ | returned _ _ _ _ _ _ => exact ih

theorem ServesPrompt.serves (h : ServesPrompt invoke p s s') : Serves invoke p s s' := by
  obtain ⟨sched, truncErr, r, x', rx, -, hrunning, hret, hs'⟩ := h
  exact ⟨sched, truncErr, r, x', rx, hrunning, hret, hs'⟩

/-- What the handler reads is the request at the front. -/
theorem nextOf_cells {q : Pending} (hq : Composed q) {x : Ctx BackendReqHandler β Call Wire} (herr : x.handler.error = none)
    (truncErr : Errno) (rest : List Pending) :
    BackendReqHandler.nextOf truncErr x ((q :: rest).flatMap Pending.cells) =
      .ok (FrontendOp.arrived q.node q.msg, rest.flatMap Pending.cells) := by
  have hfits := FrontendOp.compose_fits hq.1
  obtain ⟨hlen, hvalid⟩ := FrontendOp.isValid_headerOf q.node hfits
  have hnext : nextRequest BackendReqHandler.checkAttachedFiles (fun _ => true) truncErr
      (q.cells ++ rest.flatMap Pending.cells) =
        .ok (FrontendOp.arrived q.node q.msg, rest.flatMap Pending.cells) :=
    nextRequest_message hvalid hlen (fun _ _ => rfl) (FrontendOp.checkAttachedFiles_headerOf hq.1)
  rw [BackendReqHandler.nextOf, BackendReqHandler.checkState, herr, List.flatMap_cons]
  exact congrArg orStop hnext

/-- A running thread that has everything at hand takes the next request: it serves it, or the request fails. -/
theorem Inv.serves (h : Inv invoke b s) (herr : s.peer.handler.error = none) (hrunning : s.gaveUp = false)
    {done rest : List Pending} {q : Pending} (hledger : s.Ledger done (q :: rest)) :
    ∃ s', ServesPrompt invoke p s s' ∧ (s'.gaveUp = false ∨
      ∃ e, BackendReqHandler.actOn (BackendReqHandler.wired invoke) p s.peer (FrontendOp.arrived q.node q.msg) =
        (s'.peer, some (.err e))) := by
  have hmem (q' : Pending) (hq' : q' ∈ q :: rest) : Composed q' := by
    refine h.composed q' ?_
    rw [hledger.issued]
    exact List.mem_append_right _ hq'
  have hfds : ∀ c ∈ s.toBackend, c.fds.length ≤ maxAttachedFdEntries := by
    intro c hc
    rw [hledger.toBackend hrunning] at hc
    obtain ⟨q', hq', hc⟩ := List.mem_flatMap.1 hc
    rw [Pending.cells, FrontendOp.request] at hc
    exact BackendReqHandler.fds_of_mem_cells (FrontendOp.compose_fits (hmem q' hq').1).fds_le hc
  have hnext := nextOf_cells (hmem q List.mem_cons_self) herr .EINTR rest
  rw [← hledger.toBackend hrunning] at hnext
  have hprompt := BackendReqHandler.prompt_replicate s.toBackend .EINTR
  obtain ⟨e, rx, hnone, -⟩ | ⟨req, rx, htakes, -⟩ := @BackendReqHandler.handleRequest_prompt _ _
    (BackendReqHandler.wired invoke) p s.peer ⟨s.toBackend, _, .EINTR⟩ hfds hprompt
  · cases hnext.symm.trans hnone
  · obtain ⟨rfl, -⟩ := Prod.mk.inj (Except.ok.inj (hnext.symm.trans htakes.next))
    obtain ⟨x', -, hret⟩ | ⟨e, x', hact, hret⟩ := htakes.acted
    · exact ⟨_, ⟨_, _, _, _, _, hprompt, hrunning, hret, rfl⟩, .inl rfl⟩
    · exact ⟨_, ⟨_, _, _, _, _, hprompt, hrunning, hret, rfl⟩, .inr ⟨e, hact⟩⟩

/-- The thread has left its loop at a request that failed, after those before it. -/
def FailedAt (invoke : (c : Call) → β → c.Res × β) (p : Platform) (b : β) (s : Session β) : Prop :=
  ∃ done q rest x e, s.issued = done ++ q :: rest ∧ List.Forall₂ (fun q c => q.op.Delivers c) done x.calls ∧
    x.backend = x.calls.foldl (fun b c => (invoke c b).2) b ∧
    BackendReqHandler.actOn (BackendReqHandler.wired invoke) p x (FrontendOp.arrived q.node q.msg) = (s.peer, some (.err e))

/-- A running thread that has everything at hand comes to the end of what was sent, or to a request that fails. -/
theorem Inv.drains (h : Inv invoke b s) (herr : s.peer.handler.error = none) (hrunning : s.gaveUp = false) :
    ∃ s', Relation.ReflTransGen (ServesPrompt invoke p) s s' ∧
      (s'.gaveUp = false ∧ List.Forall₂ (fun q c => q.op.Delivers c) s.issued s'.peer.calls ∨ FailedAt invoke p b s') := by
  -- each turn makes one call more than before
  induction hn : s.issued.length - s.peer.calls.length using Nat.strong_induction_on generalizing s with
  | _ n ih =>
    obtain ⟨done, rest, hledger⟩ := h.ledger
    have hlen := hledger.calls.length_eq
    have hissued := congrArg List.length hledger.issued
    rw [List.length_append] at hissued
    cases rest with
    | nil =>
      refine ⟨s, .refl, .inl ⟨hrunning, ?_⟩⟩
      rw [hledger.issued, List.append_nil]
      exact hledger.calls
    | cons q rest =>
      obtain ⟨s₁, hprompt, hend⟩ := h.serves (p := p) herr hrunning hledger
      have hserve := hprompt.serves
      have hsame : s₁.issued = s.issued := by
        obtain ⟨_, _, _, _, _, -, -, rfl⟩ := hserve
        rfl
      obtain hrunning₁ | ⟨e, hact⟩ := hend
      · obtain ⟨hover, -⟩ | ⟨_, _, _, c, _, -, -, -, hcall, -⟩ := serves_cases hserve
        · cases hrunning₁.symm.trans hover
        · have hmore := congrArg List.length hcall
          rw [List.length_append, List.length_singleton] at hmore
          rw [List.length_cons] at hissued
          obtain ⟨s', hrun, hend⟩ :=
            ih _ (by rw [hsame]; omega) (h.served hserve) (hserve.error.trans herr) hrunning₁ rfl
          exact ⟨s', .head hprompt hrun, hsame ▸ hend⟩
      · exact ⟨s₁, .single hprompt, .inr ⟨done, q, rest, s.peer, e, hsame.trans hledger.issued, hledger.calls, h.device, hact⟩⟩

/-- The device has seen what was asked of it. -/
structure InOrder (invoke : (c : Call) → β → c.Res × β) (p : Platform) (b : β) (s : Session β) : Prop where
  /-- The calls are those of the requests that were sent first; the others are on their way, complete and in
  order, unless the thread has given up. -/
  calls : ∃ done rest, s.issued = done ++ rest ∧ List.Forall₂ (fun q c => q.op.Delivers c) done s.peer.calls ∧
    (s.gaveUp = false → s.toBackend = rest.flatMap Pending.cells)
  device : s.peer.backend = s.peer.calls.foldl (fun b c => (invoke c b).2) b
  /-- A thread that has everything at hand serves all that was sent, or comes to a request that fails. -/
  served : s.gaveUp = false → ∃ s', Relation.ReflTransGen (ServesPrompt invoke p) s s' ∧
    (s'.gaveUp = false ∧ List.Forall₂ (fun q c => q.op.Delivers c) s.issued s'.peer.calls ∨ FailedAt invoke p b s')

/-- **No call is lost, made twice, changed or overtaken**, whatever the frontend does, whatever the device
answers, however the connection cuts the requests, and in whatever order the two parties move. -/
theorem session_inOrder (invoke : (c : Call) → β → c.Res × β) (p : Platform) (maxQueueNum : UInt64)
    (hmax : maxQueueNum ≤ 0x8000) (b : β) (s : Session β) (hs : Reachable invoke p maxQueueNum b s) :
    InOrder invoke p b s := by
  have h := hs.inv hmax
  obtain ⟨done, rest, hledger⟩ := h.ledger
  exact ⟨⟨done, rest, hledger.issued, hledger.calls, hledger.toBackend⟩, h.device,
    fun hrunning => h.drains hs.error hrunning⟩

/-- The request `SET_VRING_NUM` for ring 1 of a frontend with four rings. -/
def numPending : Pending :=
  ⟨.setVringNum 1 256, Frontend.new 4, ⟨.setVringNum, ByteValued.asSlice (⟨1, 256⟩ : VhostUserVringState), []⟩⟩

/-- It has been sent. -/
def numAsked : Session Unit :=
  { new 4 () with
    calling := some (numPending.op, numPending.hdr)
    toBackend := numPending.cells
    issued := [numPending] }

/-- The request is sent and served. -/
theorem session_inOrder_num : ∃ s : Session Unit,
    Reachable BackendReqHandler.numbering.invoke ⟨false, fun _ _ => .ok 1⟩ 4 () s ∧
      s.peer.calls = [.setVringNum 1 256] ∧
      InOrder BackendReqHandler.numbering.invoke ⟨false, fun _ _ => .ok 1⟩ () s := by
  have hsent : Step BackendReqHandler.numbering.invoke ⟨false, fun _ _ => .ok 1⟩ (new 4 ()) numAsked :=
    .sent numPending.op numPending.msg numPending.hdr
      ⟨Frontend.new 4, ⟨numPending.cells, ⟨[], []⟩, false⟩⟩ rfl rfl rfl
  have hserve : Serves BackendReqHandler.numbering.invoke ⟨false, fun _ _ => .ok 1⟩ numAsked _ :=
    ⟨[.bytes 12, .bytes 8], .EINTR, .ok (), _, ⟨[], [], .EINTR⟩, rfl, rfl, rfl⟩
  have hs := Relation.ReflTransGen.refl.tail hsent |>.tail (.served _ hserve)
  exact ⟨_, hs, rfl, session_inOrder _ _ 4 (by decide) () _ hs⟩

end Session

end VhostUser
