import VhostUser.Lib.Progress
import VhostUser.RequestLoop
/-!
# The daemon and its connections (`vhost-user-backend/src/lib.rs`)

`start_daemon` spawns a thread for a connection and keeps two things of it: the join handle, and the connection
state that shutdown handles share. Handles are used from any thread while the daemon waits; a second `start`
leaves the first thread running, and both serve the same handler behind its mutex. Here the daemon, the threads,
the holders of handles, the peers and the workers move in any order.

| here | there |
| --- | --- |
| `Phase`       | the thread of `start_daemon` (`:179-189`): in its loop, before its `conn.shutdown`, returned, panicked |
| `Conn`        | a connection: its `BackendReqHandler`, its `ConnectionState` (`:98-101`), its thread |
| `VhostUserDaemon` | `:124-129`; `conns` are the connections ever started, in order |
| `start`       | `start_daemon` (`:167-195`) |
| `wait`        | `:238-267`; `none` while it blocks in `join` |
| `shutdownHandle` | `shutdown_handle` (`:270-274`) |
| `Conn.Step`   | `ShutdownHandle::shutdown` (`:113-116`) in its two halves, the peer, and the thread |
| `drop`        | `:339-345` |
-/
namespace VhostUser
open Bytes EState Consume Progress

inductive Phase where
  | serving
  | leaving (e : Error)
  | finished (e : Error)
  | panicked
deriving DecidableEq, Repr

structure Conn (τ : Type) where
  handler : BackendReqHandler
  sock : τ
  /-- What has arrived and was not read. -/
  stream : List Cell
  /-- Somebody has a handle. -/
  handed : Bool
  shutdownRequested : Bool
  /-- `Shutdown::Both` has taken effect: nothing more arrives, what has arrived can still be read. -/
  shut : Bool
  thread : Phase
  /-- **ghost**: it was shut from this side while the thread was in its loop. -/
  cut : Bool

structure VhostUserDaemon (β τ : Type) where
  handler : β
  mainThread : Option Nat
  connState : Option Nat
  conns : List (Conn τ)
  dropped : Bool

namespace Conn
variable {τ β : Type}

def new (sock : τ) : Conn τ := ⟨.new, sock, [], false, false, false, .serving, false⟩

/-- `conn.shutdown(Shutdown::Both)`. -/
def shutdown (c : Conn τ) : Conn τ := { c with shut := true, cut := c.cut || c.thread == .serving }

def ctx (c : Conn τ) (h : β) : Ctx BackendReqHandler β Call τ := ⟨c.handler, h, c.sock, []⟩

/-- After `handle_request` has returned. -/
def served (c : Conn τ) (r : Except Error Unit) (x : Ctx BackendReqHandler β Call τ) (s : RxSock) : Conn τ :=
  { c with
    handler := x.handler
    sock := x.sock
    stream := s.stream
    thread := match r with
      | .ok () => .serving
      | .error e => .leaving e }

inductive Act where
  | request | shutdown | arrive | serve | panic | leave
deriving DecidableEq, Repr

/-- A move of the connection's thread. -/
def Act.isThread : Act → Bool
  | serve | panic | leave => true
  | request | shutdown | arrive => false

section Step
variable {ι : Type} (svc : ι → BackendReqHandler.Svc β τ) (p : Platform)

/-- What happens to a connection, in front of the handler `h`. A handle stores its request before it shuts the
connection down. -/
inductive Step (c : Conn τ) (h : β) : Act → Conn τ → β → Prop where
  | request : c.handed = true → Step c h .request { c with shutdownRequested := true } h
  | shutdown : c.shutdownRequested = true → Step c h .shutdown c.shutdown h
  | arrive (cells : List Cell) : c.shut = false → Step c h .arrive { c with stream := c.stream ++ cells } h
  | serve (a : ι) (sched : List Io) (truncErr : Errno) (r : Except Error Unit) (x : Ctx BackendReqHandler β Call τ)
      (s : RxSock) : c.thread = .serving →
      BackendReqHandler.handleRequest (svc a) p (c.ctx h) ⟨c.stream, sched, truncErr⟩ = .ret (r, x, s) →
      Step c h .serve (c.served r x s) x.backend
  | panic : c.thread = .serving → Step c h .panic { c with thread := .panicked } h
  | leave (e : Error) : c.thread = .leaving e → Step c h .leave { c.shutdown with thread := .finished e } h

end Step

/-! ## A thread that is to stop -/

/-- An upper bound for the moves the thread still has. -/
def rank (c : Conn τ) : Nat :=
  match c.thread with
  | .serving => c.stream.length + 2
  | .leaving _ => 1
  | .finished _ | .panicked => 0

/-- Shut down, with what one receive can take on every byte that is left. -/
def Stopping (c : Conn τ) : Prop :=
  c.shut = true ∧ (c.thread = .serving → ∀ cell ∈ c.stream, cell.fds.length ≤ maxAttachedFdEntries)

section Stopping
variable {ι : Type} {svc : ι → BackendReqHandler.Svc β τ} {p : Platform} {c c' : Conn τ} {h h' : β} {act : Act}

/-- One turn of the loop takes bytes off the stream, or ends the loop. -/
theorem Stopping.served {a : ι} {sched : List Io} {truncErr : Errno} {r : Except Error Unit}
    {x : Ctx BackendReqHandler β Call τ} {s : RxSock} (hc : c.Stopping) (hserving : c.thread = .serving)
    (hret : BackendReqHandler.handleRequest (svc a) p (c.ctx h) ⟨c.stream, sched, truncErr⟩ = .ret (r, x, s)) :
    (c.served r x s).Stopping ∧ (c.served r x s).rank < c.rank := by
  have hrank : c.rank = c.stream.length + 2 := by rw [rank, hserving]
  have hleft {e : Error} (hr : r = .error e) : (c.served r x s).Stopping ∧ (c.served r x s).rank < c.rank := by
    subst hr
    rw [hrank]
    exact ⟨⟨hc.1, nofun⟩, Nat.succ_lt_succ (Nat.succ_pos _)⟩
  obtain hwait | ⟨e, s', herr⟩ | ⟨req, s', htakes⟩ := @BackendReqHandler.handleRequest_steps _ _ (svc a) p (c.ctx h)
    ⟨c.stream, sched, truncErr⟩ (hc.2 hserving)
  · rw [hwait] at hret
    cases hret
  · rw [herr] at hret
    cases hret
    exact hleft rfl
  · obtain ⟨hsub, hlt⟩ := BackendReqHandler.nextOf_rest htakes.next
    obtain ⟨x', -, hok⟩ | ⟨e, x', -, herr⟩ := htakes.acted
    · rw [hok] at hret
      cases hret
      exact ⟨⟨hc.1, fun _ cell hcell => hc.2 hserving cell (hsub.subset hcell)⟩,
        by rw [hrank]; exact Nat.add_lt_add_right hlt 2⟩
    · rw [herr] at hret
      cases hret
      exact hleft rfl

/-- **What a move does to a connection that was shut down.** -/
theorem Step.stopping (hc : c.Stopping) (hstep : Step svc p c h act c' h') :
    c'.Stopping ∧ c'.rank ≤ c.rank ∧ (act.isThread = true → c'.rank < c.rank) := by
  cases hstep with
  | request _ => exact ⟨hc, le_rfl, nofun⟩
  | shutdown _ => exact ⟨⟨rfl, hc.2⟩, le_rfl, nofun⟩
  | arrive cells hopen =>
    rw [hc.1] at hopen
    cases hopen
  | serve a sched truncErr r x s hserving hret =>
    obtain ⟨hstopping, hlt⟩ := hc.served hserving hret
    exact ⟨hstopping, hlt.le, fun _ => hlt⟩
  | panic hserving =>
    have hrank : c.rank = c.stream.length + 2 := by rw [rank, hserving]
    rw [hrank]
    exact ⟨⟨hc.1, nofun⟩, Nat.zero_le _, fun _ => Nat.succ_pos _⟩
  | leave e hleaving =>
    have hrank : c.rank = 1 := by rw [rank, hleaving]
    rw [hrank]
    exact ⟨⟨rfl, nofun⟩, Nat.zero_le _, fun _ => Nat.succ_pos _⟩

/-- The thread of a connection that was shut down is never stuck. -/
theorem Stopping.goes [Nonempty ι] (hc : c.Stopping) (h : β) (hrank : c.rank ≠ 0) :
    ∃ act c' h', act.isThread = true ∧ Step svc p c h act c' h' := by
  cases hthread : c.thread with
  | serving =>
    obtain ⟨a⟩ := ‹Nonempty ι›
    obtain ⟨e, s, -, hret⟩ | ⟨req, s, htakes, -⟩ := @BackendReqHandler.handleRequest_prompt _ _ (svc a) p (c.ctx h)
      ⟨c.stream, _, .EINTR⟩ (hc.2 hthread) (BackendReqHandler.prompt_replicate c.stream .EINTR)
    · exact ⟨.serve, _, _, rfl, .serve a _ _ _ _ _ hthread hret⟩
    · obtain ⟨x', -, hret⟩ | ⟨e, x', -, hret⟩ := htakes.acted
      · exact ⟨.serve, _, _, rfl, .serve a _ _ _ _ _ hthread hret⟩
      · exact ⟨.serve, _, _, rfl, .serve a _ _ _ _ _ hthread hret⟩
  | leaving e => exact ⟨.leave, _, _, rfl, .leave e hthread⟩
  | finished e => exact absurd (by rw [rank, hthread]) hrank
  | panicked => exact absurd (by rw [rank, hthread]) hrank

end Stopping

/-- Shut from this side only where that was asked for. -/
def CutAsked (c : Conn τ) : Prop := c.cut = true → c.shutdownRequested = true

theorem Step.cutAsked {ι : Type} {svc : ι → BackendReqHandler.Svc β τ} {p : Platform} {c c' : Conn τ} {h h' : β}
    {act : Act} (hc : c.CutAsked) (hstep : Step svc p c h act c' h') : c'.CutAsked := by
  cases hstep with
  | request _ => exact fun _ => rfl
  | shutdown hasked => exact fun _ => hasked
  | arrive _ _ | serve _ _ _ _ _ _ _ _ | panic _ => exact hc
  | leave e hleaving =>
    intro hcut
    simp only [Conn.shutdown, hleaving, Bool.or_eq_true] at hcut
    exact hc (hcut.resolve_right (by simp))

/-- A request is never taken back. -/
theorem Step.requested {ι : Type} {svc : ι → BackendReqHandler.Svc β τ} {p : Platform} {c c' : Conn τ} {h h' : β}
    {act : Act} (hc : c.shutdownRequested = true) (hstep : Step svc p c h act c' h') : c'.shutdownRequested = true := by
  cases hstep with
  | request _ => rfl
  | _ => exact hc

end Conn

namespace VhostUserDaemon
variable {β τ : Type}

/-! ## The methods -/

def new (handler : β) : VhostUserDaemon β τ := ⟨handler, none, none, [], false⟩

def start (d : VhostUserDaemon β τ) (sock : τ) : VhostUserDaemon β τ :=
  { d with
    conns := d.conns ++ [.new sock]
    connState := some d.conns.length
    mainThread := some d.conns.length }

/-- The flag that `wait` looks at is the one of `conn_state`. -/
def shutdownRequested (d : VhostUserDaemon β τ) : Bool :=
  (d.connState.bind fun i => d.conns[i]?).any Conn.shutdownRequested

/-- A thread that panicked leaves `conn_state` behind. -/
def wait (d : VhostUserDaemon β τ) : Option (Except DaemonError Unit × VhostUserDaemon β τ) :=
  match d.mainThread with
  | none => some (.ok (), { d with connState := none })
  | some i =>
    match d.conns[i]?.map Conn.thread with
    | some (.finished e) =>
      some (waitResult (.ended e) d.shutdownRequested, { d with mainThread := none, connState := none })
    | some .panicked => some (.error .waitDaemon, { d with mainThread := none })
    | some .serving | some (.leaving _) | none => none

def shutdownHandle (d : VhostUserDaemon β τ) : Option Nat := d.connState

def drop (d : VhostUserDaemon β τ) : VhostUserDaemon β τ :=
  { d with
    conns := match d.connState with
      | some i => d.conns.modify i Conn.shutdown
      | none => d.conns
    connState := none
    mainThread := none
    dropped := true }

/-! ## The system -/

inductive Move where
  | start | handle | conn (i : Nat) (act : Conn.Act) | device | wait | drop
deriving DecidableEq

/-- A move of thread `i`. -/
def Move.ofThread (i : Nat) : Move → Bool
  | conn j act => j == i && act.isThread
  | start | handle | device | wait | drop => false

section Step
variable {ι : Type} (svc : ι → BackendReqHandler.Svc β τ) (moves : β → β → Prop) (p : Platform)

/-- One move, in the environment `svc`; the workers move the device by `moves`. -/
inductive Step (d : VhostUserDaemon β τ) : Move → VhostUserDaemon β τ → Prop where
  | start (sock : τ) : d.dropped = false → Step d .start (d.start sock)
  | handle (i : Nat) (c : Conn τ) : d.dropped = false → d.shutdownHandle = some i → d.conns[i]? = some c →
      Step d .handle { d with conns := d.conns.set i { c with handed := true } }
  | conn (i : Nat) (act : Conn.Act) (c c' : Conn τ) (h : β) : d.conns[i]? = some c →
      Conn.Step svc p c d.handler act c' h →
      Step d (.conn i act) { d with handler := h, conns := d.conns.set i c' }
  | device (h : β) : moves d.handler h → Step d .device { d with handler := h }
  | wait (r : Except DaemonError Unit) (d' : VhostUserDaemon β τ) : d.dropped = false → d.wait = some (r, d') →
      Step d .wait d'
  | drop : d.dropped = false → Step d .drop d.drop

def Reachable (h : β) (d : VhostUserDaemon β τ) : Prop := ∃ as, Run (Step svc moves p) (new h) as d

end Step

section Inv
variable {ι : Type} {svc : ι → BackendReqHandler.Svc β τ} {moves : β → β → Prop} {p : Platform}
  {d d' : VhostUserDaemon β τ} {a : Move}

/-- `wait` changes nothing but what the daemon keeps of the connection. -/
theorem wait_conns {r : Except DaemonError Unit} (hwait : d.wait = some (r, d')) :
    d'.conns = d.conns ∧ d'.handler = d.handler ∧ d'.dropped = d.dropped ∧ d'.mainThread = none ∧
      (d'.connState = none ∨ d'.connState = d.connState) := by
  unfold wait at hwait
  split at hwait
  · rename_i hnone
    cases hwait
    exact ⟨rfl, rfl, rfl, hnone, .inl rfl⟩
  · split at hwait
    · cases hwait
      exact ⟨rfl, rfl, rfl, rfl, .inl rfl⟩
    · cases hwait
      exact ⟨rfl, rfl, rfl, rfl, .inr rfl⟩
    all_goals cases hwait

/-- What the daemon keeps is about the connection it started last, and no connection was shut from this side
before that was asked for. -/
structure Inv (d : VhostUserDaemon β τ) : Prop where
  last : ∀ i, d.connState = some i → i + 1 = d.conns.length
  current : ∀ i, d.mainThread = some i → d.connState = some i
  cut : d.dropped = false → ∀ c ∈ d.conns, c.CutAsked

/-- Nothing is kept. -/
theorem Inv.idle (hstate : d.connState = none) (hmain : d.mainThread = none)
    (hcut : d.dropped = false → ∀ c ∈ d.conns, c.CutAsked) : Inv d where
  last i hi := by
    rw [hstate] at hi
    cases hi
  current i hi := by
    rw [hmain] at hi
    cases hi
  cut := hcut

theorem Inv.set (hd : Inv d) {i : Nat} {c : Conn τ} (h : β) (hc : d.dropped = false → c.CutAsked) :
    Inv { d with handler := h, conns := d.conns.set i c } where
  last j hj := by
    rw [List.length_set]
    exact hd.last j hj
  current := hd.current
  cut hopen c' hc' := by
    obtain hold | rfl := List.mem_or_eq_of_mem_set hc'
    · exact hd.cut hopen c' hold
    · exact hc hopen

theorem Inv.step (hd : Inv d) (hstep : Step svc moves p d a d') : Inv d' := by
  cases hstep with
  | start sock hopen =>
    refine ⟨fun i hi => ?_, fun i hi => hi, fun _ c hc => ?_⟩
    · cases hi
      exact (List.length_append : (d.conns ++ [Conn.new sock]).length = _).symm
    · obtain hc | hc := List.mem_append.1 hc
      · exact hd.cut hopen c hc
      · cases List.mem_singleton.1 hc
        exact nofun
  | handle i c hopen hhandle hc => exact hd.set d.handler fun _ => hd.cut hopen c (List.mem_of_getElem? hc)
  | conn i act c c' h hc hconn => exact hd.set h fun hopen => hconn.cutAsked (hd.cut hopen c (List.mem_of_getElem? hc))
  | device h hmoves => exact ⟨hd.last, hd.current, hd.cut⟩
  | wait r d' hopen hwait =>
    obtain ⟨hconns, -, hdropped, hmain, hstate⟩ := wait_conns hwait
    refine ⟨fun i hi => ?_, fun i hi => ?_, ?_⟩
    · rw [hconns]
      obtain hnone | hsame := hstate
      · rw [hnone] at hi
        cases hi
      · exact hd.last i (hsame ▸ hi)
    · rw [hmain] at hi
      cases hi
    · rw [hconns, hdropped]
      exact hd.cut
  | drop _ => exact .idle rfl rfl nofun

theorem Inv.run {as : List Move} (hd : Inv d) (hrun : Run (Step svc moves p) d as d') : Inv d' := by
  induction hrun with
  | nil => exact hd
  | cons hstep _ ih => exact ih (hd.step hstep)

theorem Reachable.inv {h : β} (hd : Reachable svc moves p h d) : Inv d := by
  obtain ⟨as, hrun⟩ := hd
  exact Inv.run (.idle rfl rfl fun _ c hc => absurd hc List.not_mem_nil) hrun

/-! ## The result of `wait` -/

/-- What `wait` says of the connection that was started last. -/
structure Reports (c : Conn τ) (r : Except DaemonError Unit) : Prop where
  panicked : c.thread = .panicked → r = .error .waitDaemon
  /-- A failed request is an error unless the connection was to be shut down. -/
  ok_iff : ∀ e, c.thread = .finished e → (r = .ok () ↔ c.shutdownRequested = true ∨ ∃ n, e = .socketBroken n)
  /-- What it reports is the failed request, and the connection was not shut from this side before that. -/
  error : ∀ e err, c.thread = .finished e → r = .error err → err = .handleRequest e ∧ c.cut = false

theorem waitResult_ended (e : Error) (requested : Bool) :
    (waitResult (.ended e) requested = .ok () ↔ requested = true ∨ ∃ n, e = .socketBroken n) ∧
      ∀ err, waitResult (.ended e) requested = .error err → err = .handleRequest e ∧ requested = false := by
  unfold waitResult
  split
  · rename_i n heq
    cases heq
    exact ⟨iff_of_true rfl (.inr ⟨n, rfl⟩), nofun⟩
  · rename_i e' hbroken heq
    cases heq
    cases requested with
    | true => exact ⟨iff_of_true rfl (.inl rfl), nofun⟩
    | false =>
      refine ⟨iff_of_false nofun ?_, fun err herr => ?_⟩
      · rintro (hr | ⟨n, hn⟩)
        · cases hr
        · subst hn
          exact hbroken n rfl
      · cases herr
        exact ⟨rfl, rfl⟩
  all_goals
    rename_i heq
    cases heq

/-- **The result of `wait`**, however the threads, the handles and the peers are interleaved. Without a thread to
wait for it is `Ok`. Otherwise it is about the connection started last: a failed request is reported exactly if
nobody asked for a shutdown, and never where this side had shut the connection down before. -/
theorem wait_reports {h : β} (hd : Reachable svc moves p h d) (hopen : d.dropped = false) {r : Except DaemonError Unit}
    (hwait : d.wait = some (r, d')) :
    (d.mainThread = none ∧ r = .ok ()) ∨ ∃ c, d.conns.getLast? = some c ∧ Reports c r := by
  have hinv := hd.inv
  unfold wait at hwait
  split at hwait
  · rename_i hnone
    cases hwait
    exact .inl ⟨hnone, rfl⟩
  · rename_i i hmain
    have hstate := hinv.current i hmain
    have hlast : d.conns[i]? = d.conns.getLast? := by
      rw [List.getLast?_eq_getElem?, ← hinv.last i hstate, Nat.add_sub_cancel]
    split at hwait
    · rename_i e hthread
      obtain ⟨c, hc, hthread⟩ := Option.map_eq_some_iff.1 hthread
      have hflag : d.shutdownRequested = c.shutdownRequested := by
        rw [shutdownRequested, hstate, Option.bind_some, hc]
        rfl
      cases hwait
      rw [hflag]
      obtain ⟨hok, herr⟩ := waitResult_ended e c.shutdownRequested
      refine .inr ⟨c, hlast ▸ hc, fun hp => ?_, fun e' he => ?_, fun e' err he hr => ?_⟩
      · rw [hthread] at hp
        cases hp
      · rw [hthread] at he
        cases he
        exact hok
      · rw [hthread] at he
        cases he
        obtain ⟨heq, hnot⟩ := herr err hr
        refine ⟨heq, ?_⟩
        -- shut from this side: then it was asked for
        by_contra hcut
        have hasked := hinv.cut hopen c (List.mem_of_getElem? hc) (Bool.not_eq_false _ ▸ hcut)
        rw [hnot] at hasked
        cases hasked
    · rename_i hthread
      obtain ⟨c, hc, hthread⟩ := Option.map_eq_some_iff.1 hthread
      cases hwait
      refine .inr ⟨c, hlast ▸ hc, fun _ => rfl, fun e' he => ?_, fun e' err he hr => ?_⟩
      · rw [hthread] at he
        cases he
      · rw [hthread] at he
        cases he
    all_goals cases hwait

/-! ## A shutdown -/

/-- **What one move does to a connection** that is there: one of its own, or at most it is handed out or shut down. -/
theorem Step.conn_at (hstep : Step svc moves p d a d') {i : Nat} {c : Conn τ} (hc : d.conns[i]? = some c) :
    ∃ c', d'.conns[i]? = some c' ∧
      ((a.ofThread i = false ∧ (c' = c ∨ c' = { c with handed := true } ∨ c' = c.shutdown)) ∨
        ∃ act h, a = .conn i act ∧ Conn.Step svc p c d.handler act c' h) := by
  have hlt := (List.getElem?_eq_some_iff.1 hc).1
  cases hstep with
  | start sock _ => exact ⟨c, (List.getElem?_append_left hlt).trans hc, .inl ⟨rfl, .inl rfl⟩⟩
  | handle j cj _ _ hj =>
    by_cases hji : j = i
    · subst hji
      cases hj.symm.trans hc
      exact ⟨_, List.getElem?_set_self hlt, .inl ⟨rfl, .inr (.inl rfl)⟩⟩
    · exact ⟨c, (List.getElem?_set_ne hji).trans hc, .inl ⟨rfl, .inl rfl⟩⟩
  | conn j act cj c' h hj hconn =>
    by_cases hji : j = i
    · subst hji
      cases hj.symm.trans hc
      exact ⟨c', List.getElem?_set_self hlt, .inr ⟨act, h, rfl, hconn⟩⟩
    · exact ⟨c, (List.getElem?_set_ne hji).trans hc, .inl ⟨by simp [Move.ofThread, hji], .inl rfl⟩⟩
  | device h _ => exact ⟨c, hc, .inl ⟨rfl, .inl rfl⟩⟩
  | wait r d' _ hwait => exact ⟨c, (wait_conns hwait).1 ▸ hc, .inl ⟨rfl, .inl rfl⟩⟩
  | drop _ =>
    cases hstate : d.connState with
    | none =>
      refine ⟨c, ?_, .inl ⟨rfl, .inl rfl⟩⟩
      rw [VhostUserDaemon.drop, hstate]
      exact hc
    | some j =>
      have hmod : d.drop.conns = d.conns.modify j Conn.shutdown := by rw [VhostUserDaemon.drop, hstate]
      by_cases hji : j = i
      · refine ⟨c.shutdown, ?_, .inl ⟨rfl, .inr (.inr rfl)⟩⟩
        simp [hmod, hc, hji]
      · refine ⟨c, ?_, .inl ⟨rfl, .inl rfl⟩⟩
        simp [hmod, hc, hji]

/-- Connection `i` was shut down on request. -/
def StoppingAt (i : Nat) (d : VhostUserDaemon β τ) : Prop :=
  ∃ c, d.conns[i]? = some c ∧ c.Stopping ∧ c.shutdownRequested = true

/-- The moves thread `i` still has. -/
def rankAt (i : Nat) (d : VhostUserDaemon β τ) : Nat := d.conns[i]?.elim 0 Conn.rank

theorem rankAt_eq {i : Nat} {c : Conn τ} (hc : d.conns[i]? = some c) : d.rankAt i = c.rank := by
  rw [rankAt, hc]
  rfl

theorem StoppingAt.step {i : Nat} (hd : StoppingAt i d) (hstep : Step svc moves p d a d') :
    StoppingAt i d' ∧ d'.rankAt i ≤ d.rankAt i ∧ (a.ofThread i = true → d'.rankAt i < d.rankAt i) := by
  obtain ⟨c, hc, hstopping, hasked⟩ := hd
  obtain ⟨c', hc', ⟨hother, hmove⟩ | ⟨act, h, rfl, hconn⟩⟩ := hstep.conn_at hc
  · rw [rankAt_eq hc, rankAt_eq hc', hother]
    obtain rfl | rfl | rfl := hmove
    · exact ⟨⟨c', hc', hstopping, hasked⟩, le_rfl, nofun⟩
    · exact ⟨⟨_, hc', hstopping, hasked⟩, le_rfl, nofun⟩
    · exact ⟨⟨_, hc', ⟨rfl, hstopping.2⟩, hasked⟩, le_rfl, nofun⟩
  · rw [rankAt_eq hc, rankAt_eq hc']
    obtain ⟨hstopping', hle, hlt⟩ := hconn.stopping hstopping
    refine ⟨⟨c', hc', hstopping', hconn.requested hasked⟩, hle, fun hown => hlt ?_⟩
    simpa [Move.ofThread] using hown

/-- It goes on until it is gone. -/
theorem StoppingAt.goes [Nonempty ι] {i : Nat} (hd : StoppingAt i d) (hrank : d.rankAt i ≠ 0) :
    ∃ a d', a.ofThread i = true ∧ Step svc moves p d a d' := by
  obtain ⟨c, hc, hstopping, -⟩ := hd
  obtain ⟨act, c', h, hown, hconn⟩ := @Conn.Stopping.goes _ _ _ svc p c _ hstopping d.handler (rankAt_eq hc ▸ hrank)
  exact ⟨.conn i act, _, by simp [Move.ofThread, hown], .conn i act c c' h hc hconn⟩

/-- The thread has returned or panicked, and a `wait` that was for it returns. -/
def Stopped (i : Nat) (d : VhostUserDaemon β τ) : Prop :=
  ∃ c, d.conns[i]? = some c ∧ (c.thread = .panicked ∨ ∃ e, c.thread = .finished e) ∧
    (d.mainThread = some i → ∃ r d', d.wait = some (r, d') ∧ (r = .ok () ∨ c.thread = .panicked))

theorem StoppingAt.stopped {i : Nat} (hd : StoppingAt i d) (hinv : Inv d) (hrank : d.rankAt i = 0) : Stopped i d := by
  obtain ⟨c, hc, -, hasked⟩ := hd
  rw [rankAt_eq hc] at hrank
  cases hthread : c.thread with
  | serving => simp [Conn.rank, hthread] at hrank
  | leaving e => simp [Conn.rank, hthread] at hrank
  | panicked =>
    refine ⟨c, hc, .inl hthread, fun hmain => ?_⟩
    simp only [VhostUserDaemon.wait, hmain, hc, Option.map_some, hthread]
    exact ⟨_, _, rfl, .inr trivial⟩
  | finished e =>
    refine ⟨c, hc, .inr ⟨e, hthread⟩, fun hmain => ?_⟩
    have hflag : d.shutdownRequested = true := by
      rw [shutdownRequested, hinv.current i hmain, Option.bind_some, hc]
      exact hasked
    simp only [VhostUserDaemon.wait, hmain, hc, Option.map_some, hthread, hflag]
    exact ⟨_, _, rfl, .inl ((waitResult_ended e true).1.2 (.inl rfl))⟩

end Inv

/-! A daemon with a device that only takes queue sizes. -/

section Examples

/-- Its moves; the workers do nothing. -/
abbrev NumberingStep : VhostUserDaemon Unit Unit → Move → VhostUserDaemon Unit Unit → Prop :=
  Step (fun _ : Unit => BackendReqHandler.numbering) (fun _ _ => False) ⟨false, fun _ _ => .ok 1⟩

/-- The only connection, on which nothing has arrived. -/
def quiet : Conn Unit := .new ()

def serving (c : Conn Unit) : VhostUserDaemon Unit Unit := ⟨(), some 0, some 0, [c], false⟩

/-- The peer hangs up at once, which is an error. -/
theorem wait_reports_hangup : ∃ (d d' : VhostUserDaemon Unit Unit) (c : Conn Unit),
    d.wait = some (.error (.handleRequest .disconnected), d') ∧ d.conns.getLast? = some c ∧
      Reports c (.error (.handleRequest .disconnected)) := by
  have hstart : NumberingStep (new ()) .start (serving quiet) := .start () rfl
  have hserve : NumberingStep (serving quiet) (.conn 0 .serve) (serving { quiet with thread := .leaving .disconnected }) :=
    .conn 0 .serve quiet _ () rfl (.serve () [.bytes 12] .EINTR (.error .disconnected) (quiet.ctx ()) ⟨[], [], .EINTR⟩ rfl rfl)
  have hleave : NumberingStep (serving { quiet with thread := .leaving .disconnected }) (.conn 0 .leave)
      (serving { quiet with shut := true, thread := .finished .disconnected }) :=
    .conn 0 .leave _ _ () rfl (.leave .disconnected rfl)
  have hd : Reachable _ _ _ () _ := ⟨_, .cons hstart (.cons hserve (.cons hleave (.nil _)))⟩
  obtain ⟨hnone, -⟩ | ⟨c, hc, hreports⟩ := wait_reports hd rfl (r := .error (.handleRequest .disconnected)) rfl
  · cases hnone
  · exact ⟨_, _, c, rfl, hc, hreports⟩

end Examples

end VhostUserDaemon
end VhostUser
