import VhostUser.EventLoop
/-!
# Custom listeners (`event_loop.rs:116-149`)

A device may have its own descriptors watched by a worker. `register_listener` keeps the event ids
up to the number of queues for the rings and the exit event, and compares them with the `u64` it is
given; `run` (`:187`) hands the event on as a `u16`, and `handle_event` (`:199-222`) compares again,
with the exit event and with the worker's list of rings.

| here | there |
| --- | --- |
| `registerListener`, `unregisterListener` | the two methods; the event set only says when the descriptor fires |
| `AtEvent s t data` | worker `t` has come to an event that `epoll_wait` reported with `data` |
| `Heard`            | it goes on to call the backend with `data`, and touches no ring |

* `listener_heard_iff` — the number survives exactly when it fits into 16 bits: a listener beyond
  them is taken for whatever has its lower 16 bits (`listener_taken_for_ring`).
-/
namespace VhostUser
open Trace

namespace VringEpollHandler
variable {w w' : VringEpollHandler} {numQueues : Nat} {fd : File} {data : UInt64}

/-- `io::Error::from_raw_os_error(libc::EINVAL)`. -/
def einval : IoError := ⟨.invalidInput, some 22⟩

/-- "`data` range [0...num_queues] is reserved for queues and exit event." -/
def registerListener (w : VringEpollHandler) (numQueues : Nat) (fd : File) (data : UInt64) :
    Except IoError VringEpollHandler :=
  if data.toNat ≤ numQueues then .error einval else w.registerEvent fd data

def unregisterListener (w : VringEpollHandler) (numQueues : Nat) (fd : File) (data : UInt64) :
    Except IoError VringEpollHandler :=
  if data.toNat ≤ numQueues then .error einval else w.unregisterEvent fd

/-- What is accepted: an id above the reserved ones, for a descriptor not registered yet. -/
theorem registerListener_ok : w.registerListener numQueues fd data = .ok w' ↔
    numQueues < data.toNat ∧ ¬ w.epoll.Has fd ∧ w' = { w with epoll := w.epoll ++ [(fd, data)] } := by
  unfold registerListener
  by_cases hres : data.toNat ≤ numQueues
  · simp [hres, Nat.not_lt.2 hres]
  · by_cases hhas : w.epoll.Has fd
    · simp [hres, hhas, registerEvent, Epoll.add]
    · simp only [if_neg hres, registerEvent, Epoll.add, if_neg hhas, Except.ok.injEq,
        and_iff_right (Nat.not_le.1 hres), and_iff_right hhas]
      exact eq_comm

/-- Unregistering an accepted listener undoes its registration. -/
theorem unregisterListener_registerListener (hreg : w.registerListener numQueues fd data = .ok w') :
    w'.unregisterListener numQueues fd data = .ok w := by
  obtain ⟨hlt, hnew, rfl⟩ := registerListener_ok.1 hreg
  have hkeep : (w.epoll ++ [(fd, data)]).filter (fun p => p.1 ≠ fd) = w.epoll := by
    have hall : ∀ p ∈ w.epoll, p.1 ≠ fd := fun p hp heq => hnew ⟨p.2, heq ▸ hp⟩
    rw [List.filter_append, List.filter_eq_self.2 fun p hp => by simpa using hall p hp]
    simp
  have hhas : Epoll.Has (w.epoll ++ [(fd, data)]) fd := Epoll.has_append.2 (.inr rfl)
  simp only [unregisterListener, if_neg (Nat.not_le.2 hlt), unregisterEvent, Epoll.delete, if_pos hhas, hkeep]

end VringEpollHandler

namespace Sys
variable {B M : Type} {nonblock : File → Bool} {s s' : Sys B M} {t t' : Nat} {data data' : UInt64}

/-- The event at hand in the loop of worker `t` was reported with `data`; `run` has it as a `u16`. -/
def AtEvent (s : Sys B M) (t : Nat) (data : UInt64) : Prop :=
  ∃ rest, s.workers t = ⟨data.toUInt16 :: rest, none, false⟩

/-- The first of the events an idle worker gets. -/
theorem atEvent_wait {fd : File} {events : List (File × UInt64)} (hidle : s.workers t = ⟨[], none, false⟩)
    (hsnap : s.isSnapshot t ((fd, data) :: events) = true) : (s.wait t ((fd, data) :: events)).AtEvent t data := by
  refine ⟨events.map fun p => p.2.toUInt16, ?_⟩
  simp only [wait, hidle, hsnap, if_true, workers_setWorker, List.map_cons]

/-- The device event the backend is called with after `handle_event`. -/
def deviceEvent (nonblock : File → Bool) (s : Sys B M) (t : Nat) : Option UInt16 :=
  ((s.handleEvent nonblock t).workers t).holding.map Prod.fst

/-- `handle_event` evaluates no `read_kick`, does not end the loop, and calls the backend with `data`. -/
structure Heard (nonblock : File → Bool) (s : Sys B M) (t : Nat) (data : UInt64) : Prop where
  unread : s.nextRead t = none
  called : ∃ ev rest, ev.toNat = data.toNat ∧
    s.handleEvent nonblock t = s.setWorker t ⟨rest, some (ev, []), false⟩

theorem Heard.deviceEvent (hh : s.Heard nonblock t data) :
    ∃ ev, s.deviceEvent nonblock t = some ev ∧ ev.toNat = data.toNat := by
  obtain ⟨ev, rest, hev, heq⟩ := hh.called
  refine ⟨ev, ?_, hev⟩
  rw [Sys.deviceEvent, heq, workers_setWorker, if_pos rfl]
  rfl

theorem Heard.deviceEvent_ne (hh : s.Heard nonblock t data) (hh' : s'.Heard nonblock t' data') (hne : data ≠ data') :
    s.deviceEvent nonblock t ≠ s'.deviceEvent nonblock t' := by
  obtain ⟨ev, hdev, hev⟩ := hh.deviceEvent
  obtain ⟨ev', hdev', hev'⟩ := hh'.deviceEvent
  rw [hdev, hdev']
  rintro ⟨⟩
  exact hne (UInt64.toNat_inj.1 (hev.symm.trans hev'))

/-- The three ways an event goes, by its lower 16 bits: exit, ring, or the backend. -/
theorem handleEvent_cases (nonblock : File → Bool) {ev : UInt16} {rest : List UInt16} {rings : List Nat} {exitEventFd : Option File}
    (hworker : s.workers t = ⟨ev :: rest, none, false⟩) (hlay : s.handler.layout[t]? = some (rings, exitEventFd)) :
    (ev.toNat = s.handler.numQueues ∧ s.handleEvent nonblock t = s.setWorker t ⟨[], none, true⟩) ∨
    (∃ r, rings[ev.toNat]? = some r ∧ s.nextRead t = some (ev, r)) ∨
    (rings[ev.toNat]? = none ∧ s.nextRead t = none ∧
      s.handleEvent nonblock t = s.setWorker t ⟨rest, some (ev, []), false⟩) := by
  by_cases hexit : (exitEventFd.isSome && ev.toNat == s.handler.numQueues) = true
  · refine .inl ⟨?_, by simp only [handleEvent, hworker, hlay, hexit, if_true]⟩
    rw [Bool.and_eq_true, beq_iff_eq] at hexit
    exact hexit.2
  · cases hring : rings[ev.toNat]? with
    | some r => exact .inr (.inl ⟨r, rfl, by simp [nextRead, hworker, hlay, hexit, hring]⟩)
    | none =>
      exact .inr (.inr ⟨rfl, by simp [nextRead, hworker, hlay, hexit, hring],
        by simp [handleEvent, hworker, hlay, hexit, hring]⟩)

/-- The state of worker `t` tells `s.setWorker t w` and `s.setWorker t w'` apart. -/
theorem setWorker_inj {w w' : WorkerState} (heq : s.setWorker t w = s.setWorker t w') : w = w' := by
  have hworkers := congrArg (fun s => s.workers t) heq
  simpa only [workers_setWorker, if_true] using hworkers

end Sys

/-- **A listener is heard as itself exactly when its `data` fits into 16 bits** and is no position in
the worker's list of rings, which is so for every list with at most one entry more than there are
queues. Listeners that are heard are told apart by the backend. -/
theorem listener_heard_iff {B M : Type} {nonblock : File → Bool} {s : Sys B M} {t : Nat} {fd : File}
    {data : UInt64} {w w' : VringEpollHandler}
    (hreg : w.registerListener s.handler.numQueues fd data = .ok w')
    (hlay : s.handler.layout[t]? = some (w'.vrings, w'.exitEventFd)) (hat : s.AtEvent t data) :
    (s.Heard nonblock t data ↔ data.toNat < 2 ^ 16 ∧ w.vrings.length ≤ data.toNat) ∧
      ∀ (s' : Sys B M) (t' : Nat) (data' : UInt64), data ≠ data' → s.Heard nonblock t data →
        s'.Heard nonblock t' data' → s.deviceEvent nonblock t ≠ s'.deviceEvent nonblock t' := by
  refine ⟨?_, fun s' t' data' hne hh hh' => hh.deviceEvent_ne hh' hne⟩
  obtain ⟨hlt, -, rfl⟩ := VringEpollHandler.registerListener_ok.1 hreg
  obtain ⟨rest, hworker⟩ := hat
  have hid : data.toUInt16.toNat = data.toNat % 2 ^ 16 := UInt64.toNat_toUInt16 data
  constructor
  · rintro ⟨hread, ev, rest', hev, heq⟩
    rcases Sys.handleEvent_cases nonblock hworker hlay with
      ⟨-, hstop⟩ | ⟨r, -, hnext⟩ | ⟨hring, -, hcall⟩
    · rw [hstop] at heq
      cases Sys.setWorker_inj heq
    · rw [hread] at hnext
      cases hnext
    · rw [hcall] at heq
      cases Sys.setWorker_inj heq
      have hsmall : data.toNat < 2 ^ 16 := by omega
      rw [List.getElem?_eq_none_iff, hev] at hring
      exact ⟨hsmall, hring⟩
  · rintro ⟨hsmall, hlen⟩
    have hkept : data.toUInt16.toNat = data.toNat := by rw [hid, Nat.mod_eq_of_lt hsmall]
    rcases Sys.handleEvent_cases nonblock hworker hlay with
      ⟨hexit, -⟩ | ⟨r, hring, -⟩ | ⟨-, hnext, hcall⟩
    · omega
    · have hpos : data.toUInt16.toNat < w.vrings.length := (List.getElem?_eq_some_iff.1 hring).1
      omega
    · exact ⟨hnext, data.toUInt16, rest, hkept, hcall⟩

/-! One ring, an exit event, and a listener on descriptor 7. -/

/-- The device's handler with a listener for descriptor 7 under `data`. -/
def listeningHandler (data : UInt64) : VhostUserHandler Unit (List GuestRegionMmap) :=
  { plainHandler with handlers := [⟨[(9, 1), (7, data)], [0], 0, some 9⟩] }

/-- The descriptor of the listener is written to, and the worker takes the event. -/
def listeningSys (data : UInt64) : Sys Unit (List GuestRegionMmap) :=
  run (Sys.step (plainDeps true) fun _ => true) (.init (listeningHandler data)) [.kick 7, .wait 0 [(7, data)]]

theorem register_listening (data : UInt64) (hd : 1 < data.toNat) :
    (VringEpollHandler.new 1 (some 9) [0] 0).registerListener 1 7 data = .ok ⟨[(9, 1), (7, data)], [0], 0, some 9⟩ :=
  VringEpollHandler.registerListener_ok.2 ⟨hd, by decide, rfl⟩

/-- Listener 3, as in the repository's test. -/
theorem listener_three_heard : (listeningSys 3).Heard (fun _ => true) 0 3 :=
  (listener_heard_iff (register_listening 3 (by decide)) rfl ⟨[], by decide⟩).1.2 ⟨by decide, by decide⟩

/-- Listener 65536 is read as ring 0 and listener 65537 ends the loop; both were accepted. -/
theorem listener_taken_for_ring :
    ((VringEpollHandler.new 1 (some 9) [0] 0).registerListener 1 7 65536 =
        .ok ⟨[(9, 1), (7, 65536)], [0], 0, some 9⟩ ∧
      (listeningSys 65536).AtEvent 0 65536 ∧ (listeningSys 65536).nextRead 0 = some (0, 0) ∧
      ¬ (listeningSys 65536).Heard (fun _ => true) 0 65536) ∧
    ((VringEpollHandler.new 1 (some 9) [0] 0).registerListener 1 7 65537 =
        .ok ⟨[(9, 1), (7, 65537)], [0], 0, some 9⟩ ∧
      (((listeningSys 65537).handleEvent (fun _ => true) 0).workers 0).stopped = true) := by
  refine ⟨⟨register_listening _ (by decide), ⟨[], by decide⟩, by decide, fun hh => ?_⟩,
    register_listening _ (by decide), by decide⟩
  have hread : (listeningSys 65536).nextRead 0 = none := hh.unread
  revert hread
  decide

end VhostUser
