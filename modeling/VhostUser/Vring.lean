import VhostUser.Message
/-!
# Vrings and the epoll handlers of their workers (`vhost-user-backend/src/vring.rs`, `event_loop.rs`)

| here | there |
| --- | --- |
| `Queue`             | `virtio_queue::Queue`: the fields the handler sets and the documented checks of its setters |
| `VringState`        | `VringState` (`vring.rs:110-117`); its guest memory is the handler's |
| `Epoll`             | `vmm_sys_util::epoll::Epoll`: a set of registered descriptors, each with its data |
| `VringEpollHandler` | `event_loop.rs:59-66`; `vrings` names the rings whose shared state it holds |

A `VringRwLock` or `VringMutex` is its `VringState`; every method of it is one locked access.
-/
namespace VhostUser

/-! ## Queues -/

structure Queue where
  maxSize : UInt16
  size : UInt16
  ready : Bool
  nextAvail : UInt16
  nextUsed : UInt16
  eventIdx : Bool
  descTable : UInt64
  availRing : UInt64
  usedRing : UInt64
deriving DecidableEq, Repr

/-- A power of two, tested as virtio-queue does. -/
def isPowerOfTwo (n : UInt16) : Bool := n != 0 && (n &&& (n - 1)) == 0

theorem isPowerOfTwo_iff {n : UInt16} : isPowerOfTwo n = true ↔ n.toNat.isPowerOfTwo := by
  rw [← Nat.ne_zero_and_sub_one_eq_zero_iff_isPowerOfTwo]
  unfold isPowerOfTwo
  rw [Bool.and_eq_true, bne_iff_ne, beq_iff_eq, ne_eq, ne_eq, ← UInt16.toNat_inj, ← UInt16.toNat_inj]
  refine and_congr_right fun hne => ?_
  have hone : (1 : UInt16) ≤ n := by
    rw [UInt16.le_iff_toNat_le]
    exact Nat.one_le_iff_ne_zero.2 hne
  rw [UInt16.toNat_and, UInt16.toNat_sub_of_le _ _ hone]
  rfl

namespace Queue

/-- Refuses a maximum that is zero, above 32768 or no power of two. -/
def new (maxSize : UInt16) : Option Queue :=
  if maxSize.toNat > 32768 || !isPowerOfTwo maxSize then none
  else some ⟨maxSize, maxSize, false, 0, 0, false, 0, 0, 0⟩

/-- A size out of range or no power of two leaves the queue as it is. -/
def setSize (q : Queue) (size : UInt16) : Queue :=
  if size > q.maxSize || !isPowerOfTwo size then q else { q with size := size }

def trySetDescTableAddress (q : Queue) (a : UInt64) : Option Queue :=
  if a &&& 0xf == 0 then some { q with descTable := a } else none

def trySetAvailRingAddress (q : Queue) (a : UInt64) : Option Queue :=
  if a &&& 0x1 == 0 then some { q with availRing := a } else none

def trySetUsedRingAddress (q : Queue) (a : UInt64) : Option Queue :=
  if a &&& 0x3 == 0 then some { q with usedRing := a } else none

end Queue

/-! ## Vrings -/

structure VringState where
  queue : Queue
  kick : Option File
  call : Option File
  err : Option File
  enabled : Bool
deriving DecidableEq, Repr

namespace VringState

def new (maxQueueSize : UInt16) : Option VringState :=
  (Queue.new maxQueueSize).map fun q => ⟨q, none, none, none, false⟩

def setEnabled (v : VringState) (enabled : Bool) : VringState := { v with enabled := enabled }
def setQueueNextAvail (v : VringState) (base : UInt16) : VringState :=
  { v with queue := { v.queue with nextAvail := base } }
def setQueueNextUsed (v : VringState) (idx : UInt16) : VringState :=
  { v with queue := { v.queue with nextUsed := idx } }
def setQueueSize (v : VringState) (num : UInt16) : VringState := { v with queue := v.queue.setSize num }
def setQueueEventIdx (v : VringState) (enabled : Bool) : VringState :=
  { v with queue := { v.queue with eventIdx := enabled } }
def setQueueReady (v : VringState) (ready : Bool) : VringState :=
  { v with queue := { v.queue with ready := ready } }
def setKick (v : VringState) (file : Option File) : VringState := { v with kick := file }
def setCall (v : VringState) (file : Option File) : VringState := { v with call := file }
def setErr (v : VringState) (file : Option File) : VringState := { v with err := file }

/-- Each address that was set stays set when a later one is refused. -/
def setQueueInfo (v : VringState) (descTable availRing usedRing : UInt64) : Bool × VringState :=
  match v.queue.trySetDescTableAddress descTable with
  | none => (false, v)
  | some q =>
    match q.trySetAvailRingAddress availRing with
    | none => (false, { v with queue := q })
    | some q =>
      match q.trySetUsedRingAddress usedRing with
      | none => (false, { v with queue := q })
      | some q => (true, { v with queue := q })

end VringState

/-! ## Epoll -/

/-- The registered descriptors with their data. -/
abbrev Epoll := List (File × UInt64)

namespace Epoll

def Has (e : Epoll) (fd : File) : Prop := ∃ data, (fd, data) ∈ e

instance (e : Epoll) (fd : File) : Decidable (e.Has fd) :=
  decidable_of_iff (fd ∈ e.map Prod.fst) (by simp [Has])

/-- `EPOLL_CTL_ADD`: `EEXIST` for a descriptor that is there already. -/
def add (e : Epoll) (fd : File) (data : UInt64) : Except IoError Epoll :=
  if e.Has fd then .error ⟨.alreadyExists, some 17⟩ else .ok (e ++ [(fd, data)])

/-- `EPOLL_CTL_DEL`: `ENOENT` for a descriptor that is not there. -/
def delete (e : Epoll) (fd : File) : Except IoError Epoll :=
  if e.Has fd then .ok (e.filter fun p => p.1 ≠ fd) else .error ⟨.notFound, some 2⟩

theorem has_append {e : Epoll} {fd x : File} {data : UInt64} :
    Has (e ++ [(fd, data)]) x ↔ e.Has x ∨ x = fd := by
  simp only [Has, List.mem_append, List.mem_singleton, Prod.mk.injEq]
  constructor
  · rintro ⟨d, h | ⟨h, -⟩⟩
    · exact .inl ⟨d, h⟩
    · exact .inr h
  · rintro (⟨d, h⟩ | h)
    · exact ⟨d, .inl h⟩
    · exact ⟨data, .inr ⟨h, rfl⟩⟩

theorem has_filter {e : Epoll} {fd x : File} : Has (e.filter fun p => p.1 ≠ fd) x ↔ e.Has x ∧ x ≠ fd := by
  simp only [Has, List.mem_filter]
  constructor
  · rintro ⟨d, h, hne⟩
    exact ⟨⟨d, h⟩, by simpa using hne⟩
  · rintro ⟨⟨d, h⟩, hne⟩
    exact ⟨d, h, by simpa using hne⟩

end Epoll

/-! ## Workers -/

structure VringEpollHandler where
  epoll : Epoll
  vrings : List Nat
  threadId : Nat
  exitEventFd : Option File
deriving DecidableEq, Repr

namespace VringEpollHandler

/-- The exit event is registered under the number of queues. -/
def new (numQueues : Nat) (exitEvent : Option File) (vrings : List Nat) (threadId : Nat) :
    VringEpollHandler :=
  match exitEvent with
  | none => ⟨[], vrings, threadId, none⟩
  | some consumer => ⟨[(consumer, UInt64.ofNat numQueues)], vrings, threadId, some consumer⟩

def registerEvent (w : VringEpollHandler) (fd : File) (data : UInt64) : Except IoError VringEpollHandler :=
  match w.epoll.add fd data with
  | .ok e => .ok { w with epoll := e }
  | .error e => .error e

def unregisterEvent (w : VringEpollHandler) (fd : File) : Except IoError VringEpollHandler :=
  match w.epoll.delete fd with
  | .ok e => .ok { w with epoll := e }
  | .error e => .error e

end VringEpollHandler

/-- `u64::count_ones`. -/
def countOnes (x : UInt64) : Nat := (List.range 64).countP fun i => x.toNat.testBit i

end VhostUser
