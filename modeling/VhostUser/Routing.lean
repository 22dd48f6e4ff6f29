import VhostUser.EventLoop
import VhostUser.Lib.Indices
/-!
# Kick events find their ring

A worker is given the list of its rings, made by a filter over all rings (`handler.rs:134-139`), and
`handle_event` takes an event id for a position in that list (`event_loop.rs:204-205`). The id is
computed elsewhere, from two population counts (`handler.rs:219-222`), and shares its range with
the exit event, registered under the number of queues (`event_loop.rs:93-103`).

| here | there |
| --- | --- |
| `OwnEvent h i t e` | `update_vring_registration` for ring `i` picks worker `t` and the event id `e` |
| `Entry h t fd e`   | `fd` is in the epoll set of worker `t` under `e` |
| `RoutesKicks`      | what `epoll_wait`, `handle_event` and the call of the backend do with an event |

* `rank_countOnes` — the difference of the counts is the rank of the ring in the mask, and so its
  position in the worker's list;
* `kicks_find_their_ring` — the ids are in range, distinct and none is the exit event's, and along
  every run of the system each event is handled for the ring whose descriptor was registered.
-/
namespace VhostUser
open Trace Rank

namespace VringEpollHandler
variable {w w' : VringEpollHandler} {fd : File} {data : UInt64} {p : File × UInt64}

theorem mem_registerEvent (hr : w.registerEvent fd data = .ok w') (hmem : p ∈ w'.epoll) :
    p ∈ w.epoll ∨ p = (fd, data) := by
  by_cases hh : w.epoll.Has fd
  · simp [registerEvent, Epoll.add, hh] at hr
  · simp only [registerEvent, Epoll.add, if_neg hh] at hr
    cases hr
    simpa using hmem

theorem mem_unregisterEvent (hr : w.unregisterEvent fd = .ok w') (hmem : p ∈ w'.epoll) : p ∈ w.epoll := by
  by_cases hh : w.epoll.Has fd
  · simp only [unregisterEvent, Epoll.delete, if_pos hh] at hr
    cases hr
    exact (List.mem_filter.1 hmem).1
  · simp [unregisterEvent, Epoll.delete, hh] at hr

end VringEpollHandler

namespace VhostUserHandler
variable {B M : Type} {d : Deps B M} {h : VhostUserHandler B M}

/-! ## Positions -/

/-- The bits of a mask below `i`, counted as the source does. -/
theorem rank_countOnes (mask : UInt64) {i : Nat} (hi : i < 64) :
    countOnes mask - countOnes (mask >>> (UInt8.ofNat i).toUInt64) = rank mask.toNat.testBit i := by
  have hwhole : countOnes mask = rank mask.toNat.testBit (i + (64 - i)) := by
    rw [show i + (64 - i) = 64 by omega]
    rfl
  -- A shifted mask has no bits from `64 - i` on.
  have hshift : countOnes (mask >>> (UInt8.ofNat i).toUInt64) =
      rank (fun j => mask.toNat.testBit (i + j)) ((64 - i) + i) := by
    rw [show (64 - i) + i = 64 by omega]
    simp only [countOnes, toNat_shifted mask hi, Nat.testBit_shiftRight]
    rfl
  have hnone : rank (fun j => mask.toNat.testBit (i + (64 - i + j))) i = 0 := rank_eq_zero fun j _ => by
    by_contra hb
    have := lt_of_testBit (Bool.eq_true_of_not_eq_false hb)
    omega
  rw [hwhole, hshift, rank_add, rank_add _ (64 - i) i, hnone]
  omega

theorem threadVrings_eq (mask : UInt64) {n : Nat} (hn : n ≤ 64) :
    threadVrings mask n = (List.range n).filter mask.toNat.testBit := by
  refine List.filter_congr fun i hi => ?_
  have hi64 : i < 64 := by
    have := List.mem_range.1 hi
    omega
  have hcast : UInt64.ofNat i = (UInt8.ofNat i).toUInt64 := by
    apply UInt64.toNat.inj
    simp
    omega
  rw [hcast, shifted_bit mask hi64]

theorem findWorker_spec {i k t : Nat} {e : UInt64} {masks : List UInt64} (hi : i < 64)
    (hf : findWorker (UInt8.ofNat i) k masks = some (t, e)) :
    ∃ mask, masks[t - k]? = some mask ∧ k ≤ t ∧ mask.toNat.testBit i = true ∧
      e.toNat = rank mask.toNat.testBit i := by
  induction masks generalizing k with
  | nil => cases hf
  | cons mask masks ih =>
    rw [findWorker, shifted_bit mask hi, rank_countOnes mask hi] at hf
    split at hf
    · rename_i hb
      cases hf
      have hsmall : rank mask.toNat.testBit i ≤ i := rank_le _ i
      refine ⟨mask, by simp, Nat.le_refl t, hb, ?_⟩
      rw [UInt64.toNat_ofNat', Nat.mod_eq_of_lt (by omega)]
    · obtain ⟨mask', hm, hle, hb, he⟩ := ih hf
      refine ⟨mask', ?_, by omega, hb, he⟩
      rw [show t - k = (t - (k + 1)) + 1 by omega, List.getElem?_cons_succ]
      exact hm

/-- `update_vring_registration` for ring `i` goes to worker `t`, with event id `e`. -/
def OwnEvent (h : VhostUserHandler B M) (i t : Nat) (e : UInt64) : Prop :=
  i < h.numQueues ∧ findWorker (UInt8.ofNat i) 0 h.queuesPerThread = some (t, e)

instance (h : VhostUserHandler B M) (i t : Nat) (e : UInt64) : Decidable (h.OwnEvent i t e) :=
  inferInstanceAs (Decidable (_ ∧ _))

/-- The workers hold the rings of their masks, as `new` made their lists. -/
structure Wired (h : VhostUserHandler B M) : Prop where
  small : h.numQueues ≤ 64
  lists : h.layout.map Prod.fst = h.queuesPerThread.map fun mask => threadVrings mask h.numQueues

section Wired
variable {i j t : Nat} {e e' : UInt64}

/-- The worker's mask, and the id as a rank in it. -/
theorem OwnEvent.mask (ho : h.OwnEvent i t e) (hw : h.Wired) :
    ∃ mask, h.queuesPerThread[t]? = some mask ∧ mask.toNat.testBit i = true ∧
      e.toNat = rank mask.toNat.testBit i := by
  have hi := ho.1
  have hsmall := hw.small
  obtain ⟨mask, hmask, -, hb, he⟩ := findWorker_spec (by omega) ho.2
  exact ⟨mask, hmask, hb, he⟩

theorem OwnEvent.lt (ho : h.OwnEvent i t e) (hw : h.Wired) : e.toNat < h.numQueues := by
  obtain ⟨mask, -, -, he⟩ := ho.mask hw
  have hle := rank_le mask.toNat.testBit i
  have hi := ho.1
  omega

/-- **The id is the ring's position in its worker's list.** -/
theorem OwnEvent.position (ho : h.OwnEvent i t e) (hw : h.Wired) :
    ∃ w, h.layout[t]? = some w ∧ w.1[e.toNat]? = some i := by
  obtain ⟨mask, hmask, hb, he⟩ := ho.mask hw
  have hget : (h.layout.map Prod.fst)[t]? = some (threadVrings mask h.numQueues) := by
    rw [hw.lists, List.getElem?_map, hmask]
    rfl
  rw [List.getElem?_map] at hget
  obtain ⟨w, hlay, hrings⟩ := Option.map_eq_some_iff.1 hget
  refine ⟨w, hlay, ?_⟩
  rw [hrings, threadVrings_eq mask hw.small, he]
  exact getElem?_filter_range ho.1 hb

theorem OwnEvent.inj (hi : h.OwnEvent i t e) (hj : h.OwnEvent j t e') (hw : h.Wired) (he : e.toNat = e'.toNat) :
    i = j := by
  obtain ⟨w, hlay, hpos⟩ := hi.position hw
  obtain ⟨w', hlay', hpos'⟩ := hj.position hw
  rw [hlay] at hlay'
  cases hlay'
  rw [he, hpos'] at hpos
  cases hpos
  rfl

/-- The event loop's `as u16` loses nothing. -/
theorem OwnEvent.toUInt16 (ho : h.OwnEvent i t e) (hw : h.Wired) : e.toUInt16.toNat = e.toNat := by
  have hlt := ho.lt hw
  have hsmall := hw.small
  rw [UInt64.toNat_toUInt16, Nat.mod_eq_of_lt (by omega)]

end Wired

theorem ownEvent_of_mem {i : Nat} (hi : i < h.numQueues) {mask : UInt64} (hmem : mask ∈ h.queuesPerThread)
    (hb : mask.toNat.testBit i = true) : ∃ t e, h.OwnEvent i t e := by
  cases hf : firstWorker h.queuesPerThread i with
  | none => exact absurd hb (by simp [List.findIdx?_eq_none_iff.1 hf mask hmem])
  | some t =>
    obtain ⟨e, he⟩ := worker_of_firstWorker hf
    exact ⟨t, e, hi, he⟩

/-! ## Epoll sets -/

/-- `fd` is registered with worker `t` under `e`. -/
def Entry (h : VhostUserHandler B M) (t : Nat) (fd : File) (e : UInt64) : Prop :=
  ∃ w, h.handlers[t]? = some w ∧ (fd, e) ∈ w.epoll

theorem wired_new {b : B} {mem : M} {heap : LogHeap} {n : Nat} (hnew : new d b mem heap n = some h)
    (hq : h.numQueues ≤ 64) : h.Wired := by
  refine ⟨hq, ?_⟩
  obtain ⟨vrings, -, rfl⟩ := new_eq hnew
  have hone : ∀ (mask : UInt64) (threadId : Nat) (exitEvent : Option File) (numQueues : Nat),
      (VringEpollHandler.new numQueues exitEvent (threadVrings mask numQueues) threadId).vrings =
        threadVrings mask numQueues := by
    intro mask threadId exitEvent numQueues
    cases exitEvent <;> rfl
  simp only [layout, newHandlers, List.map_map]
  nth_rewrite 2 [← List.zipIdx_map_fst 0 (d.backend.queuesPerThread b)]
  rw [List.map_map]
  exact List.map_congr_left fun p _ => hone _ _ _ _

/-- The exit event of worker `t`, when the device gave it one. -/
def ExitEvent (h : VhostUserHandler B M) (t : Nat) (e : UInt64) : Prop :=
  (∃ rings fd, h.layout[t]? = some (rings, some fd)) ∧ e = UInt64.ofNat h.numQueues

/-- What `new` registers is the exit events. -/
theorem entry_new {b : B} {mem : M} {heap : LogHeap} {n t : Nat} {fd : File} {e : UInt64}
    (hnew : new d b mem heap n = some h) (he : h.Entry t fd e) : h.ExitEvent t e := by
  obtain ⟨w, hw, hmem⟩ := he
  have hlay : h.layout[t]? = some (w.vrings, w.exitEventFd) := by
    rw [layout, List.getElem?_map, hw]
    rfl
  obtain ⟨vrings, -, rfl⟩ := new_eq hnew
  simp only [newHandlers, List.getElem?_map, Option.map_eq_some_iff] at hw
  obtain ⟨⟨mask, threadId⟩, -, rfl⟩ := hw
  cases hexit : d.backend.exitEvent threadId b with
  | none =>
    rw [hexit] at hmem
    cases hmem
  | some consumer =>
    rw [hexit] at hmem hlay
    cases List.mem_singleton.1 hmem
    exact ⟨⟨_, _, hlay⟩, rfl⟩

section Entries
variable {i t : Nat} {index : UInt8} {fd : File} {e : UInt64}

theorem entry_set {t' : Nat} {w w' : VringEpollHandler} (hw : h.handlers[t']? = some w)
    (he : Entry { h with handlers := h.handlers.set t' w' } t fd e) :
    h.Entry t fd e ∨ (t = t' ∧ (fd, e) ∈ w'.epoll) := by
  obtain ⟨x, hx, hmem⟩ := he
  by_cases htt : t' = t
  · subst htt
    simp only [List.getElem?_set_self (List.getElem?_eq_some_iff.1 hw).1, Option.some.injEq] at hx
    subst hx
    exact .inr ⟨rfl, hmem⟩
  · simp only [List.getElem?_set_ne htt] at hx
    exact .inl ⟨x, hx, hmem⟩

/-- **What `update_vring_registration` adds** is the ring's descriptor under the ring's event. -/
theorem entry_updateVringRegistration (he : (h.updateVringRegistration i index).2.Entry t fd e) :
    h.Entry t fd e ∨ (h.Kick i fd ∧ findWorker index 0 h.queuesPerThread = some (t, e)) := by
  rcases h.updateVringRegistration_cases i index with hsame | ⟨fd', t', e', w, w', hk, hf, hw, hr, hset⟩
  · rw [hsame] at he
    exact .inl he
  · rw [hset] at he
    rcases entry_set hw he with hold | ⟨rfl, hmem⟩
    · exact .inl hold
    · rcases hr with hr | hr
      · rcases VringEpollHandler.mem_registerEvent hr hmem with hold | hnew
        · exact .inl ⟨w, hw, hold⟩
        · cases hnew
          exact .inr ⟨hk, hf⟩
      · exact .inl ⟨w, hw, VringEpollHandler.mem_unregisterEvent hr hmem⟩

theorem entry_exec {m : Micro} (he : (h.exec d m).2.Entry t fd e) :
    h.Entry t fd e ∨ ∃ i index, m = .updateVringRegistration i index ∧ h.Kick i fd ∧
      findWorker index 0 h.queuesPerThread = some (t, e) := by
  cases m with
  | updateVringRegistration i index =>
    rw [exec_updateVringRegistration] at he
    exact (entry_updateVringRegistration he).imp id fun hnew => ⟨i, index, rfl, hnew⟩
  | _ => exact .inl he

end Entries

/-- What no step of a request changes. -/
theorem fixed_exec (m : Micro) : (h.exec d m).2.numQueues = h.numQueues ∧
    (h.exec d m).2.queuesPerThread = h.queuesPerThread ∧ (h.exec d m).2.layout = h.layout := by
  refine ⟨?_, ?_, layout_exec m⟩
  all_goals
    cases m with
    | updateVringRegistration i index =>
      obtain ⟨hs, hu, -⟩ := updateVringRegistration_frame h i index
      rw [exec_updateVringRegistration, hu]
    | _ => rfl

end VhostUserHandler

/-! ## The indices of the requests -/

/-- A step that refreshes a registration names the ring by its `u8` index. -/
def Micro.OwnIndex : Micro → Prop
  | .vringNeedsInit i index => index = UInt8.ofNat i
  | .updateVringRegistration i index => index = UInt8.ofNat i
  | _ => True

/-- `P` holds of the ring and of the index under which the step refreshes a registration, at once or
after starting the ring. -/
def Micro.Refreshes (P : Nat → UInt8 → Prop) : Micro → Prop
  | .vringNeedsInit i index => P i index
  | .updateVringRegistration i index => P i index
  | _ => True

theorem Micro.ownIndex_iff (m : Micro) : m.OwnIndex ↔ m.Refreshes fun i index => index = UInt8.ofNat i := by
  cases m <;> rfl

namespace VhostUserHandler
variable {B M : Type} {d : Deps B M} {h : VhostUserHandler B M} {P : Nat → UInt8 → Prop}

theorem refreshes_enableProgram (enabled : Bool) {is : List Nat} (hP : ∀ i ∈ is, P i (UInt8.ofNat i)) :
    ∀ m ∈ enableProgram enabled is, m.Refreshes P := by
  intro m hm
  obtain ⟨i, hi, hm⟩ := List.mem_flatMap.1 hm
  simp only [List.mem_cons, List.not_mem_nil, or_false] at hm
  rcases hm with rfl | rfl
  · trivial
  · exact hP i hi

/-- **The indices of a request** are those of rings there are, narrowed to a `u8`. -/
theorem refreshes_program (d : Deps B M) (h : VhostUserHandler B M) (r : RingRequest)
    (hP : ∀ i < h.vrings.length, P i (UInt8.ofNat i)) : ∀ m ∈ h.program d r, m.Refreshes P := by
  have hall : ∀ i ∈ List.range h.vrings.length, P i (UInt8.ofNat i) := fun i hi => hP i (List.mem_range.1 hi)
  intro m hm
  cases r with
  | setFeatures features =>
    simp only [program] at hm
    split at hm
    · cases hm
    · simp only [List.mem_cons, List.mem_append, List.mem_map, List.not_mem_nil, or_false] at hm
      rcases hm with rfl | (hm | ⟨i, -, rfl⟩) | rfl
      · trivial
      · split at hm
        · exact refreshes_enableProgram true hall m hm
        · cases hm
      · trivial
      · trivial
  | setVringKick index file | setVringCall index file =>
    simp only [program] at hm
    split at hm
    · rename_i hlt
      simp only [List.mem_cons, List.not_mem_nil, or_false] at hm
      rcases hm with rfl | rfl
      · trivial
      · have hring := hP index.toNat hlt
        rw [ofNat_toNat8] at hring
        exact hring
    · cases hm
  | setVringEnable index enable =>
    simp only [program] at hm
    split at hm
    · cases hm
    · split at hm
      · rename_i hlt
        simp only [List.mem_cons, List.not_mem_nil, or_false] at hm
        rcases hm with rfl | rfl
        · trivial
        · rw [toUInt8_eq_ofNat]
          exact hP index.toNat hlt
      · cases hm
  | getVringBase index =>
    simp only [program] at hm
    split at hm
    · rename_i hlt
      simp only [List.mem_cons, List.not_mem_nil, or_false] at hm
      rcases hm with rfl | rfl | rfl | rfl | rfl
      case inr.inl =>
        rw [toUInt8_eq_ofNat]
        exact hP index.toNat hlt
      all_goals trivial
    · cases hm
  | resetDevice =>
    simp only [program, List.mem_append, List.mem_singleton] at hm
    rcases hm with hm | rfl
    · exact refreshes_enableProgram false hall m hm
    · trivial
  | resetOwner =>
    cases List.mem_singleton.1 hm
    trivial

theorem refreshes_exec {m : Micro} {more : List Micro} {h' : VhostUserHandler B M} (hm : m.Refreshes P)
    (he : h.exec d m = (.ok more, h')) : ∀ m' ∈ more, m'.Refreshes P := by
  intro m' hmem
  cases m with
  | vringNeedsInit i index =>
    simp only [exec, Prod.mk.injEq, Except.ok.injEq] at he
    rw [← he.1] at hmem
    split at hmem
    · simp only [List.mem_cons, List.not_mem_nil, or_false] at hmem
      rcases hmem with rfl | rfl
      · trivial
      · exact hm
    · cases hmem
  | updateVringRegistration i index =>
    simp only [exec] at he
    split at he <;> cases he
    cases hmem
  | _ =>
    cases he
    cases hmem

theorem refreshes_control {ms : List Micro} (hms : ∀ m ∈ ms, m.Refreshes P) :
    ∀ m ∈ (control d (h, ms)).2, m.Refreshes P := by
  intro m hm
  cases ms with
  | nil => cases hm
  | cons m' ms =>
    simp only [control] at hm
    split at hm
    · rename_i more h' he
      rcases List.mem_append.1 hm with hm | hm
      · exact refreshes_exec (hms m' (by simp)) he m hm
      · exact hms m (by simp [hm])
    · cases hm

theorem ownIndex_program (d : Deps B M) (h : VhostUserHandler B M) (r : RingRequest) :
    ∀ m ∈ h.program d r, m.OwnIndex := fun m hm =>
  m.ownIndex_iff.2 (refreshes_program (P := fun i index => index = UInt8.ofNat i) d h r (fun _ _ => rfl) m hm)

theorem ownIndex_control {ms : List Micro} (hms : ∀ m ∈ ms, m.OwnIndex) :
    ∀ m ∈ (control d (h, ms)).2, m.OwnIndex := fun m hm =>
  m.ownIndex_iff.2 (refreshes_control (fun m' hm' => m'.ownIndex_iff.1 (hms m' hm')) m hm)

end VhostUserHandler

/-! ## Runs of the system -/

namespace Sys
variable {B M : Type} {d : Deps B M} {nonblock : File → Bool} {h : VhostUserHandler B M} {s : Sys B M}

/-- What each step does with the events of the rings; `h` is the handler as it was made.

* A registration is of a ring's kick descriptor, under the ring's own event.
* An event that `epoll_wait` takes is the worker's exit event, or the own event of a ring that was
  given the descriptor that is ready.
* `handle_event` for the own event of a ring evaluates `read_kick` of this ring.
* The backend is called with the own event of a ring, which is at its place in the list passed. -/
def RoutesKicks (d : Deps B M) (nonblock : File → Bool) (h : VhostUserHandler B M) (s : Sys B M) : Action → Prop
  | .control => ∀ t fd e, (s.control d).handler.Entry t fd e → s.handler.Entry t fd e ∨
      ∃ i, h.OwnEvent i t e ∧ s.handler.Kick i fd
  | .wait t events => s.isSnapshot t events = true → ∀ p ∈ events, h.ExitEvent t p.2 ∨
      ∃ i, h.OwnEvent i t p.2 ∧ p.1 ∈ s.hist i
  | .handleEvent t => ∀ i e rest, h.OwnEvent i t e → s.workers t = ⟨e.toUInt16 :: rest, none, false⟩ →
      s.nextRead t = some (e.toUInt16, i) ∧ ∀ v enabled kicks pending, s.handler.vrings[i]? = some v →
        v.readKick nonblock s.pending = .ok enabled kicks pending →
        s.handleEvent nonblock t = { s with pending := pending }.setWorker t
          ⟨rest, if enabled then some (e.toUInt16, kicks) else none, false⟩
  | .dispatch t _ => ∀ ev kicks, (s.workers t).holding = some (ev, kicks) →
      ∃ i e, h.OwnEvent i t e ∧ ev = e.toUInt16 ∧ s.ringOf t ev = some i
  | _ => True

/-- What holds in every reachable state. -/
structure RouteInv (h : VhostUserHandler B M) (s : Sys B M) : Prop where
  numQueues : s.handler.numQueues = h.numQueues
  masks : s.handler.queuesPerThread = h.queuesPerThread
  layout : s.handler.layout = h.layout
  rings : ∀ {i}, (s.handler.vrings[i]?).isSome = true → i < h.numQueues
  kick_mem : ∀ {i fd}, s.handler.Kick i fd → fd ∈ s.hist i
  todo : ∀ m ∈ s.todo, m.OwnIndex
  entries : ∀ {t fd e}, s.handler.Entry t fd e → h.ExitEvent t e ∨ ∃ i, h.OwnEvent i t e ∧ fd ∈ s.hist i
  flights : ∀ {t ev}, ev ∈ (s.workers t).events → ∃ e : UInt64, ev = e.toUInt16 ∧
    (h.ExitEvent t e ∨ ∃ i, h.OwnEvent i t e)
  held : ∀ {t ev ks}, (s.workers t).holding = some (ev, ks) → ∃ i e, h.OwnEvent i t e ∧ ev = e.toUInt16

theorem RouteInv.ringOf (hi : RouteInv h s) (hw : h.Wired) {i t : Nat} {e : UInt64} (ho : h.OwnEvent i t e) :
    s.ringOf t e.toUInt16 = some i := by
  obtain ⟨w, hlay, hpos⟩ := ho.position hw
  rw [Sys.ringOf, hi.layout, hlay, ho.toUInt16 hw]
  exact hpos

theorem RouteInv.nextRead (hi : RouteInv h s) (hw : h.Wired) {i t : Nat} {e : UInt64} {rest : List UInt16}
    (ho : h.OwnEvent i t e) (hworker : s.workers t = ⟨e.toUInt16 :: rest, none, false⟩) :
    s.nextRead t = some (e.toUInt16, i) := by
  obtain ⟨⟨rings, exitEventFd⟩, hlay, hpos⟩ := ho.position hw
  have hexit : (e.toNat == s.handler.numQueues) = false := by
    have hlt := ho.lt hw
    rw [hi.numQueues]
    simp
    omega
  rw [Sys.nextRead, hworker, hi.layout, hlay]
  simp only [ho.toUInt16 hw, hexit, Bool.and_false, Bool.false_eq_true, if_false]
  rw [hpos]
  rfl

theorem routeInv_init {b : B} {mem : M} {heap : LogHeap} {n : Nat}
    (hnew : VhostUserHandler.new d b mem heap n = some h) : RouteInv h (init h) where
  numQueues := rfl
  masks := rfl
  layout := rfl
  rings hsome := by
    have hlen := VhostUserHandler.length_new hnew
    obtain ⟨vrings, -, rfl⟩ := VhostUserHandler.new_eq hnew
    rw [← hlen]
    exact (List.getElem?_eq_some_iff.1 (Option.eq_some_of_isSome hsome)).1
  kick_mem hk := (VhostUserHandler.known_new hnew).kick_mem hk
  todo := by simp [init]
  entries he := .inl (VhostUserHandler.entry_new hnew he)
  flights hev := by simp [init] at hev
  held hheld := by simp [init] at hheld

/-- The control thread changes the handler by its next step, and no worker. -/
theorem RouteInv.exec (hi : RouteInv h s) {m : Micro} {ms : List Micro} (htodo : s.todo = m :: ms) {t : Nat}
    {fd : File} {e : UInt64} (he : (s.handler.exec d m).2.Entry t fd e) :
    s.handler.Entry t fd e ∨ ∃ i, h.OwnEvent i t e ∧ s.handler.Kick i fd := by
  rcases VhostUserHandler.entry_exec he with hold | ⟨i, index, rfl, hk, hf⟩
  · exact .inl hold
  · have hindex : index = UInt8.ofNat i := hi.todo (.updateVringRegistration i index) (by rw [htodo]; simp)
    have hring : i < h.numQueues := by
      obtain ⟨v, hv, -⟩ := hk
      exact hi.rings (by rw [hv]; rfl)
    rw [hindex, hi.masks] at hf
    exact .inr ⟨i, ⟨hring, hf⟩, hk⟩

theorem routeInv_control (hi : RouteInv h s) : RouteInv h (s.control d) := by
  rcases control_cases d s with heq | ⟨m, ms, htodo, hh, -, hw, -, -, -, hhist⟩
  · rw [heq]
    exact hi
  · obtain ⟨hnum, hmasks, hlay⟩ := @VhostUserHandler.fixed_exec B M d s.handler m
    refine ⟨?_, ?_, ?_, ?_, ?_, ?_, ?_, ?_, ?_⟩
    · rw [hh, hnum, hi.numQueues]
    · rw [hh, hmasks, hi.masks]
    · rw [hh, hlay, hi.layout]
    · intro i hsome
      rw [hh, VhostUserHandler.vrings_exec, Option.isSome_map] at hsome
      exact hi.rings hsome
    · exact kick_mem_control hi.kick_mem
    · exact VhostUserHandler.ownIndex_control hi.todo
    · intro t fd e he
      rw [hh] at he
      rcases hi.exec htodo he with hold | ⟨i, ho, hk⟩
      · rcases hi.entries hold with hexit | ⟨i, ho, hmem⟩
        · exact .inl hexit
        · exact .inr ⟨i, ho, mem_hist_control d hmem⟩
      · exact .inr ⟨i, ho, mem_hist_control d (hi.kick_mem hk)⟩
    · intro t ev hev
      rw [hw] at hev
      exact hi.flights hev
    · intro t ev ks hheld
      rw [hw] at hheld
      exact hi.held hheld

/-- A worker's events and the event it holds are all that a worker's step changes. -/
theorem RouteInv.setWorker (hi : RouteInv h s) {t : Nat} {w : WorkerState}
    (hev : ∀ ev ∈ w.events, ∃ e : UInt64, ev = e.toUInt16 ∧ (h.ExitEvent t e ∨ ∃ i, h.OwnEvent i t e))
    (hheld : ∀ ev ks, w.holding = some (ev, ks) → ∃ i e, h.OwnEvent i t e ∧ ev = e.toUInt16) :
    RouteInv h (s.setWorker t w) where
  numQueues := hi.numQueues
  masks := hi.masks
  layout := hi.layout
  rings := hi.rings
  kick_mem := hi.kick_mem
  todo := hi.todo
  entries := hi.entries
  flights {t' ev} hmem := by
    rw [workers_setWorker] at hmem
    split at hmem
    · rename_i htt
      subst htt
      exact hev ev hmem
    · exact hi.flights hmem
  held {t' ev ks} hmem := by
    rw [workers_setWorker] at hmem
    split at hmem
    · rename_i htt
      subst htt
      exact hheld ev ks hmem
    · exact hi.held hmem

/-- Counters and ghosts are no part of the invariant. -/
theorem RouteInv.congr (hi : RouteInv h s) {s' : Sys B M} (hh : s'.handler = s.handler) (ht : s'.todo = s.todo)
    (hw : s'.workers = s.workers) (hhist : s'.hist = s.hist) : RouteInv h s' := by
  refine ⟨?_, ?_, ?_, ?_, ?_, ?_, ?_, ?_, ?_⟩
  · rw [hh, hi.numQueues]
  · rw [hh, hi.masks]
  · rw [hh, hi.layout]
  · rw [hh]
    exact hi.rings
  · rw [hh, hhist]
    exact hi.kick_mem
  · rw [ht]
    exact hi.todo
  · rw [hh, hhist]
    exact hi.entries
  · rw [hw]
    exact hi.flights
  · rw [hw]
    exact hi.held

theorem isSnapshot_entry {t : Nat} {events : List (File × UInt64)} (hs : s.isSnapshot t events = true)
    {p : File × UInt64} (hp : p ∈ events) : s.handler.Entry t p.1 p.2 := by
  unfold isSnapshot at hs
  split at hs
  · cases hs
  · rename_i w hw
    simp only [Bool.and_eq_true, List.all_eq_true, decide_eq_true_eq] at hs
    exact ⟨w, hw, (List.mem_filter.1 (hs.2 p hp)).1⟩

theorem routeInv_wait (hi : RouteInv h s) (t : Nat) (events : List (File × UInt64)) :
    RouteInv h (s.wait t events) := by
  rcases wait_cases s t events with heq | ⟨-, hsnap, heq⟩
  · rw [heq]
    exact hi
  · rw [heq]
    refine hi.setWorker (fun ev hev => ?_) (by simp)
    obtain ⟨p, hp, rfl⟩ := List.mem_map.1 hev
    rcases hi.entries (isSnapshot_entry hsnap hp) with hexit | ⟨i, ho, -⟩
    · exact ⟨p.2, rfl, .inl hexit⟩
    · exact ⟨p.2, rfl, .inr ⟨i, ho⟩⟩

/-- The exit event ends the loop of the worker. -/
theorem handleEvent_exit (hi : RouteInv h s) (hw : h.Wired) {t : Nat} {e : UInt64} {rest : List UInt16}
    (he : h.ExitEvent t e) (hworker : s.workers t = ⟨e.toUInt16 :: rest, none, false⟩) :
    s.handleEvent nonblock t = s.setWorker t ⟨[], none, true⟩ := by
  obtain ⟨⟨rings, fd, hlay⟩, rfl⟩ := he
  have hid : (UInt64.ofNat h.numQueues).toUInt16.toNat = h.numQueues := by
    have hsmall := hw.small
    simp
    omega
  rw [handleEvent, hworker, hi.layout, hlay]
  dsimp only
  rw [hi.numQueues, hid]
  simp

theorem routeInv_handleEvent (hi : RouteInv h s) (hw : h.Wired) (t : Nat) :
    RouteInv h (s.handleEvent nonblock t) := by
  rcases hev : s.workers t with ⟨events, holding, stopped⟩
  have hrest : ∀ ev ∈ events.tail, ∃ e : UInt64, ev = e.toUInt16 ∧ (h.ExitEvent t e ∨ ∃ i, h.OwnEvent i t e) :=
    fun ev hmem => hi.flights (by rw [hev]; exact List.mem_of_mem_tail hmem)
  have hstop : RouteInv h (s.setWorker t ⟨[], none, true⟩) := hi.setWorker (by simp) (by simp)
  -- The event is that of a ring: the exit event is seen first, and nothing else is ever registered.
  have hown : ∀ {ev rest}, s.workers t = ⟨ev :: rest, none, false⟩ →
      s.handleEvent nonblock t = s.setWorker t ⟨[], none, true⟩ ∨ ∃ i e, h.OwnEvent i t e ∧ ev = e.toUInt16 := by
    intro ev rest hworker
    obtain ⟨e, rfl, hexit | ⟨i, ho⟩⟩ := @RouteInv.flights B M h s hi t ev (by rw [hworker]; simp)
    · exact .inl (handleEvent_exit hi hw hexit hworker)
    · exact .inr ⟨i, e, ho, rfl⟩
  have hcase := handled nonblock s t
  generalize hs' : s.handleEvent nonblock t = s' at hcase
  cases hcase with
  | unchanged => exact hi
  | stop _ => exact hstop
  | @listener ev rest hworker hnone =>
    rcases hown hworker with hend | ⟨i, e, ho, rfl⟩
    · rw [← hs', hend]
      exact hstop
    · rw [hi.ringOf hw ho] at hnone
      cases hnone
  | @read ev rest r v enabled kicks pending hworker hnext hring hv hread =>
    rcases hown hworker with hend | ⟨i, e, ho, hid⟩
    · rw [← hs', hend]
      exact hstop
    · rw [hev] at hworker
      cases hworker
      have hread : RouteInv h { s with pending := pending } := hi.congr rfl rfl rfl rfl
      refine hread.setWorker hrest fun ev' ks hheld => ?_
      cases enabled with
      | false => cases hheld
      | true =>
        cases hheld
        exact ⟨i, e, ho, hid⟩

theorem routeInv_dispatch (hi : RouteInv h s) (t : Nat) (ok : Bool) : RouteInv h (s.dispatch t ok) := by
  rcases dispatch_cases s t ok with heq | ⟨events, ev, kicks, lastCall, hworker, -, heq⟩
  · rw [heq]
    exact hi
  · rw [heq]
    refine RouteInv.congr (hi.setWorker (t := t) (w := ⟨if ok then events else [], none, !ok⟩) ?_ (by simp)) rfl rfl rfl rfl
    intro ev' hmem
    cases ok with
    | false => cases hmem
    | true => exact hi.flights (by rw [hworker]; exact hmem)

theorem routeInv_step (hw : h.Wired) (hi : RouteInv h s) (a : Action) : RouteInv h (s.step d nonblock a) := by
  cases a with
  | request r =>
    rcases request_cases d s r with heq | ⟨-, heq⟩
    · rw [step, heq]
      exact hi
    · rw [step, heq]
      exact { hi with todo := VhostUserHandler.ownIndex_program d s.handler r }
  | control => exact routeInv_control hi
  | kick fd => exact hi.congr rfl rfl rfl rfl
  | wait t events => exact routeInv_wait hi t events
  | handleEvent t => exact routeInv_handleEvent hi hw t
  | dispatch t ok => exact routeInv_dispatch hi t ok

theorem routesKicks_of_routeInv (hw : h.Wired) (hi : RouteInv h s) (a : Action) :
    RoutesKicks d nonblock h s a := by
  cases a with
  | request r => trivial
  | kick fd => trivial
  | control =>
    intro t fd e he
    rcases control_cases d s with heq | ⟨m, ms, htodo, hh, -⟩
    · rw [heq] at he
      exact .inl he
    · rw [hh] at he
      exact hi.exec htodo he
  | wait t events => exact fun hsnap p hp => hi.entries (isSnapshot_entry hsnap hp)
  | handleEvent t =>
    intro i e rest ho hworker
    have hnext := hi.nextRead hw ho hworker
    refine ⟨hnext, fun v enabled kicks pending hv hread => ?_⟩
    obtain ⟨rest', hworker', heq⟩ := handleEvent_ok hnext hv hread
    rw [hworker] at hworker'
    cases hworker'
    exact heq
  | dispatch t ok =>
    intro ev kicks hheld
    obtain ⟨i, e, ho, rfl⟩ := hi.held hheld
    exact ⟨i, e, ho, rfl, hi.ringOf hw ho⟩

end Sys

/-- **Kick events find their ring.** For every device of up to 64 rings and all its masks: a ring in
some mask has an event id that is the number of mask bits below it, in range of its worker's list,
where the ring stands at this position; other rings of the worker have other ids, none the exit
event's; and along every run of the threads the events are registered, taken, read and reported so. -/
theorem kicks_find_their_ring {B M : Type} {d : Deps B M} {b : B} {mem : M} {heap : LogHeap} {n : Nat}
    {h : VhostUserHandler B M} (hnew : VhostUserHandler.new d b mem heap n = some h) (hq : h.numQueues ≤ 64) :
    (∀ i < h.numQueues, (∃ mask ∈ h.queuesPerThread, mask.toNat.testBit i = true) →
      ∃ t e w mask, h.OwnEvent i t e ∧ h.handlers[t]? = some w ∧ h.queuesPerThread[t]? = some mask ∧
        e.toNat = (List.range i).countP mask.toNat.testBit ∧ e.toNat < w.vrings.length ∧
        w.vrings[e.toNat]? = some i ∧ e ≠ UInt64.ofNat h.numQueues ∧
        ∀ j e', j ≠ i → h.OwnEvent j t e' → e' ≠ e) ∧
    ∀ nonblock as, Along (Sys.step d nonblock) (Sys.RoutesKicks d nonblock h) (Sys.init h) as := by
  have hw : h.Wired := VhostUserHandler.wired_new hnew hq
  refine ⟨?_, ?_⟩
  · rintro i hi ⟨mask, hmem, hb⟩
    obtain ⟨t, e, ho⟩ := VhostUserHandler.ownEvent_of_mem hi hmem hb
    obtain ⟨mask', hmask, -, hrank⟩ := ho.mask hw
    obtain ⟨x, hlay, hpos⟩ := ho.position hw
    rw [VhostUserHandler.layout, List.getElem?_map] at hlay
    obtain ⟨w, hget, rfl⟩ := Option.map_eq_some_iff.1 hlay
    refine ⟨t, e, w, mask', ho, hget, hmask, hrank, (List.getElem?_eq_some_iff.1 hpos).1, hpos, ?_, ?_⟩
    · rintro rfl
      have hlt := ho.lt hw
      simp at hlt
      omega
    · rintro j e' hne hj rfl
      exact hne (hj.inj ho hw rfl)
  · intro nonblock as
    exact along_of_inv (fun s a hi => Sys.routeInv_step hw hi a)
      (fun s a hi => Sys.routesKicks_of_routeInv hw hi a) as _ (Sys.routeInv_init hnew)

/-! Three rings and two workers. Both masks have ring 1, the first also a bit that is no ring's. -/

def maskedDeps : Deps Unit (List GuestRegionMmap) :=
  { plainDeps true with
    backend := { plainBackend true with
      numQueues := fun _ => 3
      queuesPerThread := fun _ => [0xa, 0x7]
      exitEvent := fun _ _ => some 9 } }

def maskedHandler : VhostUserHandler Unit (List GuestRegionMmap) :=
  { plainHandler with
    handlers := [.new 3 (some 9) [1] 0, .new 3 (some 9) [0, 1, 2] 1]
    numQueues := 3
    queuesPerThread := [0xa, 0x7]
    vrings := List.replicate 3 ⟨⟨256, 256, false, 0, 0, false, 0, 0, 0⟩, none, none, none, false⟩ }

theorem new_maskedHandler :
    VhostUserHandler.new maskedDeps () [] ⟨fun _ => none, fun _ => []⟩ 0 = some maskedHandler := by
  have hring : VringState.new 256 = some ⟨⟨256, 256, false, 0, 0, false, 0, 0, 0⟩, none, none, none, false⟩ := by
    decide
  exact VhostUserHandler.new_of_ring (d := maskedDeps) hring ..

/-- Without protocol features the rings start enabled; ring 2 gets descriptor 5 and is kicked. -/
def maskedRun : List Action :=
  .request (.setFeatures 0) :: List.replicate 11 .control ++
    [.request (.setVringKick 2 (some 5)), .control, .control, .control, .control, .kick 5, .wait 1 [(5, 2)]]

example : (run (Sys.step maskedDeps fun _ => true) (Sys.init maskedHandler) maskedRun).nextRead 1 = some (2, 2) := by
  decide

/-- Ring 2 is the last ring of the second worker. -/
theorem masked_ring_found :
    (∃ w, maskedHandler.handlers[1]? = some w ∧ w.vrings[2]? = some 2) ∧
      Along (Sys.step maskedDeps fun _ => true) (Sys.RoutesKicks maskedDeps (fun _ => true) maskedHandler)
        (Sys.init maskedHandler) (maskedRun ++ [.handleEvent 1, .dispatch 1 true]) := by
  obtain ⟨hrings, hruns⟩ := kicks_find_their_ring new_maskedHandler (by decide)
  refine ⟨?_, hruns _ _⟩
  obtain ⟨t, e, w, mask, ho, hget, -, -, -, hpos, -⟩ := hrings 2 (by decide) ⟨0x7, by decide, by decide⟩
  have hf : VhostUserHandler.findWorker (UInt8.ofNat 2) 0 maskedHandler.queuesPerThread = some (1, 2) := by decide
  rw [VhostUserHandler.OwnEvent, hf] at ho
  cases ho.2
  exact ⟨w, hget, hpos⟩

end VhostUser
