import VhostUser.RingStates
import Mathlib.Logic.Function.Iterate
/-!
# The control thread, the workers and the guest

One system of the threads of a backend: the control thread serves ring requests, each worker runs
`VringEpollHandler::run`, and the guest writes to the kick descriptors.

| here | there |
| --- | --- |
| `Micro`, `program` | a request of `VhostUserHandler` cut at its locked vring accesses |
| `readKick`         | `VringState::read_kick` (`vring.rs:248-255`), one locked access |
| `WorkerState`      | where a worker is in `run` (`event_loop.rs:155-197`): events taken and not handled, or going on to call the backend |
| `Sys.handleEvent`, `Sys.dispatch` | `handle_event` (`event_loop.rs:199-222`) up to its `read_kick`, and its call of the backend |
| `Sys.wait`         | one `epoll_wait`: level-triggered, at most 100 events, in any order |

`update_vring_registration` holds the lock of the ring from its first line to its last, so it is one
step. A descriptor's counter is the list of the kicks pending in it; every kick has a number of
its own. `control_program` ties the cut requests to the requests of `VhostUserHandler`.
-/
namespace VhostUser
open Trace PointUpdate

/-! ## Requests cut into locked steps -/

inductive Micro where
  | setEnabled (i : Nat) (enabled : Bool)
  | setQueueReady (i : Nat) (ready : Bool)
  | setKick (i : Nat) (file : Option File)
  | setCall (i : Nat) (file : Option File)
  | setQueueEventIdx (i : Nat) (enabled : Bool)
  | queueNextAvail (i : Nat)
  | vringNeedsInit (i : Nat) (index : UInt8)
  | updateVringRegistration (i : Nat) (index : UInt8)
  /-- the fields of the handler itself, and the backend's callbacks -/
  | setAcked (features : UInt64)
  | ackFeatures (eventIdx : Bool)
  | resetDevice
  | resetOwner
deriving DecidableEq

namespace VhostUserHandler
variable {B M : Type} {d : Deps B M} {h : VhostUserHandler B M}

/-- A step gives the steps it adds, or the error that ends the request. -/
def exec (d : Deps B M) (h : VhostUserHandler B M) : Micro → Except Error (List Micro) × VhostUserHandler B M
  | .setEnabled i enabled => (.ok [], h.modVring i fun v => v.setEnabled enabled)
  | .setQueueReady i ready => (.ok [], h.modVring i fun v => v.setQueueReady ready)
  | .setKick i file => (.ok [], h.modVring i fun v => v.setKick file)
  | .setCall i file => (.ok [], h.modVring i fun v => v.setCall file)
  | .setQueueEventIdx i enabled => (.ok [], h.modVring i fun v => v.setQueueEventIdx enabled)
  | .queueNextAvail _ => (.ok [], h)
  | .vringNeedsInit i index =>
    (.ok (if (h.vrings[i]?).any vringNeedsInit then [.setQueueReady i true, .updateVringRegistration i index] else []), h)
  | .updateVringRegistration i index =>
    match h.updateVringRegistration i index with
    | (.ok (), h) => (.ok [], h)
    | (.error e, h) => (.error e, h)
  | .setAcked features => (.ok [], { h with ackedFeatures := features, featuresAcked := true })
  | .ackFeatures eventIdx =>
    (.ok [], { h with
      backend := d.backend.ackedFeatures h.ackedFeatures (d.backend.setEventIdx eventIdx h.backend) })
  | .resetDevice =>
    (.ok [], { h with featuresAcked := false, ackedFeatures := 0, backend := d.backend.resetDevice h.backend })
  | .resetOwner => (.ok [], h.resetOwner.2)

/-- The loop of `set_features` and `reset_device`. -/
def enableProgram (enabled : Bool) (is : List Nat) : List Micro :=
  is.flatMap fun i => [.setEnabled i enabled, .updateVringRegistration i (UInt8.ofNat i)]

/-- The steps of a request; a request refused at once has none. -/
def program (d : Deps B M) (h : VhostUserHandler B M) : RingRequest → List Micro
  | .setFeatures features =>
    if (features &&& ~~~(d.backend.features h.backend)) ≠ 0 then []
    else
      let eventIdx := (features &&& (1 <<< VIRTIO_RING_F_EVENT_IDX)) != 0
      let rings := List.range h.vrings.length
      .setAcked features ::
        ((if (features &&& VhostUserVirtioFeatures.PROTOCOL_FEATURES) = 0 then enableProgram true rings else [])
          ++ (rings.map fun i => .setQueueEventIdx i eventIdx) ++ [.ackFeatures eventIdx])
  | .setVringKick index file =>
    if index.toNat < h.vrings.length then [.setKick index.toNat file, .vringNeedsInit index.toNat index] else []
  | .setVringCall index file =>
    if index.toNat < h.vrings.length then [.setCall index.toNat file, .vringNeedsInit index.toNat index] else []
  | .setVringEnable index enable =>
    match h.checkFeature VhostUserVirtioFeatures.PROTOCOL_FEATURES with
    | .error _ => []
    | .ok () =>
      if index.toNat < h.vrings.length then
        [.setEnabled index.toNat enable, .updateVringRegistration index.toNat index.toUInt8]
      else []
  | .getVringBase index =>
    if index.toNat < h.vrings.length then
      [.setQueueReady index.toNat false, .updateVringRegistration index.toNat index.toUInt8,
        .queueNextAvail index.toNat, .setKick index.toNat none, .setCall index.toNat none]
    else []
  | .resetDevice => enableProgram false (List.range h.vrings.length) ++ [.resetDevice]
  | .resetOwner => [.resetOwner]

/-- The next step of the control thread. -/
def control (d : Deps B M) : VhostUserHandler B M × List Micro → VhostUserHandler B M × List Micro
  | (h, []) => (h, [])
  | (h, m :: ms) =>
    match h.exec d m with
    | (.ok more, h) => (h, more ++ ms)
    | (.error _, h) => (h, [])

/-! ### Uninterrupted, the steps are the request -/

/-- The control thread alone gets from one state to another. -/
def Gets (d : Deps B M) (s s' : VhostUserHandler B M × List Micro) : Prop := ∃ n, (control d)^[n] s = s'

theorem Gets.refl (s : VhostUserHandler B M × List Micro) : Gets d s s := ⟨0, rfl⟩

theorem Gets.trans {s₁ s₂ s₃ : VhostUserHandler B M × List Micro} (h₁ : Gets d s₁ s₂) (h₂ : Gets d s₂ s₃) :
    Gets d s₁ s₃ := by
  obtain ⟨n, hn⟩ := h₁
  obtain ⟨m, hm⟩ := h₂
  exact ⟨m + n, by rw [Function.iterate_add_apply, hn, hm]⟩

theorem gets_ok {h' : VhostUserHandler B M} {m : Micro} {more ms : List Micro}
    (he : h.exec d m = (.ok more, h')) : Gets d (h, m :: ms) (h', more ++ ms) :=
  ⟨1, by simp only [Function.iterate_one, control, he]⟩

theorem gets_error {h' : VhostUserHandler B M} {m : Micro} {e : Error} {ms : List Micro}
    (he : h.exec d m = (.error e, h')) : Gets d (h, m :: ms) (h', []) :=
  ⟨1, by simp only [Function.iterate_one, control, he]⟩

/-- What is left to do after a part of a request: an error ends it. -/
def unlessError (r : Except Error Unit) (ms : List Micro) : List Micro :=
  match r with
  | .ok () => ms
  | .error _ => []

@[simp] theorem unlessError_nil (r : Except Error Unit) : unlessError r [] = [] := by
  cases r <;> rfl

theorem gets_updateVringRegistration (h : VhostUserHandler B M) (i : Nat) (index : UInt8) (ms : List Micro) :
    Gets d (h, .updateVringRegistration i index :: ms)
      ((h.updateVringRegistration i index).2, unlessError (h.updateVringRegistration i index).1 ms) := by
  rcases hu : h.updateVringRegistration i index with ⟨res, h'⟩
  cases res with
  | ok u =>
    have he : h.exec d (.updateVringRegistration i index) = (.ok [], h') := by simp only [exec, hu]
    exact gets_ok he
  | error e =>
    have he : h.exec d (.updateVringRegistration i index) = (.error e, h') := by simp only [exec, hu]
    exact gets_error he

/-- A ring is changed and registered anew, as the last step of a request. -/
theorem gets_updated {m : Micro} {i : Nat} {index : UInt8} {f : VringState → VringState}
    (hm : h.exec d m = (.ok [], h.modVring i f)) :
    Gets d (h, [m, .updateVringRegistration i index]) (((h.modVring i f).updateVringRegistration i index).2, []) := by
  have hupd := @gets_updateVringRegistration B M d (h.modVring i f) i index []
  rw [unlessError_nil] at hupd
  exact (gets_ok hm).trans hupd

theorem gets_enableProgram (enabled : Bool) {ms : List Micro} (is : List Nat) (h : VhostUserHandler B M) :
    Gets d (h, enableProgram enabled is ++ ms)
      ((setEnabledAll enabled is h).2, unlessError (setEnabledAll enabled is h).1 ms) := by
  induction is generalizing h with
  | nil => exact .refl _
  | cons i is ih =>
    have hset : h.exec d (.setEnabled i enabled) = (.ok [], h.modVring i fun v => v.setEnabled enabled) := rfl
    have hupd := @gets_updateVringRegistration B M d (h.modVring i fun v => v.setEnabled enabled) i
      (UInt8.ofNat i) (enableProgram enabled is ++ ms)
    refine (gets_ok hset).trans (hupd.trans ?_)
    rw [setEnabledAll]
    rcases (h.modVring i fun v => v.setEnabled enabled).updateVringRegistration i (UInt8.ofNat i) with ⟨res, h'⟩
    cases res with
    | ok u => exact ih h'
    | error e => exact .refl _

theorem gets_eventIdx (enabled : Bool) {ms : List Micro} (is : List Nat) (h : VhostUserHandler B M) :
    Gets d (h, (is.map fun i => .setQueueEventIdx i enabled) ++ ms)
      ({ h with vrings := is.foldl (fun vs i => vs.modify i fun v => v.setQueueEventIdx enabled) h.vrings }, ms) := by
  induction is generalizing h with
  | nil => exact .refl _
  | cons i is ih =>
    have hset : h.exec d (.setQueueEventIdx i enabled) =
        (.ok [], h.modVring i fun v => v.setQueueEventIdx enabled) := rfl
    exact (gets_ok hset).trans (ih _)

/-- Checking and starting a ring, the tail of two requests. -/
theorem gets_vringNeedsInit (h : VhostUserHandler B M) (index : UInt8) {v : VringState}
    (hv : h.vrings[index.toNat]? = some v) :
    Gets d (h, [.vringNeedsInit index.toNat index]) ((h.initIfNeeded index).2, []) := by
  rw [initIfNeeded, withVring, hv]
  dsimp only
  by_cases hneed : vringNeedsInit v = true
  · have he : h.exec d (.vringNeedsInit index.toNat index) =
        (.ok [.setQueueReady index.toNat true, .updateVringRegistration index.toNat index], h) := by
      simp [exec, hv, hneed]
    have hset : h.exec d (.setQueueReady index.toNat true) =
        (.ok [], h.modVring index.toNat fun v => v.setQueueReady true) := rfl
    rw [if_pos hneed, initializeVring]
    exact (gets_ok he).trans (gets_updated hset)
  · have he : h.exec d (.vringNeedsInit index.toNat index) = (.ok [], h) := by simp [exec, hv, hneed]
    rw [if_neg hneed]
    exact gets_ok he

/-- Rings and exit event of each worker. -/
def layout (h : VhostUserHandler B M) : List (List Nat × Option File) :=
  h.handlers.map fun w => (w.vrings, w.exitEventFd)

theorem layout_registerEvent {w w' : VringEpollHandler} {fd : File} {data : UInt64}
    (hr : w.registerEvent fd data = .ok w') : (w'.vrings, w'.exitEventFd) = (w.vrings, w.exitEventFd) := by
  simp only [VringEpollHandler.registerEvent] at hr
  split at hr <;> cases hr
  rfl

theorem layout_unregisterEvent {w w' : VringEpollHandler} {fd : File}
    (hr : w.unregisterEvent fd = .ok w') : (w'.vrings, w'.exitEventFd) = (w.vrings, w.exitEventFd) := by
  simp only [VringEpollHandler.unregisterEvent] at hr
  split at hr <;> cases hr
  rfl

theorem layout_set {t : Nat} {w w' : VringEpollHandler} (hw : h.handlers[t]? = some w)
    (hsame : (w'.vrings, w'.exitEventFd) = (w.vrings, w.exitEventFd)) :
    layout { h with handlers := h.handlers.set t w' } = h.layout := by
  simp only [layout, List.map_set, hsame]
  obtain ⟨ht, rfl⟩ := List.getElem?_eq_some_iff.1 hw
  have hget : (h.handlers.map fun w => (w.vrings, w.exitEventFd))[t]? =
      some (h.handlers[t].vrings, h.handlers[t].exitEventFd) := by
    rw [List.getElem?_map, hw]
    rfl
  obtain ⟨ht', heq⟩ := List.getElem?_eq_some_iff.1 hget
  rw [← heq, List.set_getElem_self]

/-- The refresh of a registration changes nothing but epoll sets. -/
theorem updateVringRegistration_frame (h : VhostUserHandler B M) (i : Nat) (index : UInt8) :
    ∃ hs, (h.updateVringRegistration i index).2 = { h with handlers := hs } ∧
      layout { h with handlers := hs } = h.layout := by
  rcases h.updateVringRegistration_cases i index with hsame | ⟨_, t, _, w, w', -, -, hw, hr, hset⟩
  · exact ⟨h.handlers, by rw [hsame], rfl⟩
  · refine ⟨_, by rw [hset], layout_set hw ?_⟩
    rcases hr with hr | hr
    · exact layout_registerEvent hr
    · exact layout_unregisterEvent hr

theorem setEnabledAll_frame (enabled : Bool) (is : List Nat) (h : VhostUserHandler B M) :
    (setEnabledAll enabled is h).2.vrings.length = h.vrings.length ∧
      (setEnabledAll enabled is h).2.ackedFeatures = h.ackedFeatures := by
  obtain ⟨hs, hall⟩ := setEnabledAll_eq enabled is h
  rw [hall]
  exact ⟨length_foldl_modify _ is h.vrings, rfl⟩

/-- The end of `set_features`. -/
theorem gets_ackFeatures (h : VhostUserHandler B M) {n : Nat} {features : UInt64} (hn : h.vrings.length = n)
    (ha : h.ackedFeatures = features) :
    Gets d (h, ((List.range n).map fun i =>
        Micro.setQueueEventIdx i ((features &&& (1 <<< VIRTIO_RING_F_EVENT_IDX)) != 0)) ++
      [.ackFeatures ((features &&& (1 <<< VIRTIO_RING_F_EVENT_IDX)) != 0)]) (h.ackFeatures d, []) := by
  subst hn ha
  refine (gets_eventIdx _ _ h).trans ⟨1, ?_⟩
  rw [foldl_modify_range]
  rfl

/-- A request for one ring: nothing is left to do when there is no such ring. -/
theorem gets_withVring {α : Type} {i : Nat} {p : List Micro}
    {f : VringState → Except Error α × VhostUserHandler B M}
    (hf : ∀ v, h.vrings[i]? = some v → Gets d (h, p) ((f v).2, [])) :
    Gets d (h, if i < h.vrings.length then p else []) ((h.withVring i f).2, []) := by
  rw [withVring]
  cases hv : h.vrings[i]? with
  | none =>
    rw [if_neg (by simpa using hv)]
    exact .refl _
  | some v =>
    rw [if_pos (List.getElem?_eq_some_iff.1 hv).1]
    exact hf v hv

/-- A ring is given a descriptor, which may start it. -/
theorem gets_initIfNeeded {m : Micro} {index : UInt8} {f : VringState → VringState} {v : VringState}
    (hm : h.exec d m = (.ok [], h.modVring index.toNat f)) (hv : h.vrings[index.toNat]? = some v) :
    Gets d (h, [m, .vringNeedsInit index.toNat index]) (((h.modVring index.toNat f).initIfNeeded index).2, []) := by
  refine (gets_ok hm).trans (gets_vringNeedsInit _ index (v := f v) ?_)
  rw [vrings_modVring, if_pos rfl, hv]
  rfl

theorem gets_setFeatures (h : VhostUserHandler B M) (features : UInt64) :
    Gets d (h, h.program d (.setFeatures features)) ((h.setFeatures d features).2, []) := by
  simp only [program, setFeatures]
  split
  · exact .refl _
  · refine (gets_ok (m := .setAcked features) rfl).trans ?_
    rw [enableUnlessProtocol]
    split
    · rw [List.append_assoc]
      refine (gets_enableProgram true _ _).trans ?_
      obtain ⟨hlen, hack⟩ := setEnabledAll_frame true (List.range h.vrings.length)
        { h with ackedFeatures := features, featuresAcked := true }
      rcases hr : setEnabledAll true (List.range h.vrings.length)
        { h with ackedFeatures := features, featuresAcked := true } with ⟨res, h'⟩
      rw [hr] at hlen hack
      cases res with
      | error e => exact .refl _
      | ok u => exact gets_ackFeatures h' hlen hack
    · exact gets_ackFeatures _ rfl rfl

theorem gets_setVringEnable (h : VhostUserHandler B M) (index : UInt32) (enable : Bool) :
    Gets d (h, h.program d (.setVringEnable index enable)) ((h.setVringEnable index enable).2, []) := by
  simp only [program, setVringEnable]
  cases h.checkFeature VhostUserVirtioFeatures.PROTOCOL_FEATURES with
  | error e => exact .refl _
  | ok u => exact gets_withVring fun v _ => gets_updated rfl

theorem gets_getVringBase (h : VhostUserHandler B M) (index : UInt32) :
    Gets d (h, h.program d (.getVringBase index)) ((h.getVringBase index).2, []) := by
  refine gets_withVring fun v _ => ?_
  have hset : h.exec d (.setQueueReady index.toNat false) =
      (.ok [], h.modVring index.toNat fun v => v.setQueueReady false) := rfl
  refine (gets_ok hset).trans ((gets_updateVringRegistration _ _ _ _).trans ?_)
  rcases (h.modVring index.toNat fun v => v.setQueueReady false).updateVringRegistration index.toNat
    index.toUInt8 with ⟨res, h'⟩
  cases res with
  | error e => exact .refl _
  | ok u => exact ⟨3, rfl⟩

theorem gets_resetDevice (h : VhostUserHandler B M) :
    Gets d (h, h.program d .resetDevice) ((h.resetDevice d).2, []) := by
  simp only [program, resetDevice]
  refine (gets_enableProgram false _ h).trans ?_
  rcases setEnabledAll false (List.range h.vrings.length) h with ⟨res, h'⟩
  cases res with
  | error e => exact .refl _
  | ok u => exact ⟨1, rfl⟩

/-- **Served without interruption, the steps of a request are the request.** -/
theorem control_program (d : Deps B M) (h : VhostUserHandler B M) (r : RingRequest) :
    Gets d (h, h.program d r) (h.after d r, []) := by
  cases r with
  | setFeatures features => exact gets_setFeatures h features
  | setVringKick index file => exact gets_withVring fun v hv => gets_initIfNeeded rfl hv
  | setVringCall index file => exact gets_withVring fun v hv => gets_initIfNeeded rfl hv
  | setVringEnable index enable => exact gets_setVringEnable h index enable
  | getVringBase index => exact gets_getVringBase h index
  | resetDevice => exact gets_resetDevice h
  | resetOwner => exact ⟨1, rfl⟩

end VhostUserHandler

/-! ### What one step can change -/

/-- The step's change of ring `r`. -/
def Micro.onRing (r : Nat) : Micro → VringState → VringState
  | .setEnabled i enabled, v => if i = r then v.setEnabled enabled else v
  | .setQueueReady i ready, v => if i = r then v.setQueueReady ready else v
  | .setKick i file, v => if i = r then v.setKick file else v
  | .setCall i file, v => if i = r then v.setCall file else v
  | .setQueueEventIdx i enabled, v => if i = r then v.setQueueEventIdx enabled else v
  | _, v => v

namespace Micro

/-- A step leaves a ring alone or makes the one change it names. -/
theorem onRing_cases (m : Micro) (r : Nat) (v : VringState) :
    m.onRing r v = v ∨ (∃ enabled, m = .setEnabled r enabled ∧ m.onRing r v = v.setEnabled enabled) ∨
      (∃ ready, m = .setQueueReady r ready ∧ m.onRing r v = v.setQueueReady ready) ∨
      (∃ file, m = .setKick r file ∧ m.onRing r v = v.setKick file) ∨
      (∃ file, m = .setCall r file ∧ m.onRing r v = v.setCall file) ∨
      ∃ enabled, m = .setQueueEventIdx r enabled ∧ m.onRing r v = v.setQueueEventIdx enabled := by
  cases m with
  | setEnabled i _ | setQueueReady i _ | setKick i _ | setCall i _ | setQueueEventIdx i _ =>
    by_cases hi : i = r
    · subst hi
      simp [onRing]
    · exact .inl (by simp [onRing, hi])
  | _ => exact .inl rfl

theorem enabled_onRing (m : Micro) (r : Nat) (v : VringState) :
    (m.onRing r v).enabled = v.enabled ∨ m = .setEnabled r (m.onRing r v).enabled := by
  rcases m.onRing_cases r v with h | ⟨enabled, hm, h⟩ | ⟨_, -, h⟩ | ⟨_, -, h⟩ | ⟨_, -, h⟩ | ⟨_, -, h⟩
  case inr.inl => exact .inr (by rw [h]; exact hm)
  case inl => exact .inl (by rw [h])
  all_goals exact .inl (by rw [h]; rfl)

theorem ready_onRing (m : Micro) (r : Nat) (v : VringState) :
    (m.onRing r v).queue.ready = v.queue.ready ∨ m = .setQueueReady r (m.onRing r v).queue.ready := by
  rcases m.onRing_cases r v with h | ⟨_, -, h⟩ | ⟨ready, hm, h⟩ | ⟨_, -, h⟩ | ⟨_, -, h⟩ | ⟨_, -, h⟩
  case inr.inr.inl => exact .inr (by rw [h]; exact hm)
  case inl => exact .inl (by rw [h])
  all_goals exact .inl (by rw [h]; rfl)

theorem kick_onRing (m : Micro) (r : Nat) (v : VringState) :
    (m.onRing r v).kick = v.kick ∨ m = .setKick r (m.onRing r v).kick := by
  rcases m.onRing_cases r v with h | ⟨_, -, h⟩ | ⟨_, -, h⟩ | ⟨file, hm, h⟩ | ⟨_, -, h⟩ | ⟨_, -, h⟩
  case inr.inr.inr.inl => exact .inr (by rw [h]; exact hm)
  case inl => exact .inl (by rw [h])
  all_goals exact .inl (by rw [h]; rfl)

end Micro

namespace VhostUserHandler
variable {B M : Type} {d : Deps B M} {h : VhostUserHandler B M}

theorem exec_updateVringRegistration (i : Nat) (index : UInt8) :
    (h.exec d (.updateVringRegistration i index)).2 = (h.updateVringRegistration i index).2 := by
  rw [exec]
  split <;> simp_all

theorem vrings_exec (m : Micro) (r : Nat) : (h.exec d m).2.vrings[r]? = (h.vrings[r]?).map (m.onRing r) := by
  have hid : h.vrings[r]? = (h.vrings[r]?).map fun v => v := by simp
  have hmod : ∀ (i : Nat) (f : VringState → VringState),
      (h.modVring i f).vrings[r]? = (h.vrings[r]?).map fun v => if i = r then f v else v := by
    intro i f
    rw [vrings_modVring]
    split
    · rfl
    · exact hid
  cases m with
  | setEnabled i enabled => exact hmod i _
  | setQueueReady i ready => exact hmod i _
  | setKick i file => exact hmod i _
  | setCall i file => exact hmod i _
  | setQueueEventIdx i enabled => exact hmod i _
  | updateVringRegistration i index =>
    obtain ⟨hs, hu, -⟩ := updateVringRegistration_frame h i index
    rw [exec_updateVringRegistration, hu]
    exact hid
  | _ => exact hid

theorem layout_exec (m : Micro) : (h.exec d m).2.layout = h.layout := by
  cases m with
  | updateVringRegistration i index =>
    obtain ⟨hs, hu, hl⟩ := updateVringRegistration_frame h i index
    rw [exec_updateVringRegistration, hu, hl]
  | _ => rfl

end VhostUserHandler

/-! ## Workers -/

/-- Where a worker is: events of its last `epoll_wait` still to handle, the event for which it goes
on to call the backend with the kicks it read, and whether it has left its loop. -/
structure WorkerState where
  events : List UInt16
  holding : Option (UInt16 × List Nat)
  stopped : Bool
deriving DecidableEq, Repr

inductive ReadKick where
  | blocked
  | failed
  | ok (enabled : Bool) (kicks : List Nat) (pending : File → List Nat)

/-- Reading a counter at zero fails on a non-blocking descriptor and waits on any other. -/
def VringState.readKick (v : VringState) (nonblock : File → Bool) (pending : File → List Nat) : ReadKick :=
  match v.kick with
  | none => .ok v.enabled [] pending
  | some fd =>
    if pending fd = [] then if nonblock fd then .failed else .blocked
    else .ok v.enabled (pending fd) (Function.update pending fd [])

/-- The whole system. The last four fields are ghosts: the number of the next kick, the kicks made
for each ring while it was started, the number the next kick had at the last call of the backend
for the ring, and every kick descriptor of the ring. -/
structure Sys (B M : Type) where
  handler : VhostUserHandler B M
  todo : List Micro
  pending : File → List Nat
  workers : Nat → WorkerState
  next : Nat
  kicks : Nat → List Nat
  lastCall : Nat → Nat
  hist : Nat → List File

inductive Action where
  /-- the control thread takes a request -/
  | request (r : VhostUserHandler.RingRequest)
  /-- its next locked step -/
  | control
  /-- the guest writes to a descriptor -/
  | kick (fd : File)
  /-- `epoll_wait` of worker `t` returns -/
  | wait (t : Nat) (events : List (File × UInt64))
  | handleEvent (t : Nat)
  /-- the backend's `handle_event`, and whether it succeeds -/
  | dispatch (t : Nat) (ok : Bool)
deriving DecidableEq

namespace Sys
variable {B M : Type}

def init (h : VhostUserHandler B M) : Sys B M :=
  ⟨h, [], fun _ => [], fun _ => ⟨[], none, false⟩, 0, fun _ => [], fun _ => 0, fun _ => []⟩

/-- The ring worker `t` reads for a device event. -/
def ringOf (s : Sys B M) (t : Nat) (ev : UInt16) : Option Nat :=
  (s.handler.layout[t]?).bind fun w => w.1[ev.toNat]?

def setWorker (s : Sys B M) (t : Nat) (w : WorkerState) : Sys B M :=
  { s with workers := Function.update s.workers t w }

def request (d : Deps B M) (s : Sys B M) (r : VhostUserHandler.RingRequest) : Sys B M :=
  if s.todo = [] then { s with todo := s.handler.program d r } else s

def control (d : Deps B M) (s : Sys B M) : Sys B M :=
  { s with
    handler := (VhostUserHandler.control d (s.handler, s.todo)).1
    todo := (VhostUserHandler.control d (s.handler, s.todo)).2
    hist := match s.todo with
      | .setKick i file :: _ => VhostUserHandler.record s.hist i file
      | _ => s.hist }

/-- `fd` is the kick descriptor of a started ring `r`. -/
def Started (h : VhostUserHandler B M) (r : Nat) (fd : File) : Prop :=
  ∃ v, h.vrings[r]? = some v ∧ v.kick = some fd ∧ v.queue.ready = true

instance (h : VhostUserHandler B M) (r : Nat) (fd : File) : Decidable (Started h r fd) :=
  decidable_of_iff (∃ v ∈ h.vrings[r]?, v.kick = some fd ∧ v.queue.ready = true) Iff.rfl

def kick (s : Sys B M) (fd : File) : Sys B M :=
  { s with
    pending := Function.update s.pending fd (s.next :: s.pending fd)
    next := s.next + 1
    kicks := fun r => if Started s.handler r fd then s.next :: s.kicks r else s.kicks r }

def EPOLL_EVENTS_LEN : Nat := 100

/-- The ready descriptors of worker `t`, as many as the buffer holds, in some order. -/
def isSnapshot (s : Sys B M) (t : Nat) (events : List (File × UInt64)) : Bool :=
  match s.handler.handlers[t]? with
  | none => false
  | some w =>
    let ready := w.epoll.filter fun p => s.pending p.1 ≠ []
    decide (events ≠ []) && decide (events.length = min EPOLL_EVENTS_LEN ready.length)
      && decide events.Nodup && events.all fun p => p ∈ ready

def wait (s : Sys B M) (t : Nat) (events : List (File × UInt64)) : Sys B M :=
  match s.workers t with
  | ⟨[], none, false⟩ =>
    if s.isSnapshot t events then s.setWorker t ⟨events.map fun p => p.2.toUInt16, none, false⟩ else s
  | _ => s

/-- `handle_event` up to the decision to call the backend. -/
def handleEvent (nonblock : File → Bool) (s : Sys B M) (t : Nat) : Sys B M :=
  match s.workers t, s.handler.layout[t]? with
  | ⟨ev :: rest, none, false⟩, some (rings, exitEventFd) =>
    if exitEventFd.isSome && ev.toNat == s.handler.numQueues then s.setWorker t ⟨[], none, true⟩
    else
      match rings[ev.toNat]? with
      | none => s.setWorker t ⟨rest, some (ev, []), false⟩
      | some r =>
        match s.handler.vrings[r]? with
        | none => s
        | some v =>
          match v.readKick nonblock s.pending with
          | .blocked => s
          | .failed => s.setWorker t ⟨[], none, true⟩
          | .ok enabled kicks pending =>
            { s with pending := pending }.setWorker t ⟨rest, if enabled then some (ev, kicks) else none, false⟩
  | _, _ => s

/-- The call of the backend; an error of it ends the worker. -/
def dispatch (s : Sys B M) (t : Nat) (ok : Bool) : Sys B M :=
  match s.workers t with
  | ⟨events, some (ev, _), false⟩ =>
    let s' := s.setWorker t ⟨if ok then events else [], none, !ok⟩
    { s' with lastCall := match s.ringOf t ev with
        | some r => Function.update s.lastCall r s.next
        | none => s.lastCall }
  | _ => s

def step (d : Deps B M) (nonblock : File → Bool) (s : Sys B M) : Action → Sys B M
  | .request r => s.request d r
  | .control => s.control d
  | .kick fd => s.kick fd
  | .wait t events => s.wait t events
  | .handleEvent t => s.handleEvent nonblock t
  | .dispatch t ok => s.dispatch t ok

/-! ### What one step can change -/

/-- The device event and the ring whose `read_kick` the next `handle_event` of worker `t` evaluates. -/
def nextRead (s : Sys B M) (t : Nat) : Option (UInt16 × Nat) :=
  match s.workers t, s.handler.layout[t]? with
  | ⟨ev :: _, none, false⟩, some (rings, exitEventFd) =>
    if exitEventFd.isSome && ev.toNat == s.handler.numQueues then none
    else (rings[ev.toNat]?).map fun r => (ev, r)
  | _, _ => none

theorem nextRead_spec {s : Sys B M} {t r : Nat} {ev : UInt16} (hn : s.nextRead t = some (ev, r)) :
    (s.workers t).holding = none ∧ ev ∈ (s.workers t).events ∧ s.ringOf t ev = some r := by
  rw [nextRead] at hn
  split at hn
  · rename_i ev' rest rings exitEventFd hw hl
    split at hn
    · cases hn
    · obtain ⟨r', hring, heq⟩ := Option.map_eq_some_iff.1 hn
      cases heq
      exact ⟨by rw [hw], by rw [hw]; simp, by simp [ringOf, hl, hring]⟩
  · cases hn

/-- The outcomes of `handle_event` up to the call of the backend. -/
inductive Handled (nonblock : File → Bool) (s : Sys B M) (t : Nat) : Sys B M → Prop
  | unchanged : Handled nonblock s t s
  | stop : (s.workers t).holding = none → Handled nonblock s t (s.setWorker t ⟨[], none, true⟩)
  | listener {ev : UInt16} {rest : List UInt16} : s.workers t = ⟨ev :: rest, none, false⟩ →
      s.ringOf t ev = none → Handled nonblock s t (s.setWorker t ⟨rest, some (ev, []), false⟩)
  | read {ev : UInt16} {rest : List UInt16} {r : Nat} {v : VringState} {enabled : Bool} {kicks : List Nat}
      {pending : File → List Nat} : s.workers t = ⟨ev :: rest, none, false⟩ → s.nextRead t = some (ev, r) →
      s.ringOf t ev = some r → s.handler.vrings[r]? = some v →
      v.readKick nonblock s.pending = .ok enabled kicks pending →
      Handled nonblock s t
        ({ s with pending := pending }.setWorker t ⟨rest, if enabled then some (ev, kicks) else none, false⟩)

theorem handled (nonblock : File → Bool) (s : Sys B M) (t : Nat) :
    Handled nonblock s t (s.handleEvent nonblock t) := by
  rw [handleEvent]
  split
  · rename_i ev rest rings exitEventFd hw hl
    split
    · exact .stop (by rw [hw])
    · rename_i hexit
      split
      · rename_i hring
        exact .listener hw (by simp [ringOf, hl, hring])
      · rename_i r hring
        split
        · exact .unchanged
        · rename_i v hv
          split
          · exact .unchanged
          · exact .stop (by rw [hw])
          · rename_i enabled kicks pending hread
            exact .read hw (by simp [nextRead, hw, hl, hexit, hring]) (by simp [ringOf, hl, hring]) hv hread
  · exact .unchanged

/-- What a successful `read_kick` returns and consumes. -/
theorem readKick_ok {v : VringState} {nonblock : File → Bool} {pending pending' : File → List Nat}
    {enabled : Bool} {kicks : List Nat} (hr : v.readKick nonblock pending = .ok enabled kicks pending') :
    enabled = v.enabled ∧ ((v.kick = none ∧ kicks = [] ∧ pending' = pending) ∨
      ∃ fd, v.kick = some fd ∧ kicks = pending fd ∧ pending' = Function.update pending fd []) := by
  unfold VringState.readKick at hr
  split at hr
  · rename_i hk
    cases hr
    exact ⟨rfl, .inl ⟨hk, rfl, rfl⟩⟩
  · rename_i fd hk
    split at hr
    · split at hr <;> cases hr
    · cases hr
      exact ⟨rfl, .inr ⟨fd, hk, rfl, rfl⟩⟩

/-- A `read_kick` that returns. -/
theorem handleEvent_ok {nonblock : File → Bool} {s : Sys B M} {t r : Nat} {ev : UInt16} {v : VringState}
    {enabled : Bool} {kicks : List Nat} {pending : File → List Nat} (hn : s.nextRead t = some (ev, r))
    (hv : s.handler.vrings[r]? = some v) (hr : v.readKick nonblock s.pending = .ok enabled kicks pending) :
    ∃ rest, s.workers t = ⟨ev :: rest, none, false⟩ ∧ s.handleEvent nonblock t =
      { s with pending := pending }.setWorker t ⟨rest, if enabled then some (ev, kicks) else none, false⟩ := by
  rw [nextRead] at hn
  split at hn
  · rename_i ev' rest rings exitEventFd hw hl
    split at hn
    · cases hn
    · rename_i hexit
      obtain ⟨r', hring, heq⟩ := Option.map_eq_some_iff.1 hn
      cases heq
      exact ⟨rest, hw, by simp [handleEvent, hw, hl, hexit, hring, hv, hr]⟩
  · cases hn

/-- A read of a counter that is not zero. -/
theorem handleEvent_read {nonblock : File → Bool} {s : Sys B M} {t r : Nat} {ev : UInt16} {v : VringState}
    {fd : File} (hn : s.nextRead t = some (ev, r)) (hv : s.handler.vrings[r]? = some v) (hk : v.kick = some fd)
    (hp : s.pending fd ≠ []) :
    ∃ rest, s.handleEvent nonblock t = { s with pending := Function.update s.pending fd [] }.setWorker t
      ⟨rest, if v.enabled then some (ev, s.pending fd) else none, false⟩ := by
  have hr : v.readKick nonblock s.pending = .ok v.enabled (s.pending fd) (Function.update s.pending fd []) := by
    simp [VringState.readKick, hk, hp]
  obtain ⟨rest, -, heq⟩ := handleEvent_ok hn hv hr
  exact ⟨rest, heq⟩

theorem workers_setWorker (s : Sys B M) (t t' : Nat) (w : WorkerState) :
    (s.setWorker t w).workers t' = if t' = t then w else s.workers t' :=
  Function.update_apply s.workers t w t'

/-- A request is taken when the one before it is done. -/
theorem request_cases (d : Deps B M) (s : Sys B M) (r : VhostUserHandler.RingRequest) :
    s.request d r = s ∨ s.todo = [] ∧ s.request d r = { s with todo := s.handler.program d r } := by
  by_cases hidle : s.todo = []
  · exact .inr ⟨hidle, if_pos hidle⟩
  · exact .inl (if_neg hidle)

/-- An idle worker gets the events of a snapshot. -/
theorem wait_cases (s : Sys B M) (t : Nat) (events : List (File × UInt64)) :
    s.wait t events = s ∨ s.workers t = ⟨[], none, false⟩ ∧ s.isSnapshot t events = true ∧
      s.wait t events = s.setWorker t ⟨events.map fun p => p.2.toUInt16, none, false⟩ := by
  rw [wait]
  split
  · rename_i hidle
    by_cases hsnap : s.isSnapshot t events = true
    · exact .inr ⟨hidle, hsnap, if_pos hsnap⟩
    · exact .inl (if_neg hsnap)
  · exact .inl rfl

/-- A worker that holds an event calls the backend with it. -/
theorem dispatch_cases (s : Sys B M) (t : Nat) (ok : Bool) :
    s.dispatch t ok = s ∨ ∃ events ev kicks lastCall, s.workers t = ⟨events, some (ev, kicks), false⟩ ∧
      (lastCall = match s.ringOf t ev with
        | some r => Function.update s.lastCall r s.next
        | none => s.lastCall) ∧
      s.dispatch t ok = { s.setWorker t ⟨if ok then events else [], none, !ok⟩ with lastCall := lastCall } := by
  rw [dispatch]
  split
  · rename_i events ev kicks hheld
    exact .inr ⟨events, ev, kicks, _, hheld, rfl, rfl⟩
  · exact .inl rfl

/-- The control thread's step, seen from the workers. -/
theorem control_cases (d : Deps B M) (s : Sys B M) :
    s.control d = s ∨ ∃ m ms, s.todo = m :: ms ∧ (s.control d).handler = (s.handler.exec d m).2 ∧
      (s.control d).pending = s.pending ∧ (s.control d).workers = s.workers ∧ (s.control d).next = s.next ∧
      (s.control d).kicks = s.kicks ∧ (s.control d).lastCall = s.lastCall ∧
      (s.control d).hist = match m with
        | .setKick i file => VhostUserHandler.record s.hist i file
        | _ => s.hist := by
  cases htodo : s.todo with
  | nil =>
    refine .inl ?_
    cases s
    simp only at htodo
    subst htodo
    rfl
  | cons m ms =>
    refine .inr ⟨m, ms, rfl, ?_, rfl, rfl, rfl, rfl, rfl, ?_⟩
    · simp only [control, htodo, VhostUserHandler.control]
      split <;> simp_all
    · simp only [control, htodo]
      cases m <;> rfl

theorem mem_hist_control (d : Deps B M) {s : Sys B M} {i : Nat} {fd : File} (hmem : fd ∈ s.hist i) :
    fd ∈ (s.control d).hist i := by
  rcases control_cases d s with heq | ⟨m, ms, -, -, -, -, -, -, -, hhist⟩
  · rw [heq]
    exact hmem
  · rw [hhist]
    cases m with
    | setKick j file => exact VhostUserHandler.mem_record_of_mem hmem
    | _ => exact hmem

theorem kick_exec {d : Deps B M} {h : VhostUserHandler B M} {m : Micro} {i : Nat} {fd : File}
    (hk : (h.exec d m).2.Kick i fd) : h.Kick i fd ∨ m = .setKick i (some fd) := by
  obtain ⟨v, hv, hvk⟩ := hk
  rw [VhostUserHandler.vrings_exec] at hv
  obtain ⟨v', hv', rfl⟩ := Option.map_eq_some_iff.1 hv
  rcases m.kick_onRing i v' with hsame | hm
  · exact .inl ⟨v', hv', hsame ▸ hvk⟩
  · rw [hvk] at hm
    exact .inr hm

/-- The history has the descriptors of the rings, after the step as before. -/
theorem kick_mem_control {d : Deps B M} {s : Sys B M}
    (hmem : ∀ {i fd}, s.handler.Kick i fd → fd ∈ s.hist i) {i : Nat} {fd : File}
    (hk : (s.control d).handler.Kick i fd) : fd ∈ (s.control d).hist i := by
  rcases control_cases d s with heq | ⟨m, ms, -, hh, -, -, -, -, -, hhist⟩
  · rw [heq] at hk ⊢
    exact hmem hk
  · rw [hh] at hk
    rcases kick_exec hk with hk | hm
    · exact mem_hist_control d (hmem hk)
    · rw [hhist, hm]
      simp [VhostUserHandler.record]

end Sys

end VhostUser
