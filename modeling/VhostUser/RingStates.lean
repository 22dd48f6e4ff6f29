import VhostUser.Lib.Indices
import VhostUser.Registration
/-!
# The ring states of the specification

A vhost-user ring is stopped or started, and, apart from that, disabled or enabled. The handler has
no such state: `ready` of the queue and `enabled` of the vring are set by seven requests, partly
through the lazy initialisation that `set_vring_kick` and `set_vring_call` share
(`handler.rs:200-211`). `RingMachine` is the state machine of the specification, driven by the
history of requests; the handler follows it (`ring_states`).

The invariant that carries it is that a ring with a kick descriptor is started. Then the lazy
initialisation finds nothing to do except in `set_vring_kick` itself, and `set_vring_call` cannot
start a stopped ring.
-/
namespace VhostUser
open PointUpdate

/-! ## The specification -/

structure RingState where
  started : Bool
  enabled : Bool
deriving DecidableEq, Repr

namespace RingState

def start (r : RingState) : RingState := { r with started := true }
def stop (r : RingState) : RingState := { r with started := false }
def setEnabled (enabled : Bool) (r : RingState) : RingState := { r with enabled := enabled }

end RingState

/-- All rings, and the features acknowledged since the last reset. -/
structure RingMachine where
  acked : UInt64
  rings : List RingState
deriving DecidableEq, Repr

namespace RingMachine

/-- Every ring stopped and disabled, no features acknowledged. -/
def init (numQueues : Nat) : RingMachine := ⟨0, List.replicate numQueues ⟨false, false⟩⟩

/-- One request and whether it was accepted. -/
def step (m : RingMachine) : Call × Bool → RingMachine
  | (.setVringKick index (some _), _) => { m with rings := m.rings.modify index.toNat .start }
  | (.getVringBase index, _) => { m with rings := m.rings.modify index.toNat .stop }
  | (.setFeatures features, true) =>
    if features &&& VhostUserVirtioFeatures.PROTOCOL_FEATURES = 0 then
      ⟨features, m.rings.map (.setEnabled true)⟩
    else { m with acked := features }
  | (.setVringEnable index enable, _) =>
    if m.acked &&& VhostUserVirtioFeatures.PROTOCOL_FEATURES ≠ 0 then
      { m with rings := m.rings.modify index.toNat (.setEnabled enable) }
    else m
  | (.resetDevice, _) => ⟨0, m.rings.map (.setEnabled false)⟩
  | (.resetOwner, _) => { m with acked := 0 }
  | _ => m

end RingMachine

/-- The method returned `Ok`; `set_backend_req_fd` returns nothing. -/
def Call.accepted : (c : Call) → c.Res → Bool
  | .setBackendReqFd _, _ => true
  | .getFeatures, r | .getProtocolFeatures, r | .getQueueNum, r | .getMaxMemSlots, r
  | .getVringBase _, r | .getConfig .., r | .getSharedObject _, r | .postcopyAdvice, r
  | .getInflightFd _, r | .setDeviceStateFd .., r | .getShmemConfig, r | .setOwner, r
  | .resetOwner, r | .resetDevice, r | .setFeatures _, r | .setMemTable .., r | .setVringNum .., r
  | .setVringAddr .., r | .setVringBase .., r | .setVringKick .., r | .setVringCall .., r
  | .setVringErr .., r | .setProtocolFeatures _, r | .setVringEnable .., r | .setConfig .., r
  | .setGpuSocket _, r | .setInflightFd .., r | .addMemRegion .., r | .removeMemRegion _, r
  | .checkDeviceState, r | .postcopyListen, r | .postcopyEnd, r | .setLogBase .., r => r.isOk

namespace VhostUserHandler
variable {B M : Type}

/-- The requests one after the other, on a handler that answers each before the next. -/
def runCalls (d : Deps B M) (h : VhostUserHandler B M) (cs : List Call) : VhostUserHandler B M :=
  Trace.run (fun h c => (h.invoke d c).2) h cs

/-- The same run as seen from outside: the requests and whether they were accepted. -/
def history (d : Deps B M) (h : VhostUserHandler B M) : List Call → List (Call × Bool)
  | [] => []
  | c :: cs => (c, c.accepted (h.invoke d c).1) :: history d (h.invoke d c).2 cs

/-- The two flags of a ring. -/
def ringOf (v : VringState) : RingState := ⟨v.queue.ready, v.enabled⟩

/-! ## What the helpers change -/

/-- The refresh of a registration never fails and changes nothing but the epoll sets. -/
theorem updateVringRegistration_eq (h : VhostUserHandler B M) (i : Nat) (index : UInt8) :
    ∃ hs, h.updateVringRegistration i index = (.ok (), { h with handlers := hs }) := by
  rcases h.updateVringRegistration_cases i index with hsame | ⟨_, _, _, _, _, -, -, -, -, hset⟩
  · exact ⟨h.handlers, hsame⟩
  · exact ⟨_, hset⟩

/-- Enabling or disabling a list of rings never fails. -/
theorem setEnabledAll_eq (enabled : Bool) (is : List Nat) (h : VhostUserHandler B M) :
    ∃ hs, setEnabledAll enabled is h = (.ok (), { h with
      handlers := hs
      vrings := is.foldl (fun vs i => vs.modify i fun v => v.setEnabled enabled) h.vrings }) := by
  induction is generalizing h with
  | nil => exact ⟨h.handlers, rfl⟩
  | cons i is ih =>
    obtain ⟨hs, hup⟩ := updateVringRegistration_eq (h.modVring i fun v => v.setEnabled enabled) i (UInt8.ofNat i)
    rw [setEnabledAll, hup]
    obtain ⟨hs', hall⟩ := ih { h.modVring i fun v => v.setEnabled enabled with handlers := hs }
    exact ⟨hs', hall⟩

/-! ## The handler follows the specification -/

/-- A ring with a kick descriptor is started. -/
def KickStarted (v : VringState) : Prop := v.kick.isSome = true → v.queue.ready = true

structure Follows (h : VhostUserHandler B M) (m : RingMachine) : Prop where
  rings : h.vrings.map ringOf = m.rings
  acked : h.ackedFeatures = m.acked
  kick : ∀ v ∈ h.vrings, KickStarted v

section Follows
variable {h h' : VhostUserHandler B M} {m : RingMachine}

/-- Only the vrings and the acknowledged features count. -/
theorem Follows.congr (hf : Follows h m) (hv : h'.vrings = h.vrings) (ha : h'.ackedFeatures = h.ackedFeatures) :
    Follows h' m :=
  ⟨hv ▸ hf.rings, ha.trans hf.acked, hv ▸ hf.kick⟩

/-- A change of one ring that shows in its state as `g`. -/
theorem Follows.modVring (hf : Follows h m) (i : Nat) {f : VringState → VringState} {g : RingState → RingState}
    (hring : ∀ v, ringOf (f v) = g (ringOf v)) (hkick : ∀ v, KickStarted v → KickStarted (f v)) :
    Follows (h.modVring i f) { m with rings := m.rings.modify i g } where
  rings := by rw [VhostUserHandler.modVring, map_modify hring, hf.rings]
  acked := hf.acked
  kick v hv := by
    obtain ⟨j, hj⟩ := List.getElem?_of_mem hv
    rw [vrings_modVring] at hj
    split at hj
    · obtain ⟨w, hw, rfl⟩ := Option.map_eq_some_iff.1 hj
      exact hkick w (hf.kick w (List.mem_of_getElem? hw))
    · exact hf.kick v (List.mem_of_getElem? hj)

/-- A change of one ring that does not show. -/
theorem Follows.touch (hf : Follows h m) (i : Nat) {f : VringState → VringState}
    (hring : ∀ v, ringOf (f v) = ringOf v) (hkick : ∀ v, (f v).kick = v.kick) : Follows (h.modVring i f) m := by
  have hready : ∀ v, (f v).queue.ready = v.queue.ready := fun v => congrArg RingState.started (hring v)
  have h' := hf.modVring i (g := id) hring fun v hv => by
    unfold KickStarted
    rw [hkick, hready]
    exact hv
  rwa [List.modify_id] at h'

theorem Follows.refresh (hf : Follows h m) (i : Nat) (index : UInt8) :
    Follows (h.updateVringRegistration i index).2 m := by
  obtain ⟨hs, hup⟩ := updateVringRegistration_eq h i index
  rw [hup]
  exact hf.congr rfl rfl

theorem Follows.setEnabledAll (hf : Follows h m) (enabled : Bool) :
    ∃ h', setEnabledAll enabled (List.range h.vrings.length) h = (.ok (), h') ∧
      Follows h' { m with rings := m.rings.map (.setEnabled enabled) } := by
  obtain ⟨hs, hall⟩ := setEnabledAll_eq enabled (List.range h.vrings.length) h
  refine ⟨_, hall, ?_, hf.acked, ?_⟩
  · rw [foldl_modify_range, ← hf.rings, List.map_map, List.map_map]
    rfl
  · intro v hv
    rw [foldl_modify_range] at hv
    obtain ⟨w, hw, rfl⟩ := List.mem_map.1 hv
    exact hf.kick w hw

/-- The ring `i` becomes `v'`, which looks the same from outside. -/
theorem Follows.replace (hf : Follows h m) {i : Nat} {v v' : VringState} (hv : h.vrings[i]? = some v)
    (hring : ringOf v' = ringOf v) (hkick : v'.kick = v.kick) : Follows (h.modVring i fun _ => v') m := by
  have heq : (h.modVring i fun _ => v') = h.modVring i fun w => if w = v then v' else w := by
    have hsame : h.vrings.modify i (fun _ => v') = h.vrings.modify i fun w => if w = v then v' else w :=
      modify_congr hv (by simp)
    simp only [VhostUserHandler.modVring, hsame]
  rw [heq]
  apply hf.touch
  · intro w
    split
    · rename_i hw
      rw [hring, hw]
    · rfl
  · intro w
    split
    · rename_i hw
      rw [hkick, hw]
    · rfl

/-- Nothing is left to initialise. -/
theorem Follows.initIfNeeded (hf : Follows h m) (index : UInt8) : (h.initIfNeeded index).2 = h := by
  unfold VhostUserHandler.initIfNeeded withVring
  split
  · rfl
  · rename_i v hv
    dsimp only
    rw [if_neg]
    intro hneeds
    simp only [vringNeedsInit, Bool.and_eq_true, Bool.not_eq_true'] at hneeds
    have hready := hf.kick v (List.mem_of_getElem? hv) hneeds.2
    rw [hneeds.1] at hready
    cases hready

theorem Follows.modify_none (hf : Follows h m) {i : Nat} (hi : h.vrings[i]? = none) (g : RingState → RingState) :
    m.rings.modify i g = m.rings := by
  apply List.modify_eq_self
  rw [← hf.rings, List.length_map]
  exact List.getElem?_eq_none_iff.1 hi

/-! One lemma per request that changes a flag. -/

theorem Follows.setVringKick_some (hf : Follows h m) (index : UInt8) (fd : File) :
    Follows (h.setVringKick index (some fd)).2 { m with rings := m.rings.modify index.toNat .start } := by
  have hstart : Follows (h.modVring index.toNat fun v => (v.setKick (some fd)).setQueueReady true)
      { m with rings := m.rings.modify index.toNat .start } :=
    hf.modVring _ (fun v => rfl) fun v _ _ => rfl
  unfold setVringKick withVring
  cases hv : h.vrings[index.toNat]? with
  | none =>
    dsimp only
    rw [hf.modify_none hv]
    exact hf
  | some v =>
    have hv' : (h.modVring index.toNat fun v => v.setKick (some fd)).vrings[index.toNat]? =
        some (v.setKick (some fd)) := by rw [vrings_modVring, if_pos rfl, hv]; rfl
    dsimp only
    unfold VhostUserHandler.initIfNeeded withVring
    rw [hv']
    dsimp only
    split
    · -- the ring was stopped: it is initialised
      refine (Follows.refresh ?_ _ _)
      refine hstart.congr ?_ rfl
      exact List.modify_modify_eq _ _ _ _
    · rename_i hready
      -- the ring was started already
      have hready : v.queue.ready = true := by simpa [vringNeedsInit, VringState.setKick] using hready
      refine hstart.congr (modify_congr hv ?_) rfl
      obtain ⟨q, k, c, e, en⟩ := v
      obtain ⟨ms, sz, r, na, nu, ei, dt, ar, ur⟩ := q
      simp only at hready
      subst hready
      rfl

theorem Follows.setVringKick_none (hf : Follows h m) (index : UInt8) : Follows (h.setVringKick index none).2 m := by
  have hnone : Follows (h.modVring index.toNat fun v => v.setKick none) m := by
    have h' := hf.modVring index.toNat (f := fun v => v.setKick none) (g := id) (fun v => rfl)
      fun v _ hk => by cases hk
    rwa [List.modify_id] at h'
  unfold setVringKick withVring
  split
  · exact hf
  · rw [hnone.initIfNeeded]
    exact hnone

theorem Follows.setVringCall (hf : Follows h m) (index : UInt8) (fd : Option File) :
    Follows (h.setVringCall index fd).2 m := by
  have hcall : Follows (h.modVring index.toNat fun v => v.setCall fd) m :=
    hf.touch _ (fun v => rfl) fun v => rfl
  unfold VhostUserHandler.setVringCall withVring
  split
  · exact hf
  · rw [hcall.initIfNeeded]
    exact hcall

theorem Follows.getVringBase (hf : Follows h m) (index : UInt32) :
    Follows (h.getVringBase index).2 { m with rings := m.rings.modify index.toNat .stop } := by
  -- the three writes of the method as one, so that the kick descriptor goes with `ready`
  have hstop : Follows (h.modVring index.toNat fun v => ((v.setQueueReady false).setKick none).setCall none)
      { m with rings := m.rings.modify index.toNat .stop } :=
    hf.modVring _ (fun v => rfl) fun v _ hk => by cases hk
  unfold VhostUserHandler.getVringBase withVring
  cases hv : h.vrings[index.toNat]? with
  | none =>
    dsimp only
    rw [hf.modify_none hv]
    exact hf
  | some v =>
    obtain ⟨hs, hup⟩ := updateVringRegistration_eq (h.modVring index.toNat fun v => v.setQueueReady false)
      index.toNat index.toUInt8
    dsimp only
    rw [hup]
    refine hstop.congr ?_ rfl
    simp only [VhostUserHandler.modVring, List.modify_modify_eq]
    rfl

theorem Follows.setVringEnable (hf : Follows h m) (index : UInt32) (enable : Bool) :
    Follows (h.setVringEnable index enable).2
      (if m.acked &&& VhostUserVirtioFeatures.PROTOCOL_FEATURES ≠ 0 then
        { m with rings := m.rings.modify index.toNat (.setEnabled enable) } else m) := by
  unfold VhostUserHandler.setVringEnable checkFeature
  rw [hf.acked]
  by_cases hproto : m.acked &&& VhostUserVirtioFeatures.PROTOCOL_FEATURES ≠ 0
  · rw [if_pos hproto, if_pos hproto]
    dsimp only
    unfold withVring
    split
    · rename_i hv
      rw [hf.modify_none hv]
      exact hf
    · have hset : Follows (h.modVring index.toNat fun v => v.setEnabled enable)
          { m with rings := m.rings.modify index.toNat (.setEnabled enable) } :=
        hf.modVring _ (fun v => rfl) fun v hv => hv
      exact hset.refresh _ _
  · rw [if_neg hproto, if_neg hproto]
    exact hf

theorem Follows.setFeatures (hf : Follows h m) (d : Deps B M) (features : UInt64) :
    Follows (h.setFeatures d features).2
      (m.step (.setFeatures features, (h.setFeatures d features).1.isOk)) := by
  have hack : ∀ {h₁ : VhostUserHandler B M} {m₁ : RingMachine}, Follows h₁ m₁ → Follows (h₁.ackFeatures d) m₁ := by
    intro h₁ m₁ hf₁
    refine ⟨?_, hf₁.acked, ?_⟩
    · rw [← hf₁.rings, ackFeatures, List.map_map]
      rfl
    · intro v hv
      obtain ⟨w, hw, rfl⟩ := List.mem_map.1 hv
      exact hf₁.kick w hw
  have hset : Follows { h with ackedFeatures := features, featuresAcked := true } { m with acked := features } :=
    ⟨hf.rings, rfl, hf.kick⟩
  unfold VhostUserHandler.setFeatures
  split
  · exact hf
  · unfold enableUnlessProtocol
    by_cases hproto : features &&& VhostUserVirtioFeatures.PROTOCOL_FEATURES = 0
    · obtain ⟨h', hall, hf'⟩ := hset.setEnabledAll true
      rw [if_pos hproto, hall]
      simp only [RingMachine.step, Except.isOk, Except.toBool, hproto, if_true]
      exact hack hf'
    · rw [if_neg hproto]
      simp only [RingMachine.step, Except.isOk, Except.toBool, hproto, if_false]
      exact hack hset

theorem Follows.resetDevice (hf : Follows h m) (d : Deps B M) :
    Follows (h.resetDevice d).2 ⟨0, m.rings.map (.setEnabled false)⟩ := by
  obtain ⟨h', hall, hf'⟩ := hf.setEnabledAll false
  unfold VhostUserHandler.resetDevice
  rw [hall]
  exact ⟨hf'.rings, rfl, hf'.kick⟩

theorem ringOf_setQueueInfo (v : VringState) (descTable availRing usedRing : UInt64) :
    ringOf (v.setQueueInfo descTable availRing usedRing).2 = ringOf v ∧
      (v.setQueueInfo descTable availRing usedRing).2.kick = v.kick := by
  have hdesc : ∀ {q q' : Queue} {a : UInt64}, q.trySetDescTableAddress a = some q' → q'.ready = q.ready := by
    intro q q' a hq
    unfold Queue.trySetDescTableAddress at hq
    split at hq <;> cases hq
    rfl
  have havail : ∀ {q q' : Queue} {a : UInt64}, q.trySetAvailRingAddress a = some q' → q'.ready = q.ready := by
    intro q q' a hq
    unfold Queue.trySetAvailRingAddress at hq
    split at hq <;> cases hq
    rfl
  have hused : ∀ {q q' : Queue} {a : UInt64}, q.trySetUsedRingAddress a = some q' → q'.ready = q.ready := by
    intro q q' a hq
    unfold Queue.trySetUsedRingAddress at hq
    split at hq <;> cases hq
    rfl
  unfold VringState.setQueueInfo ringOf
  split
  · exact ⟨rfl, rfl⟩
  · rename_i q₁ h₁
    split
    · exact ⟨by simp only [hdesc h₁], rfl⟩
    · rename_i q₂ h₂
      split
      · exact ⟨by simp only [havail h₂, hdesc h₁], rfl⟩
      · rename_i q₃ h₃
        exact ⟨by simp only [hused h₃, havail h₂, hdesc h₁], rfl⟩

theorem Follows.storeAddrs (hf : Follows h m) (d : Deps B M) {index : UInt32} {v : VringState}
    (hv : h.vrings[index.toNat]? = some v) (D A U : UInt64) : Follows (h.storeAddrs d index v D A U).2 m := by
  obtain ⟨hring, hkick⟩ := ringOf_setQueueInfo v D A U
  have hset := hf.replace hv hring hkick
  unfold VhostUserHandler.storeAddrs
  split
  · rename_i v' hinfo
    rw [hinfo] at hset
    exact hset
  · rename_i v' hinfo
    rw [hinfo] at hset
    dsimp only
    split
    · exact hset
    · exact hset.touch _ (fun v => rfl) fun v => rfl

/-- Requests on memory, on the log and to the device leave the rings alone. -/
theorem Follows.replaceMem (hf : Follows h m) (d : Deps B M) (mem : M) (ms : List AddrMapping) :
    Follows (replaceMem d mem ms h).2 m := by
  unfold VhostUserHandler.replaceMem
  dsimp only
  split
  · exact hf.congr rfl rfl
  · exact hf.congr rfl rfl

theorem Follows.allocCells (hf : Follows h m) (n : Nat) : Follows (h.allocCells n) m := hf.congr rfl rfl

theorem Follows.withVring {α : Type} (hf : Follows h m) {i : Nat}
    {f : VringState → Except Error α × VhostUserHandler B M} (hret : ∀ v, Follows (f v).2 m) :
    Follows (h.withVring i f).2 m := by
  unfold VhostUserHandler.withVring
  split
  · exact hf
  · exact hret _

/-- **One request**: the handler after it is where the specification goes. -/
theorem Follows.invoke (hf : Follows h m) (d : Deps B M) (c : Call) :
    Follows (h.invoke d c).2 (m.step (c, c.accepted (h.invoke d c).1)) := by
  cases c with
  | setVringKick index fd =>
    cases fd with
    | some fd => exact hf.setVringKick_some index fd
    | none => exact hf.setVringKick_none index
  | getVringBase index => exact hf.getVringBase index
  | setFeatures features => exact hf.setFeatures d features
  | setVringEnable index enable => exact hf.setVringEnable index enable
  | resetDevice => exact hf.resetDevice d
  | resetOwner => exact ⟨hf.rings, rfl, hf.kick⟩
  | setVringCall index fd => exact hf.setVringCall index fd
  | setVringErr index fd => exact hf.withVring fun v => hf.touch _ (fun v => rfl) fun v => rfl
  | setVringNum index num =>
    refine hf.withVring fun v => ?_
    split
    · exact hf
    · refine hf.touch _ (fun v => ?_) fun v => rfl
      unfold ringOf VringState.setQueueSize Queue.setSize
      dsimp only
      split
      · rfl
      · rfl
  | setVringBase index base => exact hf.withVring fun v => hf.touch _ (fun v => rfl) fun v => rfl
  | setVringAddr index flags descriptor used available log =>
    show Follows (h.invoke d (.setVringAddr index flags descriptor used available log)).2 m
    obtain ⟨e, hset⟩ | ⟨v, D, A, U, hv, hset⟩ :=
      @invoke_setVringAddr_cases _ _ d h index descriptor used available flags log
    · rw [hset]
      exact hf
    · rw [hset]
      exact hf.storeAddrs d hv D A U
  | setOwner =>
    show Follows h.setOwner.2 m
    unfold setOwner
    split
    · exact hf
    · exact hf.congr rfl rfl
  | setMemTable ctx files =>
    show Follows (h.setMemTable d ctx files).2 m
    unfold setMemTable
    split
    · exact hf
    · split
      · exact hf
      · exact (hf.allocCells _).replaceMem d _ _
  | addMemRegion region fd =>
    show Follows (h.addMemRegion d region fd).2 m
    unfold addMemRegion
    split
    · exact hf
    · split
      · exact hf
      · exact (hf.allocCells _).replaceMem d _ _
  | removeMemRegion region =>
    show Follows (h.removeMemRegion d region).2 m
    unfold removeMemRegion
    split
    · exact hf
    · exact hf.replaceMem d _ _
  | setLogBase log file =>
    show Follows (h.setLogBase d log file).2 m
    unfold setLogBase
    split
    · exact hf
    · split
      · exact hf
      · exact hf.congr rfl rfl
  | _ => exact hf.congr rfl rfl

end Follows

theorem length_mapM_replicate {α : Type} {y : Option α} {n : Nat} {ys : List α}
    (h : (List.replicate n ()).mapM (fun _ => y) = some ys) : ys.length = n := by
  induction n generalizing ys with
  | zero =>
    cases h
    rfl
  | succ n ih =>
    rw [List.replicate_succ, List.mapM_cons] at h
    obtain ⟨a, -, h⟩ := Option.bind_eq_some_iff.1 h
    obtain ⟨as, has, h⟩ := Option.bind_eq_some_iff.1 h
    cases h
    rw [List.length_cons, ih has]

theorem length_new {d : Deps B M} {b : B} {mem : M} {heap : LogHeap} {n : Nat} {h : VhostUserHandler B M}
    (hnew : new d b mem heap n = some h) : h.vrings.length = d.backend.numQueues b := by
  obtain ⟨vrings, hvrings, rfl⟩ := new_eq hnew
  exact length_mapM_replicate hvrings

theorem follows_new {d : Deps B M} {b : B} {mem : M} {heap : LogHeap} {n : Nat} {h : VhostUserHandler B M}
    (hnew : new d b mem heap n = some h) : Follows h (.init (d.backend.numQueues b)) := by
  obtain ⟨-, hrings⟩ := new_spec hnew
  have hlen := length_new hnew
  have hacked : h.ackedFeatures = 0 := by
    obtain ⟨vrings, -, rfl⟩ := new_eq hnew
    rfl
  refine ⟨?_, hacked, fun v hv hk => ?_⟩
  · rw [RingMachine.init, List.eq_replicate_iff, List.length_map]
    refine ⟨hlen, fun r hr => ?_⟩
    obtain ⟨v, hv, rfl⟩ := List.mem_map.1 hr
    obtain ⟨-, hready, henabled⟩ := hrings v hv
    rw [ringOf, hready, henabled]
  · rw [(hrings v hv).1] at hk
    cases hk

/-- **The handler follows the ring states.** After any requests, the two flags of every ring are those
the specification reaches on the same history, and a ring with a kick descriptor is started. -/
theorem ring_states {d : Deps B M} {b : B} {mem : M} {heap : LogHeap} {n : Nat} {h : VhostUserHandler B M}
    (hnew : new d b mem heap n = some h) (cs : List Call) :
    (runCalls d h cs).vrings.map ringOf =
        ((history d h cs).foldl RingMachine.step (.init (d.backend.numQueues b))).rings ∧
      ∀ v ∈ (runCalls d h cs).vrings, v.kick.isSome = true → v.queue.ready = true := by
  have hrun : ∀ (cs : List Call) (h : VhostUserHandler B M) (m : RingMachine), Follows h m →
      Follows (runCalls d h cs) ((history d h cs).foldl RingMachine.step m) := by
    intro cs
    induction cs with
    | nil => exact fun _ _ hf => hf
    | cons c cs ih => exact fun h m hf => ih _ _ (hf.invoke d c)
  have hf := hrun cs h _ (follows_new hnew)
  exact ⟨hf.rings, hf.kick⟩

end VhostUserHandler

/-- Kick, `SET_FEATURES` without protocol features, stop: the ring of the plain device ends stopped and
enabled, and a call descriptor does not start it again. -/
theorem ring_states_plain :
    (VhostUserHandler.runCalls (plainDeps true) plainHandler
        [.setVringKick 0 (some 5), .setFeatures 0, .getVringBase 0, .setVringCall 0 (some 6)]).vrings.map
      VhostUserHandler.ringOf = [⟨false, true⟩] :=
  (VhostUserHandler.ring_states (new_plainHandler true) _).1.trans (by decide)

end VhostUser
