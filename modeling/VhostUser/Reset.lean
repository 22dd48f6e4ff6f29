import VhostUser.RingConfig
/-!
# What a reset leaves behind

`RESET_DEVICE` is to disable all rings and to put the device into its initial state
(`message.rs:146-148`). `reset_device` (`handler.rs:279-291`) disables the rings, forgets the features and
resets the backend; the queues keep their size, addresses, positions and flags.

| here | there |
| --- | --- |
| `Initial`     | features and rings as `VhostUserHandler::new` makes them |
| `Retained`    | owner, protocol features and guest memory are those from before |
| `SameRest`    | two handlers that kept the same |
| `outcomes`    | what the requests of a run return |
| `ResetsToInitial` | the reset does what the message asks for |

Two handlers whose rings differ in their call and error descriptors only, and in what is registered with
the workers, give the same outcomes for ever (`Agree`): no request looks at these.
-/
namespace VhostUser
open PointUpdate Trace

namespace VhostUserHandler
variable {B M : Type}

/-! ## What the requests look at -/

/-- A ring without the two descriptors that no request looks at. -/
def bare (v : VringState) : VringState := { v with call := none, err := none }

/-- The same handler but for the workers' registrations and those descriptors. -/
def Agree (h k : VhostUserHandler B M) : Prop :=
  ∃ hs vs, vs.map bare = h.vrings.map bare ∧ k = { h with handlers := hs, vrings := vs }

/-- The same answer, and handlers that agree. -/
def Same {α : Type} (r s : α × VhostUserHandler B M) : Prop := s.1 = r.1 ∧ Agree r.2 s.2

section Agree
variable {h k : VhostUserHandler B M} {α : Type}

theorem Agree.same (ha : Agree h k) (a : α) : Same (a, h) (a, k) := ⟨rfl, ha⟩

theorem Agree.handlers (ha : Agree h k) (hs hs' : List VringEpollHandler) :
    Agree { h with handlers := hs } { k with handlers := hs' } := by
  obtain ⟨_, vs, hvs, rfl⟩ := ha
  exact ⟨hs', vs, hvs, rfl⟩

theorem map_bare_modify {vs ws : List VringState} (hvs : vs.map bare = ws.map bare) (i : Nat)
    {f g : VringState → VringState} (hfg : ∀ v w, bare v = bare w → bare (f v) = bare (g w)) :
    (vs.modify i f).map bare = (ws.modify i g).map bare := by
  apply List.ext_getElem?
  intro j
  have hj := congrArg (·[j]?) hvs
  simp only [List.getElem?_map] at hj
  rw [List.getElem?_map, List.getElem?_map, List.getElem?_modify, List.getElem?_modify]
  by_cases hij : i = j
  · cases hv : vs[j]? with
    | none =>
      rw [hv] at hj
      simpa using hj.symm
    | some v =>
      rw [hv] at hj
      obtain ⟨w, hw, hvw⟩ := Option.map_eq_some_iff.1 hj.symm
      simp [hij, hw, hfg v w hvw.symm]
  · simp [hij, hj]

theorem Agree.modVring (ha : Agree h k) (i : Nat) {f g : VringState → VringState}
    (hfg : ∀ v w, bare v = bare w → bare (f v) = bare (g w)) : Agree (h.modVring i f) (k.modVring i g) := by
  obtain ⟨hs, vs, hvs, rfl⟩ := ha
  exact ⟨hs, vs.modify i g, (map_bare_modify hvs.symm i hfg).symm, rfl⟩

theorem Agree.refresh (ha : Agree h k) (i : Nat) (index : UInt8) :
    Same (h.updateVringRegistration i index) (k.updateVringRegistration i index) := by
  obtain ⟨hs, hup⟩ := updateVringRegistration_eq h i index
  obtain ⟨hs', hup'⟩ := updateVringRegistration_eq k i index
  rw [hup, hup']
  exact (ha.handlers hs hs').same _

theorem Agree.withVring (ha : Agree h k) {i : Nat} {f g : VringState → Except Error α × VhostUserHandler B M}
    (hfg : ∀ v w, bare v = bare w → Same (f v) (g w)) : Same (h.withVring i f) (k.withVring i g) := by
  obtain ⟨hs, vs, hvs, rfl⟩ := id ha
  have hi := congrArg (·[i]?) hvs
  simp only [List.getElem?_map] at hi
  unfold VhostUserHandler.withVring
  dsimp only
  cases hv : h.vrings[i]? with
  | none =>
    rw [hv] at hi
    have hw : vs[i]? = none := by simpa using hi
    rw [hw]
    exact ha.same _
  | some v =>
    rw [hv] at hi
    obtain ⟨w, hw, hwv⟩ := Option.map_eq_some_iff.1 hi
    rw [hw]
    exact hfg v w hwv.symm

theorem bare_eq_iff {v w : VringState} : bare v = bare w ↔ v.queue = w.queue ∧ v.kick = w.kick ∧ v.enabled = w.enabled := by
  simp [bare]

/-- A setter of one part of the ring. -/
theorem bare_congr {f : VringState → VringState} (hf : ∀ v, bare (f v) = bare (f (bare v))) (v w : VringState)
    (hvw : bare v = bare w) : bare (f v) = bare (f w) := by
  rw [hf v, hf w, hvw]

theorem map_bare_map {vs ws : List VringState} (hvs : vs.map bare = ws.map bare) {f : VringState → VringState}
    (hf : ∀ v, bare (f v) = bare (f (bare v))) : (vs.map f).map bare = (ws.map f).map bare := by
  have heq (us : List VringState) : (us.map f).map bare = (us.map bare).map fun v => bare (f v) := by
    simp only [List.map_map]
    exact List.map_congr_left fun v _ => hf v
  rw [heq, heq, hvs]

theorem Agree.setEnabledAll (ha : Agree h k) (enabled : Bool) :
    Same (setEnabledAll enabled (List.range h.vrings.length) h)
      (setEnabledAll enabled (List.range k.vrings.length) k) := by
  obtain ⟨hs, hall⟩ := setEnabledAll_eq enabled (List.range h.vrings.length) h
  obtain ⟨hs', hall'⟩ := setEnabledAll_eq enabled (List.range k.vrings.length) k
  rw [hall, hall', foldl_modify_range, foldl_modify_range]
  obtain ⟨_, vs, hvs, rfl⟩ := ha
  exact ⟨rfl, hs', vs.map fun v => v.setEnabled enabled, map_bare_map hvs fun v => rfl, rfl⟩

theorem Agree.initIfNeeded (ha : Agree h k) (index : UInt8) : Same (h.initIfNeeded index) (k.initIfNeeded index) := by
  refine ha.withVring fun v w hvw => ?_
  obtain ⟨hq, hk, -⟩ := bare_eq_iff.1 hvw
  have hneeds : vringNeedsInit v = vringNeedsInit w := by rw [vringNeedsInit, vringNeedsInit, hq, hk]
  rw [hneeds]
  split
  · exact (ha.modVring _ (bare_congr fun v => rfl)).refresh _ _
  · exact ha.same _

theorem Agree.replaceMem (ha : Agree h k) (d : Deps B M) (mem : M) (ms : List AddrMapping) :
    Same (replaceMem d mem ms h) (replaceMem d mem ms k) := by
  obtain ⟨hs, vs, hvs, rfl⟩ := ha
  unfold VhostUserHandler.replaceMem
  dsimp only
  split
  · exact ⟨rfl, hs, vs, hvs, rfl⟩
  · exact ⟨rfl, hs, vs, hvs, rfl⟩

theorem Agree.allocCells (ha : Agree h k) (n : Nat) : Agree (h.allocCells n) (k.allocCells n) := by
  obtain ⟨hs, vs, hvs, rfl⟩ := ha
  exact ⟨hs, vs, hvs, rfl⟩

theorem Agree.setFeatures (ha : Agree h k) (d : Deps B M) (features : UInt64) :
    Same (h.setFeatures d features) (k.setFeatures d features) := by
  have hack {h₁ k₁ : VhostUserHandler B M} (ha₁ : Agree h₁ k₁) : Agree (h₁.ackFeatures d) (k₁.ackFeatures d) := by
    obtain ⟨hs, vs, hvs, rfl⟩ := ha₁
    exact ⟨hs, _, map_bare_map hvs fun v => rfl, rfl⟩
  have hset : Agree { h with ackedFeatures := features, featuresAcked := true }
      { k with ackedFeatures := features, featuresAcked := true } := by
    obtain ⟨hs, vs, hvs, rfl⟩ := ha
    exact ⟨hs, vs, hvs, rfl⟩
  have hall := hset.setEnabledAll true
  obtain ⟨hs, vs, hvs, rfl⟩ := id ha
  unfold VhostUserHandler.setFeatures enableUnlessProtocol
  dsimp only at hall ⊢
  split
  · exact ha.same _
  · by_cases hproto : features &&& VhostUserVirtioFeatures.PROTOCOL_FEATURES = 0
    · rw [if_pos hproto, if_pos hproto]
      obtain ⟨hs₁, hall₁⟩ := setEnabledAll_eq true (List.range h.vrings.length)
        { h with ackedFeatures := features, featuresAcked := true }
      obtain ⟨hs₂, hall₂⟩ := setEnabledAll_eq true (List.range vs.length)
        { h with ackedFeatures := features, featuresAcked := true, handlers := hs, vrings := vs }
      rw [hall₁, hall₂] at hall ⊢
      exact (hack hall.2).same _
    · rw [if_neg hproto, if_neg hproto]
      exact (hack hset).same _

/-- `reset_device` does not fail, and this is all it does. -/
theorem resetDevice_eq (d : Deps B M) (h : VhostUserHandler B M) :
    ∃ hs, h.resetDevice d = (.ok (), { h with
      handlers := hs
      vrings := h.vrings.map fun v => v.setEnabled false
      featuresAcked := false
      ackedFeatures := 0
      backend := d.backend.resetDevice h.backend }) := by
  obtain ⟨hs, hall⟩ := setEnabledAll_eq false (List.range h.vrings.length) h
  refine ⟨hs, ?_⟩
  rw [VhostUserHandler.resetDevice, hall, foldl_modify_range]

theorem Agree.resetDevice (ha : Agree h k) (d : Deps B M) : Same (h.resetDevice d) (k.resetDevice d) := by
  obtain ⟨_, vs, hvs, rfl⟩ := ha
  obtain ⟨hs₁, hreset₁⟩ := resetDevice_eq d h
  obtain ⟨hs₂, hreset₂⟩ := resetDevice_eq d { h with handlers := _, vrings := vs }
  rw [hreset₁, hreset₂]
  exact ⟨rfl, hs₂, _, map_bare_map hvs fun v => rfl, rfl⟩

theorem setQueueInfo_bare {v w : VringState} (hvw : bare v = bare w) (D A U : UInt64) :
    (w.setQueueInfo D A U).1 = (v.setQueueInfo D A U).1 ∧
      bare (v.setQueueInfo D A U).2 = bare (w.setQueueInfo D A U).2 := by
  obtain ⟨hq, hk, he⟩ := bare_eq_iff.1 hvw
  by_cases hD : D &&& 0xf = 0
  · by_cases hA : A &&& 0x1 = 0
    · by_cases hU : U &&& 0x3 = 0
      · simp [setQueueInfo_all hD hA hU, bare, hq, hk, he]
      · simp [setQueueInfo_used hD hA hU, bare, hq, hk, he]
    · simp [setQueueInfo_avail hD hA, bare, hq, hk, he]
  · simp [setQueueInfo_desc hD, hvw]

theorem Agree.storeAddrs (ha : Agree h k) (d : Deps B M) (index : UInt32) {v w : VringState} (hvw : bare v = bare w)
    (D A U : UInt64) : Same (h.storeAddrs d index v D A U) (k.storeAddrs d index w D A U) := by
  obtain ⟨hok, hbare⟩ := setQueueInfo_bare hvw D A U
  obtain ⟨hq, -, -⟩ := bare_eq_iff.1 hbare
  unfold VhostUserHandler.storeAddrs
  rcases hinfo : v.setQueueInfo D A U with ⟨ok, v'⟩
  rcases hinfo' : w.setQueueInfo D A U with ⟨ok', w'⟩
  rw [hinfo, hinfo'] at hok hbare hq
  dsimp only at hok hbare hq
  subst hok
  have hset := ha.modVring index.toNat (f := fun _ => v') (g := fun _ => w') fun _ _ _ => hbare
  obtain ⟨hs, vs, hvs, rfl⟩ := id ha
  cases ok' with
  | false => exact hset.same _
  | true =>
    dsimp only
    rw [← hq]
    simp only [VhostUserHandler.modVring] at hset ⊢
    split
    · exact hset.same _
    · exact (hset.modVring index.toNat (bare_congr fun v => rfl)).same _

theorem Agree.setVringAddr (ha : Agree h k) (d : Deps B M) (index : UInt32) (descriptor used available : UInt64) :
    Same (h.setVringAddrWrapping d index descriptor used available)
      (k.setVringAddrWrapping d index descriptor used available) := by
  refine ha.withVring fun v w hvw => ?_
  have hstore := ha.storeAddrs d index hvw
  obtain ⟨hs, vs, hvs, rfl⟩ := id ha
  unfold vmmVaToGpaWrapping
  dsimp only
  split
  · exact ha.same _
  · split
    · exact ha.same _
    · split
      · exact ha.same _
      · split
        · exact ha.same _
        · exact hstore _ _ _

theorem Agree.getVringBase (ha : Agree h k) (index : UInt32) : Same (h.getVringBase index) (k.getVringBase index) := by
  refine ha.withVring fun v w hvw => ?_
  obtain ⟨hq, -, -⟩ := bare_eq_iff.1 hvw
  have hstop := (ha.modVring index.toNat (f := fun v => v.setQueueReady false) (g := fun v => v.setQueueReady false)
    (bare_congr fun v => rfl)).refresh index.toNat index.toUInt8
  obtain ⟨hs₁, hup₁⟩ := updateVringRegistration_eq (h.modVring index.toNat fun v => v.setQueueReady false)
    index.toNat index.toUInt8
  obtain ⟨hs₂, hup₂⟩ := updateVringRegistration_eq (k.modVring index.toNat fun v => v.setQueueReady false)
    index.toNat index.toUInt8
  rw [hup₁, hup₂] at hstop ⊢
  dsimp only
  rw [hq]
  exact ((hstop.2.modVring _ (bare_congr fun v => rfl)).modVring _ (bare_congr fun v => rfl)).same _

/-- **One request** answers both in the same way, and they still agree. -/
theorem Agree.invoke (ha : Agree h k) (d : Deps B M) (c : Call) : Same (h.invoke d c) (k.invoke d c) := by
  cases c with
  | setVringNum index num =>
    refine ha.withVring fun v w _ => ?_
    obtain ⟨hs, vs, hvs, rfl⟩ := id ha
    dsimp only
    split
    · exact ha.same _
    · exact (ha.modVring _ (bare_congr fun v => rfl)).same _
  | setVringBase index base =>
    exact ha.withVring fun v w _ => (ha.modVring _ (bare_congr fun v => rfl)).same _
  | setVringErr index fd => exact ha.withVring fun v w _ => (ha.modVring _ (bare_congr fun v => rfl)).same _
  | setVringCall index fd =>
    exact ha.withVring fun v w _ => (ha.modVring _ (bare_congr fun v => rfl)).initIfNeeded index
  | setVringKick index fd =>
    exact ha.withVring fun v w _ => (ha.modVring _ (bare_congr fun v => rfl)).initIfNeeded index
  | setVringEnable index enable =>
    obtain ⟨hs, vs, hvs, rfl⟩ := id ha
    have hcheck : checkFeature { h with handlers := hs, vrings := vs } VhostUserVirtioFeatures.PROTOCOL_FEATURES =
        h.checkFeature VhostUserVirtioFeatures.PROTOCOL_FEATURES := rfl
    show Same (h.setVringEnable index enable) (VhostUserHandler.setVringEnable index enable _)
    unfold setVringEnable
    rw [hcheck]
    cases h.checkFeature VhostUserVirtioFeatures.PROTOCOL_FEATURES with
    | error e => exact ha.same _
    | ok _ =>
      refine ha.withVring fun v w _ => Agree.refresh ?_ _ _
      exact ha.modVring _ (bare_congr fun v => rfl)
  | getVringBase index => exact ha.getVringBase index
  | setVringAddr index flags descriptor used available log =>
    show Same (h.invoke d _) (k.invoke d _)
    rw [invoke_setVringAddr, invoke_setVringAddr]
    exact ha.setVringAddr d index descriptor used available
  | setFeatures features => exact ha.setFeatures d features
  | resetDevice => exact ha.resetDevice d
  | setOwner =>
    obtain ⟨hs, vs, hvs, rfl⟩ := id ha
    show Same h.setOwner (VhostUserHandler.setOwner _)
    unfold setOwner
    dsimp only
    split
    · exact ha.same _
    · exact ⟨rfl, hs, vs, hvs, rfl⟩
  | setMemTable ctx files =>
    obtain ⟨hs, vs, hvs, rfl⟩ := id ha
    show Same (h.setMemTable d ctx files) (VhostUserHandler.setMemTable d ctx files _)
    unfold setMemTable
    dsimp only
    split
    · exact ha.same _
    · split
      · exact ha.same _
      · exact (ha.allocCells _).replaceMem d _ _
  | addMemRegion region fd =>
    obtain ⟨hs, vs, hvs, rfl⟩ := id ha
    show Same (h.addMemRegion d region fd) (VhostUserHandler.addMemRegion d region fd _)
    unfold addMemRegion
    dsimp only
    split
    · exact ha.same _
    · split
      · exact ha.same _
      · exact (ha.allocCells _).replaceMem d _ _
  | removeMemRegion region =>
    obtain ⟨hs, vs, hvs, rfl⟩ := id ha
    show Same (h.removeMemRegion d region) (VhostUserHandler.removeMemRegion d region _)
    unfold removeMemRegion
    dsimp only
    split
    · exact ha.same _
    · exact ha.replaceMem d _ _
  | setLogBase log file =>
    obtain ⟨hs, vs, hvs, rfl⟩ := id ha
    show Same (h.setLogBase d log file) (VhostUserHandler.setLogBase d log file _)
    unfold setLogBase
    dsimp only
    split
    · exact ha.same _
    · split
      · exact ha.same _
      · exact ⟨rfl, hs, vs, hvs, rfl⟩
  | _ =>
    obtain ⟨hs, vs, hvs, rfl⟩ := ha
    exact ⟨rfl, hs, vs, hvs, rfl⟩

end Agree

/-- What the requests return, one after the other. -/
def outcomes (d : Deps B M) (h : VhostUserHandler B M) : List CallAction → List ((c : Call) × c.Res)
  | [] => []
  | (mmap, c) :: as => ⟨c, (h.invoke { d with mmap := mmap } c).1⟩ :: outcomes d (callStep d h (mmap, c)) as

/-- Handlers that agree are not told apart by any requests. -/
theorem Agree.outcomes {d : Deps B M} (as : List CallAction) {h k : VhostUserHandler B M} (ha : Agree h k) :
    outcomes d k as = outcomes d h as := by
  induction as generalizing h k with
  | nil => rfl
  | cons a as ih =>
    obtain ⟨mmap, c⟩ := a
    obtain ⟨hres, hnext⟩ := ha.invoke { d with mmap := mmap } c
    simp only [VhostUserHandler.outcomes, hres]
    rw [ih (h := callStep d h (mmap, c)) (k := callStep d k (mmap, c)) hnext]

/-! ## What every run keeps -/

/-- What `new` reads from the device and nothing changes later. -/
def shape (h : VhostUserHandler B M) : Nat × Nat × List UInt64 := (h.numQueues, h.maxQueueSize, h.queuesPerThread)

theorem shape_replaceMem (d : Deps B M) (mem : M) (ms : List AddrMapping) (h : VhostUserHandler B M) :
    (replaceMem d mem ms h).2.shape = h.shape := by
  unfold replaceMem
  dsimp only
  split
  · rfl
  · rfl

theorem shape_invoke (d : Deps B M) (c : Call) (h : VhostUserHandler B M) : (h.invoke d c).2.shape = h.shape := by
  cases c with
  | setMemTable ctx files =>
    show (h.setMemTable d ctx files).2.shape = h.shape
    unfold setMemTable
    split
    · rfl
    · split
      · rfl
      · exact shape_replaceMem d _ _ _
  | addMemRegion region fd =>
    show (h.addMemRegion d region fd).2.shape = h.shape
    unfold addMemRegion
    split
    · rfl
    · split
      · rfl
      · exact shape_replaceMem d _ _ _
  | removeMemRegion region =>
    show (h.removeMemRegion d region).2.shape = h.shape
    unfold removeMemRegion
    split
    · rfl
    · exact shape_replaceMem d _ _ _
  | setLogBase log file =>
    show (h.setLogBase d log file).2.shape = h.shape
    unfold setLogBase
    split
    · rfl
    · split
      · rfl
      · rfl
  | _ => exact congrArg Prod.snd (restPart_invoke rfl (by simp))

/-- The rings stay the rings `new` made, and one with a kick descriptor is started. -/
structure FromNew (h₀ h : VhostUserHandler B M) : Prop where
  shape : h.shape = h₀.shape
  length : h.vrings.length = h₀.vrings.length
  kick : ∃ m, Follows h m

theorem FromNew.ringEvent {d : Deps B M} {h₀ h : VhostUserHandler B M} (hf : FromNew h₀ h) (e : RingEvent) :
    FromNew h₀ (ringEvent d h e) := by
  obtain ⟨m, hm⟩ := hf.kick
  cases e with
  | request mmap c =>
    have hlen := congrArg List.length (layouts_invoke { d with mmap := mmap } c h)
    have hstep (ls : List RingLayout) (a : Call × Bool) : (layoutStep ls a).length = ls.length := by
      unfold layoutStep
      split
      · exact List.length_modify ..
      · exact List.length_modify ..
      · rfl
    rw [hstep, layouts, layouts, List.length_map, List.length_map] at hlen
    exact ⟨(shape_invoke _ c h).trans hf.shape, hlen.trans hf.length, _, hm.invoke { d with mmap := mmap } c⟩
  | progress i nextAvail nextUsed =>
    exact ⟨hf.shape, (List.length_modify ..).trans hf.length, m, hm.touch _ (fun v => rfl) fun v => rfl⟩

theorem fromNew_run {d : Deps B M} {b : B} {mem : M} {heap : LogHeap} {cell : Nat} {h₀ : VhostUserHandler B M}
    (hnew : new d b mem heap cell = some h₀) (es : List RingEvent) : FromNew h₀ (run (ringEvent d) h₀ es) :=
  inv_run (I := FromNew h₀) (fun _ e hf => hf.ringEvent e) es h₀ ⟨rfl, rfl, _, follows_new hnew⟩

/-! ## The reset -/

/-- Features and rings as in the handler that `new` made. -/
structure Initial (h₀ h : VhostUserHandler B M) : Prop where
  featuresAcked : h.featuresAcked = h₀.featuresAcked
  ackedFeatures : h.ackedFeatures = h₀.ackedFeatures
  rings : h.vrings.map (fun v => (v.enabled, v.queue)) = h₀.vrings.map fun v => (v.enabled, v.queue)

/-- What a reset is to leave alone. -/
structure Retained (h h' : VhostUserHandler B M) : Prop where
  owned : h'.owned = h.owned
  ackedProtocolFeatures : h'.ackedProtocolFeatures = h.ackedProtocolFeatures
  atomicMem : h'.atomicMem = h.atomicMem
  mappings : h'.mappings = h.mappings

/-- The same retained, the same dirty log, and the device in the same state. -/
structure SameRest (h k : VhostUserHandler B M) : Prop where
  retained : Retained h k
  heap : k.heap = h.heap
  nextCell : k.nextCell = h.nextCell
  backend : k.backend = h.backend

/-- `RESET_DEVICE` as the message has it: a reset that succeeds brings back the initial state and keeps
what it is to keep, and what comes after it does not depend on what came before. -/
def ResetsToInitial (d : Deps B M) (h₀ h : VhostUserHandler B M) : Prop :=
  (h.resetDevice d).1 = .ok () →
    Initial h₀ (h.resetDevice d).2 ∧ Retained h (h.resetDevice d).2 ∧
      ∀ es k, run (ringEvent d) h₀ es = k → Initial h₀ (k.resetDevice d).2 →
        SameRest (h.resetDevice d).2 (k.resetDevice d).2 →
        ∀ as, outcomes d (k.resetDevice d).2 as = outcomes d (h.resetDevice d).2 as

section Reset
variable {d : Deps B M} {b : B} {mem : M} {heap : LogHeap} {cell : Nat} {h₀ h k : VhostUserHandler B M}

theorem new_rings (hnew : new d b mem heap cell = some h₀) :
    h₀.featuresAcked = false ∧ h₀.ackedFeatures = 0 ∧
      ∀ v ∈ h₀.vrings, VringState.new (UInt16.ofNat (d.backend.maxQueueSize b)) = some v := by
  obtain ⟨vrings, hvrings, rfl⟩ := new_eq hnew
  exact ⟨rfl, rfl, mapM_replicate_mem hvrings⟩

/-- A ring as `new` makes it. -/
theorem new_ring {m : UInt16} {v : VringState} (hv : VringState.new m = some v) :
    v.enabled = false ∧ v.queue.ready = false ∧ Queue.new m = some v.queue := by
  obtain ⟨q, hq, rfl⟩ := Option.map_eq_some_iff.1 hv
  refine ⟨rfl, ?_, hq⟩
  simp only [Queue.new, Option.ite_none_left_eq_some] at hq
  obtain ⟨-, hq⟩ := hq
  cases hq
  rfl

/-- After the reset a ring is as at the start exactly when its queue was so before. -/
theorem initial_reset_iff (hnew : new d b mem heap cell = some h₀) (hlen : h.vrings.length = h₀.vrings.length) :
    Initial h₀ (h.resetDevice d).2 ↔
      ∀ v ∈ h.vrings, Queue.new (UInt16.ofNat (d.backend.maxQueueSize b)) = some v.queue := by
  obtain ⟨hfeat, hacked, hnewRings⟩ := new_rings hnew
  obtain ⟨hs, hreset⟩ := resetDevice_eq d h
  rw [hreset]
  constructor
  · rintro ⟨-, -, hrings⟩ v hv
    obtain ⟨j, hj⟩ := List.getElem?_of_mem hv
    have hrings := congrArg (·[j]?) hrings
    simp only [List.getElem?_map, hj, Option.map_some] at hrings
    obtain ⟨v₀, hv₀, heq⟩ := Option.map_eq_some_iff.1 hrings.symm
    have hq := (new_ring (hnewRings v₀ (List.mem_of_getElem? hv₀))).2.2
    rw [hq]
    exact congrArg (fun p => some p.2) heq
  · intro hqueues
    refine ⟨hfeat.symm, hacked.symm, ?_⟩
    dsimp only
    rw [List.map_map]
    apply List.ext_getElem (by rw [List.length_map, List.length_map, hlen])
    intro j hj hj'
    rw [List.length_map] at hj hj'
    rw [List.getElem_map, List.getElem_map]
    have hq := hqueues _ (List.getElem_mem hj)
    obtain ⟨hen, -, hq₀⟩ := new_ring (hnewRings _ (List.getElem_mem hj'))
    rw [hq] at hq₀
    simp only [Function.comp_apply, VringState.setEnabled, hen, Option.some.inj hq₀]

/-- A ring that was reset to the initial state, up to the descriptors no request looks at. -/
theorem bare_reset (hnew : new d b mem heap cell = some h₀) (hf : FromNew h₀ h)
    (hinit : Initial h₀ (h.resetDevice d).2) :
    (h.vrings.map fun v => v.setEnabled false).map bare = h₀.vrings.map bare := by
  have hqueues := (initial_reset_iff hnew hf.length).1 hinit
  obtain ⟨-, -, hnewRings⟩ := new_rings hnew
  obtain ⟨m, hm⟩ := hf.kick
  apply List.ext_getElem (by rw [List.length_map, List.length_map, List.length_map, hf.length])
  intro j hj hj'
  rw [List.length_map, List.length_map] at hj
  rw [List.length_map] at hj'
  rw [List.getElem_map, List.getElem_map, List.getElem_map]
  have hq := hqueues _ (List.getElem_mem hj)
  have hv₀ := hnewRings _ (List.getElem_mem hj')
  obtain ⟨hen, hready, hq₀⟩ := new_ring hv₀
  rw [hq] at hq₀
  have hsame : h.vrings[j].queue = h₀.vrings[j].queue := Option.some.inj hq₀
  -- a queue that is not ready has no kick descriptor
  have hkick : h.vrings[j].kick = none := by
    cases hk : h.vrings[j].kick with
    | none => rfl
    | some fd =>
      have hstarted := hm.kick _ (List.getElem_mem hj) (by rw [hk]; rfl)
      rw [hsame, hready] at hstarted
      cases hstarted
  have hkick₀ : h₀.vrings[j].kick = none := by
    obtain ⟨q, -, hv⟩ := Option.map_eq_some_iff.1 hv₀
    rw [← hv]
  exact bare_eq_iff.2 ⟨hsame, hkick.trans hkick₀.symm, hen.symm⟩

/-- Two handlers of one device that were reset to the initial state and kept the same. -/
theorem agree_reset (hnew : new d b mem heap cell = some h₀) (hf : FromNew h₀ h) (hk : FromNew h₀ k)
    (hinit : Initial h₀ (h.resetDevice d).2) (hinit' : Initial h₀ (k.resetDevice d).2)
    (hrest : SameRest (h.resetDevice d).2 (k.resetDevice d).2) :
    Agree (h.resetDevice d).2 (k.resetDevice d).2 := by
  have hrings := (bare_reset hnew hk hinit').trans (bare_reset hnew hf hinit).symm
  have hshape := hk.shape.trans hf.shape.symm
  obtain ⟨hs, hreset⟩ := resetDevice_eq d h
  obtain ⟨hs', hreset'⟩ := resetDevice_eq d k
  rw [hreset, hreset'] at hrest ⊢
  obtain ⟨⟨howned, hproto, hmem, hmaps⟩, hheap, hcell, hback⟩ := hrest
  simp only [shape, Prod.mk.injEq] at hshape
  dsimp only at howned hproto hmem hmaps hheap hcell hback
  refine ⟨hs', _, hrings, ?_⟩
  rw [howned, hproto, hmem, hmaps, hheap, hcell, hback, hshape.1, hshape.2.1, hshape.2.2]

end Reset

/-- **The reset brings back the initial state exactly when the queues were in it**: in every state that
requests and the device lead to. -/
theorem resetsToInitial_iff {d : Deps B M} {b : B} {mem : M} {heap : LogHeap} {cell : Nat}
    {h₀ h : VhostUserHandler B M} (hnew : new d b mem heap cell = some h₀) (es : List RingEvent)
    (hrun : run (ringEvent d) h₀ es = h) :
    ResetsToInitial d h₀ h ↔
      ∀ v ∈ h.vrings, Queue.new (UInt16.ofNat (d.backend.maxQueueSize b)) = some v.queue := by
  have hf : FromNew h₀ h := hrun ▸ fromNew_run hnew es
  obtain ⟨hs, hreset⟩ := resetDevice_eq d h
  have hok : (h.resetDevice d).1 = .ok () := by rw [hreset]
  have hretained : Retained h (h.resetDevice d).2 := by
    rw [hreset]
    exact ⟨rfl, rfl, rfl, rfl⟩
  rw [← initial_reset_iff hnew hf.length]
  constructor
  · intro hall
    exact (hall hok).1
  · intro hinit _
    refine ⟨hinit, hretained, fun es' k hk hinit' hrest as => ?_⟩
    have hfk : FromNew h₀ k := hk ▸ fromNew_run hnew es'
    exact (agree_reset hnew hf hfk hinit hinit' hrest).outcomes as

end VhostUserHandler

/-- The base of a ring survives the reset: the next driver finds the device at position 7. -/
theorem reset_keeps_base :
    ¬VhostUserHandler.ResetsToInitial (plainDeps true) plainHandler
      (run (VhostUserHandler.ringEvent (plainDeps true)) plainHandler
        [.request (fun _ _ _ => .ok 0) (.setVringBase 0 7)]) := by
  intro hall
  have hrings := (hall (by decide)).1.rings
  exact absurd hrings (by decide)

/-- Features are acknowledged and the ring is enabled. -/
def enabledRing : List RingEvent :=
  [.request (fun _ _ _ => .ok 0) (.setFeatures VhostUserVirtioFeatures.PROTOCOL_FEATURES),
    .request (fun _ _ _ => .ok 0) (.setVringEnable 0 true)]

/-- The reset takes both back. -/
theorem reset_enabled_initial :
    (run (VhostUserHandler.ringEvent (plainDeps true)) plainHandler enabledRing).featuresAcked = true ∧
      (run (VhostUserHandler.ringEvent (plainDeps true)) plainHandler enabledRing).vrings.map (·.enabled) = [true] ∧
      VhostUserHandler.ResetsToInitial (plainDeps true) plainHandler
        (run (VhostUserHandler.ringEvent (plainDeps true)) plainHandler enabledRing) := by
  refine ⟨by decide, by decide, (VhostUserHandler.resetsToInitial_iff (new_plainHandler true) enabledRing rfl).2 ?_⟩
  decide

end VhostUser
