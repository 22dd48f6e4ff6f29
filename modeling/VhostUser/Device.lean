import VhostUser.Daemon
import VhostUser.Negotiation
import VhostUser.Reset
/-!
# The device behind a daemon

A daemon serves one connection after the other with the same `VhostUserHandler`, and several at once when it is
started again before the last one is over (`vhost-user-backend/src/lib.rs:167-221`): a new `BackendReqHandler` for
each, the handler shared behind its mutex, while the workers move the positions of the rings. What the handler
relies on between two requests holds whatever bytes and files arrive and wherever a connection breaks off
(`daemon_safe`).

| here | there |
| --- | --- |
| `RingClosed` | a property that every setter of a ring keeps (`vring.rs:119-226`) |
| `RingSafe`   | what `virtio_queue::Queue` promises of a queue |
| `Safe`       | what holds of the handler between two requests |
| `answering`, `Worked` | the handler as the device of a `VhostUserDaemon`: its requests, its workers |
-/
namespace VhostUser
open EState Trace

namespace VhostUserHandler
variable {B M : Type}

/-! ## A property of every ring -/

/-- The setters of a ring keep `P`. -/
structure RingClosed (P : VringState → Prop) : Prop where
  setEnabled : ∀ {v}, P v → ∀ enabled, P (v.setEnabled enabled)
  setQueueReady : ∀ {v}, P v → ∀ ready, P (v.setQueueReady ready)
  setQueueNextAvail : ∀ {v}, P v → ∀ base, P (v.setQueueNextAvail base)
  setQueueNextUsed : ∀ {v}, P v → ∀ idx, P (v.setQueueNextUsed idx)
  setQueueEventIdx : ∀ {v}, P v → ∀ enabled, P (v.setQueueEventIdx enabled)
  setQueueSize : ∀ {v}, P v → ∀ num, P (v.setQueueSize num)
  setKick : ∀ {v}, P v → ∀ file, P (v.setKick file)
  setCall : ∀ {v}, P v → ∀ file, P (v.setCall file)
  setErr : ∀ {v}, P v → ∀ file, P (v.setErr file)
  setQueueInfo : ∀ {v}, P v → ∀ descTable availRing usedRing, P (v.setQueueInfo descTable availRing usedRing).2

/-- Every ring has it. -/
def AllRings (P : VringState → Prop) (h : VhostUserHandler B M) : Prop := ∀ v ∈ h.vrings, P v

section AllRings
variable {P : VringState → Prop} {h : VhostUserHandler B M}

theorem AllRings.modVring (hr : AllRings P h) (i : Nat) {f : VringState → VringState} (hf : ∀ {v}, P v → P (f v)) :
    AllRings P (h.modVring i f) := by
  intro v hv
  obtain ⟨j, hj⟩ := List.getElem?_of_mem hv
  rw [VhostUserHandler.modVring, List.getElem?_modify] at hj
  obtain ⟨w, hw, rfl⟩ := Option.map_eq_some_iff.1 hj
  have hold := hr w (List.mem_of_getElem? hw)
  split
  · exact hf hold
  · exact hold

theorem AllRings.updateVringRegistration (hr : AllRings P h) (i : Nat) (index : UInt8) :
    AllRings P (h.updateVringRegistration i index).2 := by
  obtain ⟨hs, hup⟩ := updateVringRegistration_eq h i index
  rw [hup]
  exact hr

theorem AllRings.setEnabledAll (hP : RingClosed P) (hr : AllRings P h) (enabled : Bool) (is : List Nat) :
    AllRings P (setEnabledAll enabled is h).2 := by
  induction is generalizing h with
  | nil => exact hr
  | cons i is ih =>
    obtain ⟨hs, hup⟩ := updateVringRegistration_eq (h.modVring i fun v => v.setEnabled enabled) i (UInt8.ofNat i)
    rw [VhostUserHandler.setEnabledAll, hup]
    exact ih (h := { h.modVring i fun v => v.setEnabled enabled with handlers := hs })
      (hr.modVring i fun hv => hP.setEnabled hv enabled)

theorem AllRings.withVring {α : Type} (hr : AllRings P h) {i : Nat}
    {f : VringState → Except Error α × VhostUserHandler B M} (hf : ∀ v, P v → AllRings P (f v).2) :
    AllRings P (h.withVring i f).2 := by
  unfold VhostUserHandler.withVring
  split
  · exact hr
  · rename_i v hv
    exact hf v (hr v (List.mem_of_getElem? hv))

theorem AllRings.initIfNeeded (hP : RingClosed P) (hr : AllRings P h) (index : UInt8) :
    AllRings P (h.initIfNeeded index).2 := by
  refine hr.withVring fun v _ => ?_
  split
  · exact AllRings.updateVringRegistration (hr.modVring _ fun hv => hP.setQueueReady hv true) _ _
  · exact hr

theorem AllRings.replaceMem (hr : AllRings P h) (d : Deps B M) (mem : M) (ms : List AddrMapping) :
    AllRings P (replaceMem d mem ms h).2 := by
  unfold VhostUserHandler.replaceMem
  dsimp only
  split
  · exact hr
  · exact hr

theorem AllRings.storeAddrs (hP : RingClosed P) (hr : AllRings P h) (d : Deps B M) {index : UInt32} {v : VringState}
    (hv : h.vrings[index.toNat]? = some v) (D A U : UInt64) : AllRings P (h.storeAddrs d index v D A U).2 := by
  have hkept := hP.setQueueInfo (hr v (List.mem_of_getElem? hv)) D A U
  have hset := AllRings.modVring hr index.toNat (f := fun _ => (v.setQueueInfo D A U).2) fun _ => hkept
  unfold VhostUserHandler.storeAddrs
  split
  · rename_i v' hinfo
    rw [hinfo] at hset
    exact hset
  · rename_i v' hinfo
    rw [hinfo] at hset
    dsimp only
    split
    · exact hset
    · exact hset.modVring _ fun hv => hP.setQueueNextUsed hv _

theorem AllRings.setFeatures (hP : RingClosed P) (hr : AllRings P h) (d : Deps B M) (features : UInt64) :
    AllRings P (h.setFeatures d features).2 := by
  have hack {k : VhostUserHandler B M} (hk : AllRings P k) : AllRings P (k.ackFeatures d) := by
    intro v hv
    obtain ⟨w, hw, rfl⟩ := List.mem_map.1 hv
    exact hP.setQueueEventIdx (hk w hw) _
  have hall := AllRings.setEnabledAll (h := { h with ackedFeatures := features, featuresAcked := true }) hP hr true
    (List.range h.vrings.length)
  unfold VhostUserHandler.setFeatures
  split
  · exact hr
  · unfold enableUnlessProtocol
    split
    · rename_i heq
      split at heq
      · rw [heq] at hall
        exact hall
      · cases heq
    · rename_i heq
      split at heq
      · rw [heq] at hall
        exact hack hall
      · cases heq
        exact hack (k := { h with ackedFeatures := features, featuresAcked := true }) hr

theorem AllRings.resetDevice (hP : RingClosed P) (hr : AllRings P h) (d : Deps B M) :
    AllRings P (h.resetDevice d).2 := by
  have hall := AllRings.setEnabledAll hP hr false (List.range h.vrings.length)
  unfold VhostUserHandler.resetDevice
  split
  · rename_i heq
    rw [heq] at hall
    exact hall
  · rename_i heq
    rw [heq] at hall
    exact hall

theorem AllRings.getVringBase (hP : RingClosed P) (hr : AllRings P h) (index : UInt32) :
    AllRings P (h.getVringBase index).2 := by
  refine hr.withVring fun v _ => ?_
  obtain ⟨hs, hup⟩ := updateVringRegistration_eq (h.modVring index.toNat fun v => v.setQueueReady false)
    index.toNat index.toUInt8
  rw [hup]
  have hstopped : AllRings P { h.modVring index.toNat fun v => v.setQueueReady false with handlers := hs } :=
    hr.modVring index.toNat fun hv => hP.setQueueReady hv false
  exact AllRings.modVring (hstopped.modVring index.toNat fun hv => hP.setKick hv none) _ fun hv => hP.setCall hv none

/-- **One request keeps what the setters keep.** -/
theorem AllRings.invoke (hP : RingClosed P) (hr : AllRings P h) (d : Deps B M) (c : Call) :
    AllRings P (h.invoke d c).2 := by
  cases c with
  | setVringNum index num =>
    refine hr.withVring fun v _ => ?_
    split
    · exact hr
    · exact hr.modVring _ fun hv => hP.setQueueSize hv _
  | setVringAddr index flags descriptor used available log =>
    obtain ⟨e, hset⟩ | ⟨v, D, A, U, hv, hset⟩ :=
      @invoke_setVringAddr_cases _ _ d h index descriptor used available flags log
    · rw [hset]
      exact hr
    · rw [hset]
      exact hr.storeAddrs hP d hv D A U
  | setVringBase index base => exact hr.withVring fun v _ => hr.modVring _ fun hv => hP.setQueueNextAvail hv _
  | getVringBase index => exact hr.getVringBase hP index
  | setVringKick index fd =>
    exact hr.withVring fun v _ => AllRings.initIfNeeded hP (hr.modVring _ fun hv => hP.setKick hv fd) index
  | setVringCall index fd =>
    exact hr.withVring fun v _ => AllRings.initIfNeeded hP (hr.modVring _ fun hv => hP.setCall hv fd) index
  | setVringErr index fd => exact hr.withVring fun v _ => hr.modVring _ fun hv => hP.setErr hv fd
  | setVringEnable index enable =>
    show AllRings P (h.setVringEnable index enable).2
    unfold setVringEnable
    split
    · exact hr
    · exact hr.withVring fun v _ =>
        AllRings.updateVringRegistration (hr.modVring _ fun hv => hP.setEnabled hv enable) _ _
  | setFeatures features => exact hr.setFeatures hP d features
  | resetDevice => exact hr.resetDevice hP d
  | setOwner =>
    show AllRings P h.setOwner.2
    unfold setOwner
    split
    · exact hr
    · exact hr
  | setMemTable ctx files =>
    show AllRings P (h.setMemTable d ctx files).2
    unfold setMemTable
    split
    · exact hr
    · split
      · exact hr
      · exact AllRings.replaceMem (h := h.allocCells _) hr d _ _
  | addMemRegion region fd =>
    show AllRings P (h.addMemRegion d region fd).2
    unfold addMemRegion
    split
    · exact hr
    · split
      · exact hr
      · exact AllRings.replaceMem (h := h.allocCells _) hr d _ _
  | removeMemRegion region =>
    show AllRings P (h.removeMemRegion d region).2
    unfold removeMemRegion
    split
    · exact hr
    · exact hr.replaceMem d _ _
  | setLogBase log file =>
    show AllRings P (h.setLogBase d log file).2
    unfold setLogBase
    split
    · exact hr
    · split
      · exact hr
      · exact hr
  | _ => exact hr

end AllRings

/-! ## What the handler relies on -/

/-- A queue has a size it can have, and its three areas lie where their alignment allows. -/
structure RingSafe (maxQueueSize : UInt16) (v : VringState) : Prop where
  layout : (layoutOf v).Good maxQueueSize
  descTable : v.queue.descTable &&& 0xf = 0
  availRing : v.queue.availRing &&& 0x1 = 0
  usedRing : v.queue.usedRing &&& 0x3 = 0

theorem RingSafe.setQueueInfo {m : UInt16} {v : VringState} (hv : RingSafe m v) (descTable availRing usedRing : UInt64) :
    RingSafe m (v.setQueueInfo descTable availRing usedRing).2 := by
  have hlayout : (layoutOf (v.setQueueInfo descTable availRing usedRing).2).Good m := by
    rw [layoutOf_setQueueInfo]
    exact hv.layout
  revert hlayout
  unfold VringState.setQueueInfo Queue.trySetDescTableAddress Queue.trySetAvailRingAddress
    Queue.trySetUsedRingAddress
  by_cases hd : (descTable &&& 0xf == 0) = true
  · by_cases ha : (availRing &&& 0x1 == 0) = true
    · by_cases hu : (usedRing &&& 0x3 == 0) = true
      · simp only [hd, ha, hu, if_true]
        exact fun hlayout => ⟨hlayout, eq_of_beq hd, eq_of_beq ha, eq_of_beq hu⟩
      · simp only [hd, ha, hu, if_true]
        exact fun hlayout => ⟨hlayout, eq_of_beq hd, eq_of_beq ha, hv.usedRing⟩
    · simp only [hd, ha, if_true]
      exact fun hlayout => ⟨hlayout, eq_of_beq hd, hv.availRing, hv.usedRing⟩
  · simp only [hd]
    exact fun hlayout => ⟨hlayout, hv.descTable, hv.availRing, hv.usedRing⟩

theorem ringClosed_ringSafe (m : UInt16) : RingClosed (RingSafe m) where
  setEnabled h _ := ⟨h.layout, h.descTable, h.availRing, h.usedRing⟩
  setQueueReady h _ := ⟨h.layout, h.descTable, h.availRing, h.usedRing⟩
  setQueueNextAvail h base := ⟨h.layout.setNextAvail base, h.descTable, h.availRing, h.usedRing⟩
  setQueueNextUsed h _ := ⟨h.layout, h.descTable, h.availRing, h.usedRing⟩
  setQueueEventIdx h _ := ⟨h.layout, h.descTable, h.availRing, h.usedRing⟩
  setQueueSize {v} h num := by
    have hlayout : (layoutOf (v.setQueueSize num)).Good m := by
      rw [layoutOf_setQueueSize]
      exact h.layout.setSize num
    revert hlayout
    unfold VringState.setQueueSize Queue.setSize
    split
    · exact fun hlayout => ⟨hlayout, h.descTable, h.availRing, h.usedRing⟩
    · exact fun hlayout => ⟨hlayout, h.descTable, h.availRing, h.usedRing⟩
  setKick h _ := ⟨h.layout, h.descTable, h.availRing, h.usedRing⟩
  setCall h _ := ⟨h.layout, h.descTable, h.availRing, h.usedRing⟩
  setErr h _ := ⟨h.layout, h.descTable, h.availRing, h.usedRing⟩
  setQueueInfo h := h.setQueueInfo

/-- What holds of the handler between two requests. -/
structure Safe (d : Deps B M) (h : VhostUserHandler B M) : Prop where
  rings : AllRings (RingSafe (UInt16.ofNat h.maxQueueSize)) h
  count : h.vrings.length = h.numQueues
  /-- A ring with a kick descriptor is started. -/
  started : ∀ v ∈ h.vrings, KickStarted v
  /-- The regions of the guest memory are in order, not empty, and have a bitmap each. -/
  memory : Disjoint d.vm h.atomicMem
  cells : OwnCells d.vm h.atomicMem h.nextCell
  /-- A device that takes every memory never has to work with another translation table. -/
  table : (∀ mem b, (d.backend.updateMemory mem b).1 = .ok ()) → Mirror d.vm h.atomicMem h.mappings
  /-- A device that always offers `F` never has to work with other features. -/
  features : ∀ F, (∀ b, d.backend.features b = F) → h.ackedFeatures &&& ~~~F = 0

section Safe
variable {d : Deps B M} {h : VhostUserHandler B M}

/-! ### Requests other than those on memory leave the translation table alone -/

theorem mappings_withVring {α : Type} {i : Nat} {f : VringState → Except Error α × VhostUserHandler B M}
    (hf : ∀ v, (f v).2.mappings = h.mappings) : (h.withVring i f).2.mappings = h.mappings := by
  unfold withVring
  split
  · rfl
  · exact hf _

theorem mappings_updateVringRegistration (h : VhostUserHandler B M) (i : Nat) (index : UInt8) :
    (h.updateVringRegistration i index).2.mappings = h.mappings := by
  obtain ⟨hs, hup⟩ := updateVringRegistration_eq h i index
  rw [hup]

theorem mappings_setEnabledAll (enabled : Bool) (is : List Nat) (h : VhostUserHandler B M) :
    (setEnabledAll enabled is h).2.mappings = h.mappings := by
  obtain ⟨hs, hall⟩ := setEnabledAll_eq enabled is h
  rw [hall]

theorem mappings_initIfNeeded (h : VhostUserHandler B M) (index : UInt8) :
    (h.initIfNeeded index).2.mappings = h.mappings := by
  refine mappings_withVring fun v => ?_
  split
  · exact mappings_updateVringRegistration _ _ _
  · rfl

theorem mappings_setFeatures (d : Deps B M) (features : UInt64) (h : VhostUserHandler B M) :
    (h.setFeatures d features).2.mappings = h.mappings := by
  have hall := mappings_setEnabledAll true (List.range h.vrings.length)
    { h with ackedFeatures := features, featuresAcked := true }
  unfold setFeatures
  split
  · rfl
  · unfold enableUnlessProtocol
    split
    · rename_i heq
      split at heq
      · rw [heq] at hall
        exact hall
      · cases heq
    · rename_i heq
      split at heq
      · rw [heq] at hall
        exact hall
      · cases heq
        rfl

theorem mappings_storeAddrs (d : Deps B M) (index : UInt32) (v : VringState) (D A U : UInt64) :
    (h.storeAddrs d index v D A U).2.mappings = h.mappings := by
  unfold storeAddrs
  split
  · rfl
  · dsimp only
    split
    · rfl
    · rfl

theorem mappings_invoke {c : Call} (hc : isMemRequest c = false) : (h.invoke d c).2.mappings = h.mappings := by
  cases c with
  | setMemTable ctx files => cases hc
  | addMemRegion region fd => cases hc
  | removeMemRegion region => cases hc
  | setOwner =>
    show h.setOwner.2.mappings = h.mappings
    unfold setOwner
    split
    · rfl
    · rfl
  | resetDevice =>
    have hall := mappings_setEnabledAll false (List.range h.vrings.length) h
    show (h.resetDevice d).2.mappings = h.mappings
    unfold resetDevice
    split
    · rename_i heq
      rwa [heq] at hall
    · rename_i heq
      rwa [heq] at hall
  | setFeatures features => exact mappings_setFeatures d features h
  | setVringNum index num =>
    refine mappings_withVring fun v => ?_
    split
    · rfl
    · rfl
  | setVringAddr index flags descriptor used available log =>
    obtain ⟨e, hset⟩ | ⟨v, D, A, U, -, hset⟩ :=
      @invoke_setVringAddr_cases _ _ d h index descriptor used available flags log
    · rw [hset]
    · rw [hset]
      exact mappings_storeAddrs d index v D A U
  | setVringBase index base => exact mappings_withVring fun v => rfl
  | getVringBase index =>
    refine mappings_withVring fun v => ?_
    obtain ⟨hs, hup⟩ := updateVringRegistration_eq (h.modVring index.toNat fun v => v.setQueueReady false)
      index.toNat index.toUInt8
    rw [hup]
    rfl
  | setVringKick index fd => exact mappings_withVring fun v => mappings_initIfNeeded _ index
  | setVringCall index fd => exact mappings_withVring fun v => mappings_initIfNeeded _ index
  | setVringErr index fd => exact mappings_withVring fun v => rfl
  | setVringEnable index enable =>
    show (h.setVringEnable index enable).2.mappings = h.mappings
    unfold setVringEnable
    split
    · rfl
    · exact mappings_withVring fun v => mappings_updateVringRegistration _ _ _
  | setLogBase log file =>
    show (h.setLogBase d log file).2.mappings = h.mappings
    unfold setLogBase
    split
    · rfl
    · split
      · rfl
      · rfl
  | _ => rfl

/-! ### One request -/

/-- The guest memory with the table. -/
structure MemSafe (d : Deps B M) (h : VhostUserHandler B M) : Prop where
  memory : Disjoint d.vm h.atomicMem
  table : (∀ mem b, (d.backend.updateMemory mem b).1 = .ok ()) → Mirror d.vm h.atomicMem h.mappings

theorem MemSafe.memStep (hvm : VmMemorySpec d.vm) (hs : MemSafe d h) (a : MemAction) : MemSafe d (memStep d h a) := by
  obtain ⟨e, -, hrun⟩ | ⟨p, -, hpl, ⟨e, b, hu, hrun⟩ | ⟨b, -, hrun⟩⟩ := memRun_cases hvm h a
  · simpa only [VhostUserHandler.memStep, hrun] using hs
  · simp only [VhostUserHandler.memStep, hrun]
    refine ⟨hpl.disjoint hs.memory, fun htakes => ?_⟩
    have hok := htakes p.mem h.backend
    rw [hu] at hok
    cases hok
  · simp only [VhostUserHandler.memStep, hrun]
    exact ⟨hpl.disjoint hs.memory, fun htakes => hpl.mirror hs.memory (hs.table htakes)⟩

theorem MemSafe.callStep (hvm : VmMemorySpec d.vm) (hs : MemSafe d h) (a : CallAction) : MemSafe d (callStep d h a) := by
  obtain ⟨mmap, c⟩ := a
  cases hc : isMemRequest c with
  | false =>
    have hmem : (VhostUserHandler.callStep d h (mmap, c)).atomicMem = h.atomicMem :=
      congrArg Prod.fst (memPart_invoke (d := { d with mmap := mmap }) hc)
    have hmap : (VhostUserHandler.callStep d h (mmap, c)).mappings = h.mappings :=
      mappings_invoke (d := { d with mmap := mmap }) hc
    refine ⟨?_, ?_⟩
    · rw [hmem]
      exact hs.memory
    · rw [hmem, hmap]
      exact hs.table
  | true =>
    cases c with
    | setMemTable ctx files => exact hs.memStep hvm (mmap, .setMemTable ctx files)
    | addMemRegion region fd => exact hs.memStep hvm (mmap, .addMemRegion region fd)
    | removeMemRegion region => exact hs.memStep hvm (mmap, .removeMemRegion region)
    | _ => cases hc

/-- What is acknowledged was acknowledged before, is nothing, or has just been accepted. -/
theorem acked_step (m : RingMachine) (c : Call) (accepted : Bool) :
    (m.step (c, accepted)).acked = m.acked ∨ (m.step (c, accepted)).acked = 0 ∨
      (c, accepted) = (.setFeatures (m.step (c, accepted)).acked, true) := by
  cases c with
  | setVringKick index fd =>
    cases fd with
    | none => exact .inl rfl
    | some fd => exact .inl rfl
  | setFeatures features =>
    cases accepted with
    | false => exact .inl rfl
    | true =>
      refine .inr (.inr ?_)
      unfold RingMachine.step
      dsimp only
      split
      · rfl
      · rfl
  | setVringEnable index enable =>
    refine .inl ?_
    unfold RingMachine.step
    dsimp only
    split
    · rfl
    · rfl
  | resetDevice | resetOwner => exact .inr (.inl rfl)
  | _ => exact .inl rfl

theorem setFeatures_ok {features F : UInt64} (hF : d.backend.features h.backend = F)
    (hok : (h.setFeatures d features).1.isOk = true) : features &&& ~~~F = 0 := by
  unfold setFeatures at hok
  rw [hF] at hok
  split at hok
  · cases hok
  · rename_i hoffered
    simpa using hoffered

/-- **One event** keeps the handler safe. -/
theorem Safe.ringEvent (hvm : VmMemorySpec d.vm) (hs : Safe d h) (e : RingEvent) : Safe d (ringEvent d h e) := by
  have hfollows : Follows h ⟨h.ackedFeatures, h.vrings.map ringOf⟩ := ⟨rfl, rfl, hs.started⟩
  have hfrom : FromNew h (VhostUserHandler.ringEvent d h e) := FromNew.ringEvent ⟨rfl, rfl, _, hfollows⟩ e
  obtain ⟨m, hm⟩ := hfrom.kick
  have hqueues := congrArg Prod.fst hfrom.shape
  have hmax := congrArg (fun s => s.2.1) hfrom.shape
  dsimp only [shape] at hqueues hmax
  have hrings : AllRings (RingSafe (UInt16.ofNat h.maxQueueSize)) (VhostUserHandler.ringEvent d h e) := by
    cases e with
    | request mmap c => exact hs.rings.invoke (ringClosed_ringSafe _) { d with mmap := mmap } c
    | progress i nextAvail nextUsed =>
      exact hs.rings.modVring i fun hv =>
        (ringClosed_ringSafe _).setQueueNextUsed ((ringClosed_ringSafe _).setQueueNextAvail hv nextAvail) nextUsed
  have hmem : MemSafe d (VhostUserHandler.ringEvent d h e) := by
    cases e with
    | request mmap c => exact MemSafe.callStep hvm ⟨hs.memory, hs.table⟩ (mmap, c)
    | progress i nextAvail nextUsed => exact ⟨hs.memory, hs.table⟩
  refine ⟨?_, ?_, hm.kick, hmem.memory, ?_, hmem.table, fun F hF => ?_⟩
  · rw [hmax]
    exact hrings
  · rw [hfrom.length, hqueues]
    exact hs.count
  · cases e with
    | request mmap c => exact ownCells_callStep hvm hs.cells (mmap, c)
    | progress i nextAvail nextUsed => exact hs.cells
  · cases e with
    | progress i nextAvail nextUsed => exact hs.features F hF
    | request mmap c =>
      have hacked := (hfollows.invoke { d with mmap := mmap } c).acked
      show (h.invoke { d with mmap := mmap } c).2.ackedFeatures &&& ~~~F = 0
      rw [hacked]
      obtain hsame | hnone | hnew := acked_step ⟨h.ackedFeatures, h.vrings.map ringOf⟩ c
        (c.accepted (h.invoke { d with mmap := mmap } c).1)
      · rw [hsame]
        exact hs.features F hF
      · rw [hnone]
        exact UInt64.zero_and
      · obtain ⟨hc, hok⟩ := Prod.mk.inj hnew
        generalize (RingMachine.step _ _).acked = features at hc ⊢
        subst hc
        exact setFeatures_ok (d := { d with mmap := mmap }) (hF h.backend) hok

theorem safe_new {b : B} {mem : M} {heap : LogHeap} {n : Nat} (hnew : new d b mem heap n = some h)
    (hempty : d.vm.regions mem = []) : Safe d h := by
  have hfollows := follows_new hnew
  have hmem := memInv_new hnew hempty
  have hgood := good_new hnew
  have hcount := length_new hnew
  obtain ⟨vrings, hvrings, rfl⟩ := new_eq hnew
  refine ⟨fun v hv => ?_, hcount, hfollows.kick, hmem.disjoint, hmem.cells, fun _ => hmem.mirror, fun F _ => UInt64.zero_and⟩
  have hlayout := hgood _ (List.mem_map_of_mem hv)
  have hone := mapM_replicate_mem hvrings v hv
  simp only [VringState.new, Queue.new, Option.map_eq_some_iff, Option.ite_none_left_eq_some] at hone
  obtain ⟨q, ⟨-, hq⟩, rfl⟩ := hone
  cases hq
  exact ⟨hlayout, UInt64.zero_and, UInt64.zero_and, UInt64.zero_and⟩

end Safe

end VhostUserHandler

/-! ## The daemon -/

section Daemon
variable {B M τ : Type} (d : Deps B M) (send : List UInt8 → List File → τ → Except Error Unit × τ)

/-- The handler answers, with what `mmap` gives it. -/
def answering (mmap : Mmap) : BackendReqHandler.Svc (VhostUserHandler B M) τ :=
  ⟨fun c h => h.invoke { d with mmap := mmap } c, send⟩

/-- A worker has taken descriptors off a ring, or returned some. -/
def Worked (h h' : VhostUserHandler B M) : Prop :=
  ∃ i nextAvail nextUsed, h' = h.ringEvent d (.progress i nextAvail nextUsed)

variable {d send} {p : Platform}

theorem safe_step (hvm : VmMemorySpec d.vm) {a : VhostUserDaemon.Move} {x y : VhostUserDaemon (VhostUserHandler B M) τ}
    (hstep : VhostUserDaemon.Step (answering d send) (Worked d) p x a y) (hs : x.handler.Safe d) : y.handler.Safe d := by
  cases hstep with
  | start _ _ | handle _ _ _ _ _ | drop _ => exact hs
  | wait r y _ hwait =>
    rw [(VhostUserDaemon.wait_conns hwait).2.1]
    exact hs
  | device h hworked =>
    obtain ⟨i, nextAvail, nextUsed, rfl⟩ := hworked
    exact hs.ringEvent hvm (.progress i nextAvail nextUsed)
  | conn i act c c' h hc hconn =>
    cases hconn with
    | request _ | shutdown _ | arrive _ _ | panic _ | leave _ _ => exact hs
    | serve mmap sched truncErr r y s _ hret =>
      obtain ⟨rfl, -⟩ | ⟨req, -, hdispatch⟩ := BackendReqHandler.handleRequest_cases _ hret
      · exact hs
      · have hback := BackendReqHandler.backend_dispatch (answering d send mmap) p req (c.ctx x.handler)
        have hfinal : final (BackendReqHandler.dispatch (answering d send mmap) p req (c.ctx x.handler)) = y := by
          obtain ⟨hd, -⟩ | ⟨e, hd, -⟩ := hdispatch
          · exact congrArg final hd
          · exact congrArg final hd
        rw [hfinal] at hback
        show y.backend.Safe d
        rw [hback]
        -- a request makes at most one call
        rcases BackendReqHandler.parse p (c.ctx x.handler).handler req with stop | e | call
        · exact hs
        · exact hs
        · exact hs.ringEvent hvm (.request mmap call)

/-- **The handler stays safe** over any number of connections, one after the other or at once, whatever arrives on
them and however they are cut, and whatever the workers do meanwhile. -/
theorem daemon_safe (hvm : VmMemorySpec d.vm) {b : B} {mem : M} {heap : LogHeap} {n : Nat} {h : VhostUserHandler B M}
    (hnew : VhostUserHandler.new d b mem heap n = some h) (hempty : d.vm.regions mem = [])
    {x : VhostUserDaemon (VhostUserHandler B M) τ}
    (hx : VhostUserDaemon.Reachable (answering d send) (Worked d) p h x) : x.handler.Safe d := by
  obtain ⟨as, hrun⟩ := hx
  have hall {x y : VhostUserDaemon (VhostUserHandler B M) τ} {as : List VhostUserDaemon.Move} (hs : x.handler.Safe d)
      (hrun : Progress.Run (VhostUserDaemon.Step (answering d send) (Worked d) p) x as y) : y.handler.Safe d := by
    induction hrun with
    | nil => exact hs
    | cons hstep _ ih => exact ih (safe_step hvm hstep hs)
  exact hall (VhostUserHandler.safe_new hnew hempty) hrun

end Daemon

/-- The plain device behind a daemon whose sockets take every message. -/
abbrev PlainStep : VhostUserDaemon (VhostUserHandler Unit (List GuestRegionMmap)) Unit → VhostUserDaemon.Move →
    VhostUserDaemon (VhostUserHandler Unit (List GuestRegionMmap)) Unit → Prop :=
  VhostUserDaemon.Step (answering (plainDeps true) (fun _ _ t => (.ok (), t))) (Worked (plainDeps true))
    ⟨false, fun _ _ => .ok 1⟩

/-- `SET_FEATURES` has arrived on the only connection. -/
def featuresAsked : Conn Unit :=
  { Conn.new () with stream := (onWire (asking .setFeatures VhostUserVirtioFeatures.PROTOCOL_FEATURES)).stream }

/-- The features are acknowledged, and a worker takes a descriptor. -/
theorem daemon_safe_features : ∃ x : VhostUserDaemon (VhostUserHandler Unit (List GuestRegionMmap)) Unit,
    x.handler.ackedFeatures = VhostUserVirtioFeatures.PROTOCOL_FEATURES ∧ x.handler.Safe (plainDeps true) := by
  have hstart : PlainStep (.new plainHandler) .start ⟨plainHandler, some 0, some 0, [.new ()], false⟩ := .start () rfl
  have harrive : PlainStep ⟨plainHandler, some 0, some 0, [.new ()], false⟩ (.conn 0 .arrive)
      ⟨plainHandler, some 0, some 0, [featuresAsked], false⟩ := .conn 0 .arrive _ _ _ rfl (.arrive _ rfl)
  have hserve : PlainStep ⟨plainHandler, some 0, some 0, [featuresAsked], false⟩ (.conn 0 .serve) _ :=
    .conn 0 .serve featuresAsked _ _ rfl
      (.serve (fun _ _ _ => .ok 0) [.bytes 12, .bytes 8] .EINTR (.ok ()) _ _ rfl rfl)
  have hx : VhostUserDaemon.Reachable _ _ _ plainHandler _ :=
    ⟨_, .cons hstart (.cons harrive (.cons hserve (.cons (.device _ ⟨0, 1, 1, rfl⟩) (.nil _))))⟩
  exact ⟨_, rfl, daemon_safe (d := plainDeps true) vmRef_spec (new_plainHandler true) rfl hx⟩

end VhostUser
