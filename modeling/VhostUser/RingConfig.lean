import VhostUser.DirtyLog
import VhostUser.RingStates
/-!
# The configuration of a ring: size, base and addresses

`set_vring_num` and `set_vring_base` (`handler.rs:373-388`, `:439-450`) take a `u32`, narrow it to a
`u16` and hand it to the queue; `Queue::set_size` refuses without a word what is no power of two or above
the maximum. `set_vring_addr` (`:390-437`) translates three addresses and stores them one after the other.

| here | there |
| --- | --- |
| `RingEvent`    | one request, or the device moving the positions of a ring |
| `RingLayout`   | the part of a queue that says where it starts and where it wraps |
| `layoutStep`   | what a request does to it |
| `SizeInForce`, `BaseInForce` | what was acknowledged is what the queue works with |
| `AddrKept`     | a refused `set_vring_addr` has changed nothing |

The handler follows `layoutStep` (`layouts_invoke`), so everything about sizes and bases is read off the
layouts alone.
-/
namespace VhostUser
open PointUpdate Trace

/-! ## Runs -/

/-- A request with the answers `mmap` gives it, or descriptors taken from and returned to ring `i`. -/
inductive RingEvent where
  | request (mmap : Mmap) (c : Call)
  | progress (i : Nat) (nextAvail nextUsed : UInt16)

structure RingLayout where
  maxSize : UInt16
  size : UInt16
  nextAvail : UInt16
deriving DecidableEq, Repr

namespace RingLayout

/-- `Queue::set_size`. -/
def setSize (size : UInt16) (l : RingLayout) : RingLayout :=
  if size > l.maxSize || !isPowerOfTwo size then l else { l with size := size }

def setNextAvail (base : UInt16) (l : RingLayout) : RingLayout := { l with nextAvail := base }

/-- What `Queue::new` starts from and `set_size` keeps. -/
structure Good (maxSize : UInt16) (l : RingLayout) : Prop where
  maxSize_eq : l.maxSize = maxSize
  le : l.size ≤ maxSize
  pow : isPowerOfTwo l.size = true

theorem Good.setSize {m : UInt16} {l : RingLayout} (hl : l.Good m) (size : UInt16) : (l.setSize size).Good m := by
  unfold RingLayout.setSize
  split
  · exact hl
  · rename_i hsize
    simp only [Bool.or_eq_true, decide_eq_true_eq, not_or, Bool.not_eq_true', Bool.not_eq_false] at hsize
    rw [hl.maxSize_eq] at hsize
    exact ⟨hl.maxSize_eq, UInt16.not_lt.1 hsize.1, hsize.2⟩

theorem Good.setNextAvail {m : UInt16} {l : RingLayout} (hl : l.Good m) (base : UInt16) :
    (l.setNextAvail base).Good m := ⟨hl.maxSize_eq, hl.le, hl.pow⟩

@[simp] theorem nextAvail_setSize (size : UInt16) (l : RingLayout) : (l.setSize size).nextAvail = l.nextAvail := by
  unfold setSize
  split
  · rfl
  · rfl

/-- The size that was asked for is the size in force when it is a power of two within the maximum. -/
theorem size_setSize_iff {m : UInt16} {l : RingLayout} (hl : l.Good m) (n : UInt32) :
    (l.setSize n.toUInt16).size.toNat = n.toNat ↔ n.toNat ≤ m.toNat ∧ n.toNat.isPowerOfTwo := by
  have hm : m.toNat < 65536 := m.toNat_lt
  have hn : n.toUInt16.toNat = n.toNat % 65536 := n.toNat_toUInt16
  have hle : l.size.toNat ≤ m.toNat := UInt16.le_iff_toNat_le.1 hl.le
  unfold setSize
  rw [hl.maxSize_eq]
  split
  · rename_i hrefused
    constructor
    · intro hsize
      exact ⟨by omega, hsize ▸ isPowerOfTwo_iff.1 hl.pow⟩
    · rintro ⟨hbound, hpow⟩
      have hsame : n.toUInt16.toNat = n.toNat := by omega
      simp only [Bool.or_eq_true, decide_eq_true_eq, Bool.not_eq_true'] at hrefused
      rcases hrefused with hbig | hnot
      · have := UInt16.lt_iff_toNat_lt.1 hbig
        omega
      · rw [isPowerOfTwo_iff.2 (by rwa [hsame])] at hnot
        cases hnot
  · rename_i htaken
    simp only [Bool.or_eq_true, decide_eq_true_eq, not_or, Bool.not_eq_true', Bool.not_eq_false] at htaken
    have hbound := UInt16.le_iff_toNat_le.1 (UInt16.not_lt.1 htaken.1)
    constructor
    · intro hsize
      have hsize : n.toUInt16.toNat = n.toNat := hsize
      exact ⟨by omega, hsize ▸ isPowerOfTwo_iff.1 htaken.2⟩
    · rintro ⟨hbound', -⟩
      show n.toUInt16.toNat = n.toNat
      omega

end RingLayout

/-- What a request does to the layouts, given whether it was accepted. -/
def layoutStep (ls : List RingLayout) : Call × Bool → List RingLayout
  | (.setVringNum index num, true) => ls.modify index.toNat (.setSize num.toUInt16)
  | (.setVringBase index base, true) => ls.modify index.toNat (.setNextAvail base.toUInt16)
  | _ => ls

namespace VhostUserHandler
variable {B M : Type}

def ringEvent (d : Deps B M) (h : VhostUserHandler B M) : RingEvent → VhostUserHandler B M
  | .request mmap c => callStep d h (mmap, c)
  | .progress i nextAvail nextUsed => h.modVring i fun v => (v.setQueueNextAvail nextAvail).setQueueNextUsed nextUsed

/-! ## The layouts -/

def layoutOf (v : VringState) : RingLayout := ⟨v.queue.maxSize, v.queue.size, v.queue.nextAvail⟩

def layouts (h : VhostUserHandler B M) : List RingLayout := h.vrings.map layoutOf

section Layouts
variable {h : VhostUserHandler B M}

theorem layouts_modVring {f : VringState → VringState} {g : RingLayout → RingLayout}
    (hf : ∀ v, layoutOf (f v) = g (layoutOf v)) (i : Nat) : (h.modVring i f).layouts = h.layouts.modify i g :=
  map_modify hf h.vrings i

/-- A change that the layout does not show. -/
theorem layouts_touch (i : Nat) {f : VringState → VringState} (hf : ∀ v, layoutOf (f v) = layoutOf v) :
    (h.modVring i f).layouts = h.layouts := by
  rw [layouts_modVring (g := id) hf, List.modify_id]

theorem layouts_updateVringRegistration (h : VhostUserHandler B M) (i : Nat) (index : UInt8) :
    (h.updateVringRegistration i index).2.layouts = h.layouts := by
  obtain ⟨hs, hup⟩ := updateVringRegistration_eq h i index
  rw [hup]
  rfl

theorem layouts_setEnabledAll (enabled : Bool) (h : VhostUserHandler B M) :
    (setEnabledAll enabled (List.range h.vrings.length) h).2.layouts = h.layouts := by
  obtain ⟨hs, hall⟩ := setEnabledAll_eq enabled (List.range h.vrings.length) h
  rw [hall, layouts, foldl_modify_range, List.map_map]
  rfl

theorem layouts_withVring {α : Type} {i : Nat} {f : VringState → Except Error α × VhostUserHandler B M}
    (hf : ∀ v, h.vrings[i]? = some v → (f v).2.layouts = h.layouts) : (h.withVring i f).2.layouts = h.layouts := by
  unfold withVring
  split
  · rfl
  · rename_i v hv
    exact hf v hv

theorem layouts_initIfNeeded (h : VhostUserHandler B M) (index : UInt8) :
    (h.initIfNeeded index).2.layouts = h.layouts := by
  refine layouts_withVring fun v _ => ?_
  split
  · rw [initializeVring, layouts_updateVringRegistration]
    exact layouts_touch _ (by intro v; rfl)
  · rfl

/-- The ring `i` becomes `v'`, which has the layout it had. -/
theorem layouts_replace {i : Nat} {v v' : VringState} (hv : h.vrings[i]? = some v)
    (hlayout : layoutOf v' = layoutOf v) : (h.modVring i fun _ => v').layouts = h.layouts := by
  have hset : (h.modVring i fun _ => v').layouts = h.layouts.modify i fun _ => layoutOf v' :=
    layouts_modVring (fun _ => rfl) i
  have hsame : h.layouts.modify i (fun _ => layoutOf v') = h.layouts.modify i id :=
    modify_congr (by rw [layouts, List.getElem?_map, hv]; rfl) hlayout
  rw [hset, hsame, List.modify_id]

/-- Only the addresses change, some or all of them. -/
theorem setQueueInfo_eq (v : VringState) (descTable availRing usedRing : UInt64) :
    ∃ D A U, (v.setQueueInfo descTable availRing usedRing).2 =
      { v with queue := { v.queue with descTable := D, availRing := A, usedRing := U } } := by
  unfold VringState.setQueueInfo Queue.trySetDescTableAddress Queue.trySetAvailRingAddress
    Queue.trySetUsedRingAddress
  by_cases hd : (descTable &&& 0xf == 0) = true
  · by_cases ha : (availRing &&& 0x1 == 0) = true
    · by_cases hu : (usedRing &&& 0x3 == 0) = true
      · exact ⟨descTable, availRing, usedRing, by simp only [hd, ha, hu, if_true]⟩
      · exact ⟨descTable, availRing, v.queue.usedRing, by simp only [hd, ha, hu, if_true]; rfl⟩
    · exact ⟨descTable, v.queue.availRing, v.queue.usedRing, by simp only [hd, ha, if_true]; rfl⟩
  · exact ⟨v.queue.descTable, v.queue.availRing, v.queue.usedRing, by simp only [hd]; rfl⟩

theorem layoutOf_setQueueSize (size : UInt16) (v : VringState) :
    layoutOf (v.setQueueSize size) = (layoutOf v).setSize size := by
  unfold layoutOf VringState.setQueueSize Queue.setSize RingLayout.setSize
  dsimp only
  split
  · rfl
  · rfl

theorem layoutOf_setQueueInfo (v : VringState) (descTable availRing usedRing : UInt64) :
    layoutOf (v.setQueueInfo descTable availRing usedRing).2 = layoutOf v := by
  obtain ⟨D, A, U, heq⟩ := setQueueInfo_eq v descTable availRing usedRing
  rw [heq]
  rfl

theorem layouts_storeAddrs (d : Deps B M) {index : UInt32} {v : VringState} (hv : h.vrings[index.toNat]? = some v)
    (D A U : UInt64) : (h.storeAddrs d index v D A U).2.layouts = h.layouts := by
  have hset := layouts_replace hv (layoutOf_setQueueInfo v D A U)
  unfold storeAddrs
  split
  · rename_i v' hinfo
    rw [hinfo] at hset
    exact hset
  · rename_i v' hinfo
    rw [hinfo] at hset
    dsimp only
    split
    · exact hset
    · exact Eq.trans (layouts_touch _ (by intro v; rfl)) hset

theorem layouts_getVringBase (h : VhostUserHandler B M) (index : UInt32) :
    (h.getVringBase index).2.layouts = h.layouts := by
  refine layouts_withVring fun v _ => ?_
  obtain ⟨hs, hup⟩ := updateVringRegistration_eq (h.modVring index.toNat fun v => v.setQueueReady false)
    index.toNat index.toUInt8
  rw [hup]
  dsimp only
  refine Eq.trans (layouts_touch _ (by intro v; rfl)) ?_
  refine Eq.trans (layouts_touch _ (by intro v; rfl)) ?_
  exact layouts_touch (h := h) index.toNat (by intro v; rfl)

theorem layouts_setFeatures (d : Deps B M) (features : UInt64) (h : VhostUserHandler B M) :
    (h.setFeatures d features).2.layouts = h.layouts := by
  have hack (h₁ : VhostUserHandler B M) : (h₁.ackFeatures d).layouts = h₁.layouts := by
    rw [layouts, ackFeatures, List.map_map]
    rfl
  unfold setFeatures
  split
  · rfl
  · have hall := layouts_setEnabledAll true { h with ackedFeatures := features, featuresAcked := true }
    unfold enableUnlessProtocol
    split
    · rename_i heq
      split at heq
      · rw [heq] at hall
        exact hall
      · cases heq
    · rename_i heq
      split at heq
      · rw [heq] at hall
        exact (hack _).trans hall
      · cases heq
        exact hack _

theorem layouts_resetDevice (d : Deps B M) (h : VhostUserHandler B M) : (h.resetDevice d).2.layouts = h.layouts := by
  have hall := layouts_setEnabledAll false h
  unfold resetDevice
  split
  · rename_i heq
    rw [heq] at hall
    exact hall
  · rename_i heq
    rw [heq] at hall
    exact hall

theorem layouts_replaceMem (d : Deps B M) (mem : M) (ms : List AddrMapping) (h : VhostUserHandler B M) :
    (replaceMem d mem ms h).2.layouts = h.layouts := by
  unfold replaceMem
  dsimp only
  split
  · rfl
  · rfl

theorem layouts_setVringNum (h : VhostUserHandler B M) (index num : UInt32) :
    (h.setVringNum index num).2.layouts =
      layoutStep h.layouts (.setVringNum index num, (h.setVringNum index num).1.isOk) := by
  unfold setVringNum withVring
  split
  · rfl
  · split
    · rfl
    · exact layouts_modVring (layoutOf_setQueueSize num.toUInt16) _

theorem layouts_setVringBase (h : VhostUserHandler B M) (index base : UInt32) :
    (h.setVringBase index base).2.layouts =
      layoutStep h.layouts (.setVringBase index base, (h.setVringBase index base).1.isOk) := by
  unfold setVringBase withVring
  split
  · rfl
  · exact layouts_modVring (by intro v; rfl) _

/-- **One request**: only `set_vring_num` and `set_vring_base` touch a layout, each that of its own ring,
and only when they return `Ok`. -/
theorem layouts_invoke (d : Deps B M) (c : Call) (h : VhostUserHandler B M) :
    (h.invoke d c).2.layouts = layoutStep h.layouts (c, c.accepted (h.invoke d c).1) := by
  cases c with
  | setVringNum index num => exact layouts_setVringNum h index num
  | setVringBase index base => exact layouts_setVringBase h index base
  | setVringAddr index flags descriptor used available log =>
    show (h.invoke d (.setVringAddr index flags descriptor used available log)).2.layouts = h.layouts
    obtain ⟨e, hset⟩ | ⟨v, D, A, U, hv, hset⟩ :=
      @invoke_setVringAddr_cases _ _ d h index descriptor used available flags log
    · rw [hset]
    · rw [hset]
      exact layouts_storeAddrs d hv D A U
  | getVringBase index => exact layouts_getVringBase h index
  | setVringKick index fd =>
    refine layouts_withVring fun v _ => ?_
    rw [layouts_initIfNeeded]
    exact layouts_touch _ (by intro v; rfl)
  | setVringCall index fd =>
    refine layouts_withVring fun v _ => ?_
    rw [layouts_initIfNeeded]
    exact layouts_touch _ (by intro v; rfl)
  | setVringErr index fd => exact layouts_withVring fun v _ => layouts_touch _ (by intro v; rfl)
  | setVringEnable index enable =>
    show (h.setVringEnable index enable).2.layouts = h.layouts
    unfold setVringEnable
    split
    · rfl
    · refine layouts_withVring fun v _ => ?_
      rw [layouts_updateVringRegistration]
      exact layouts_touch _ (by intro v; rfl)
  | setFeatures features => exact layouts_setFeatures d features h
  | resetDevice => exact layouts_resetDevice d h
  | setOwner =>
    show h.setOwner.2.layouts = h.layouts
    unfold setOwner
    split
    · rfl
    · rfl
  | setMemTable ctx files =>
    show (h.setMemTable d ctx files).2.layouts = h.layouts
    unfold setMemTable
    split
    · rfl
    · split
      · rfl
      · exact layouts_replaceMem d _ _ _
  | addMemRegion region fd =>
    show (h.addMemRegion d region fd).2.layouts = h.layouts
    unfold addMemRegion
    split
    · rfl
    · split
      · rfl
      · exact layouts_replaceMem d _ _ _
  | removeMemRegion region =>
    show (h.removeMemRegion d region).2.layouts = h.layouts
    unfold removeMemRegion
    split
    · rfl
    · exact layouts_replaceMem d _ _ _
  | setLogBase log file =>
    show (h.setLogBase d log file).2.layouts = h.layouts
    unfold setLogBase
    split
    · rfl
    · split
      · rfl
      · rfl
  | _ => rfl

end Layouts

/-- Every ring has a layout that `Queue` allows. -/
theorem good_new {d : Deps B M} {b : B} {mem : M} {heap : LogHeap} {n : Nat} {h : VhostUserHandler B M}
    (hnew : new d b mem heap n = some h) :
    ∀ l ∈ h.layouts, l.Good (UInt16.ofNat (d.backend.maxQueueSize b)) := by
  obtain ⟨vrings, hvrings, rfl⟩ := new_eq hnew
  intro l hl
  obtain ⟨v, hv, rfl⟩ := List.mem_map.1 hl
  have hone := mapM_replicate_mem hvrings v hv
  simp only [VringState.new, Queue.new, Option.map_eq_some_iff, Option.ite_none_left_eq_some] at hone
  obtain ⟨q, ⟨hok, hq⟩, rfl⟩ := hone
  cases hq
  simp only [Bool.or_eq_true, not_or, Bool.not_eq_true', Bool.not_eq_false] at hok
  exact ⟨rfl, UInt16.le_refl _, hok.2⟩

theorem good_modify {m : UInt16} {ls : List RingLayout} (hls : ∀ l ∈ ls, l.Good m) {g : RingLayout → RingLayout}
    (hg : ∀ l, RingLayout.Good m l → RingLayout.Good m (g l)) (i : Nat) : ∀ l ∈ ls.modify i g, l.Good m := by
  intro l hl
  obtain ⟨j, hj⟩ := List.getElem?_of_mem hl
  rw [List.getElem?_modify] at hj
  obtain ⟨l', hl', rfl⟩ := Option.map_eq_some_iff.1 hj
  have hgood := hls l' (List.mem_of_getElem? hl')
  split
  · exact hg l' hgood
  · exact hgood

theorem good_layoutStep {m : UInt16} {ls : List RingLayout} (hls : ∀ l ∈ ls, l.Good m) (a : Call × Bool) :
    ∀ l ∈ layoutStep ls a, l.Good m := by
  unfold layoutStep
  split
  · exact good_modify hls (fun l hl => hl.setSize _) _
  · exact good_modify hls (fun l hl => hl.setNextAvail _) _
  · exact hls

theorem layouts_progress (h : VhostUserHandler B M) (i : Nat) (nextAvail nextUsed : UInt16) (d : Deps B M) :
    (ringEvent d h (.progress i nextAvail nextUsed)).layouts = h.layouts.modify i (.setNextAvail nextAvail) :=
  layouts_modVring (by intro v; rfl) _

theorem good_ringEvent {m : UInt16} {d : Deps B M} {h : VhostUserHandler B M} (e : RingEvent)
    (hls : ∀ l ∈ h.layouts, l.Good m) : ∀ l ∈ (ringEvent d h e).layouts, l.Good m := by
  cases e with
  | request mmap c =>
    rw [ringEvent, callStep, layouts_invoke]
    exact good_layoutStep hls _
  | progress i nextAvail nextUsed =>
    rw [layouts_progress]
    exact good_modify hls (fun l hl => hl.setNextAvail _) _

/-- In every state that requests and the device lead to. -/
theorem good_run {d : Deps B M} {b : B} {mem : M} {heap : LogHeap} {n : Nat} {h : VhostUserHandler B M}
    (hnew : new d b mem heap n = some h) (es : List RingEvent) :
    ∀ l ∈ (run (ringEvent d) h es).layouts, l.Good (UInt16.ofNat (d.backend.maxQueueSize b)) :=
  inv_run (I := fun h => ∀ l ∈ h.layouts, l.Good (UInt16.ofNat (d.backend.maxQueueSize b)))
    (fun _ e hls => good_ringEvent e hls) es h (good_new hnew)

/-! ## What was acknowledged -/

/-- No `set_vring_num` of ring `i` is accepted. -/
def SparesSize (i : Nat) (h : VhostUserHandler B M) : RingEvent → Prop
  | .request _ (.setVringNum index num) => index.toNat = i → (h.setVringNum index num).1 ≠ .ok ()
  | _ => True

/-- No `set_vring_base` of ring `i`, and no descriptor is taken from it. -/
def SparesBase (i : Nat) (h : VhostUserHandler B M) : RingEvent → Prop
  | .request _ (.setVringBase index _) => index.toNat ≠ i
  | .progress j nextAvail _ => j = i → ∀ v, h.vrings[i]? = some v → nextAvail = v.queue.nextAvail
  | _ => True

/-- The size of ring `i` is `n` from now until the next `set_vring_num` that is accepted. -/
def SizeInForce (d : Deps B M) (h : VhostUserHandler B M) (i : Nat) (n : UInt32) : Prop :=
  ∀ es, Along (ringEvent d) (SparesSize i) h es →
    ∃ v, (run (ringEvent d) h es).vrings[i]? = some v ∧ v.queue.size.toNat = n.toNat

/-- `get_vring_base` answers `b` after any other requests, as long as the device takes nothing. -/
def BaseInForce (d : Deps B M) (h : VhostUserHandler B M) (index : UInt32) (b : UInt32) : Prop :=
  ∀ es, Along (ringEvent d) (SparesBase index.toNat) h es →
    ((run (ringEvent d) h es).getVringBase index).1 = .ok ⟨index, b⟩

section InForce
variable {d : Deps B M} {h : VhostUserHandler B M} {i : Nat}

theorem getElem?_layouts (h : VhostUserHandler B M) (i : Nat) : h.layouts[i]? = h.vrings[i]?.map layoutOf :=
  List.getElem?_map

/-- A change of one layout that does not show in `p`, or is of another ring. -/
theorem map_getElem?_modify {γ : Type} {p : RingLayout → γ} {g : RingLayout → RingLayout} {ls : List RingLayout}
    {j : Nat} (hg : j = i → ∀ l, ls[i]? = some l → p (g l) = p l) :
    (ls.modify j g)[i]?.map p = ls[i]?.map p := by
  rw [List.getElem?_modify]
  by_cases hj : j = i
  · cases hl : ls[i]? with
    | none => rfl
    | some l => simp [hj, hg hj l hl]
  · simp [hj]

theorem eq_ok_of_isOk {r : Except Error Unit} (hr : r.isOk = true) : r = .ok () := by
  cases r with
  | ok _ => rfl
  | error e => cases hr

theorem size_ringEvent {e : RingEvent} (he : SparesSize i h e) :
    (ringEvent d h e).layouts[i]?.map RingLayout.size = h.layouts[i]?.map RingLayout.size := by
  cases e with
  | progress j nextAvail nextUsed =>
    rw [layouts_progress]
    exact map_getElem?_modify fun _ l _ => rfl
  | request mmap c =>
    rw [ringEvent, callStep, layouts_invoke]
    unfold layoutStep
    split
    · rename_i index num heq
      obtain ⟨rfl, hok⟩ := Prod.mk.injEq .. ▸ heq
      exact map_getElem?_modify fun hi => absurd (eq_ok_of_isOk hok) (he hi)
    · exact map_getElem?_modify fun _ l _ => rfl
    · rfl

theorem nextAvail_ringEvent {e : RingEvent} (he : SparesBase i h e) :
    (ringEvent d h e).layouts[i]?.map RingLayout.nextAvail = h.layouts[i]?.map RingLayout.nextAvail := by
  cases e with
  | progress j nextAvail nextUsed =>
    rw [layouts_progress]
    refine map_getElem?_modify fun hj l hl => ?_
    rw [getElem?_layouts] at hl
    obtain ⟨v, hv, rfl⟩ := Option.map_eq_some_iff.1 hl
    exact he hj v hv
  | request mmap c =>
    rw [ringEvent, callStep, layouts_invoke]
    unfold layoutStep
    split
    · exact map_getElem?_modify fun _ l _ => l.nextAvail_setSize _
    · rename_i index base heq
      obtain ⟨rfl, -⟩ := Prod.mk.injEq .. ▸ heq
      exact map_getElem?_modify fun hi => absurd hi he
    · rfl

/-- What the spared events keep, a run of them keeps. -/
theorem map_layouts_run {γ : Type} {p : RingLayout → γ} {C : VhostUserHandler B M → RingEvent → Prop}
    (hstep : ∀ (h : VhostUserHandler B M) e, C h e →
      (ringEvent d h e).layouts[i]?.map p = h.layouts[i]?.map p) {es : List RingEvent}
    (hes : Along (ringEvent d) C h es) :
    (run (ringEvent d) h es).layouts[i]?.map p = h.layouts[i]?.map p := by
  have hvisits : Visits (ringEvent d) (fun h' => h'.layouts[i]?.map p = h.layouts[i]?.map p) h es :=
    visits_of_along (fun h' e hkept he => (hstep h' e he).trans hkept) es h rfl hes
  exact hvisits.last

theorem sizeInForce_iff {n : UInt32} :
    SizeInForce d h i n ↔ ∃ l, h.layouts[i]? = some l ∧ l.size.toNat = n.toNat := by
  constructor
  · intro hforce
    obtain ⟨v, hv, hsize⟩ := hforce [] trivial
    exact ⟨layoutOf v, by rw [getElem?_layouts]; exact congrArg _ hv, hsize⟩
  · rintro ⟨l, hl, hsize⟩ es hes
    have hrun := map_layouts_run (p := RingLayout.size) (fun h e he => size_ringEvent he) hes
    rw [hl, getElem?_layouts] at hrun
    cases hv : (run (ringEvent d) h es).vrings[i]? with
    | none =>
      rw [hv] at hrun
      cases hrun
    | some v =>
      rw [hv] at hrun
      exact ⟨v, rfl, (congrArg UInt16.toNat (Option.some.inj hrun)).trans hsize⟩

/-- `get_vring_base` answers the position the queue is at. -/
theorem getVringBase_result (h : VhostUserHandler B M) (index : UInt32) :
    (h.getVringBase index).1 =
      h.layouts[index.toNat]?.elim (.error .invalidParam) fun l => .ok ⟨index, l.nextAvail.toUInt32⟩ := by
  rw [getElem?_layouts]
  unfold getVringBase withVring
  cases h.vrings[index.toNat]? with
  | none => rfl
  | some v =>
    obtain ⟨hs, hup⟩ := updateVringRegistration_eq (h.modVring index.toNat fun v => v.setQueueReady false)
      index.toNat index.toUInt8
    dsimp only
    rw [hup]
    rfl

theorem baseInForce_iff {index b : UInt32} :
    BaseInForce d h index b ↔ ∃ l, h.layouts[index.toNat]? = some l ∧ l.nextAvail.toUInt32 = b := by
  constructor
  · intro hforce
    have hget : (h.getVringBase index).1 = _ := hforce [] trivial
    rw [getVringBase_result] at hget
    cases hl : h.layouts[index.toNat]? with
    | none =>
      rw [hl] at hget
      cases hget
    | some l =>
      rw [hl] at hget
      cases hget
      exact ⟨l, rfl, rfl⟩
  · rintro ⟨l, hl, rfl⟩ es hes
    have hrun := map_layouts_run (p := RingLayout.nextAvail) (fun h e he => nextAvail_ringEvent he) hes
    rw [hl] at hrun
    rw [getVringBase_result]
    cases hl' : (run (ringEvent d) h es).layouts[index.toNat]? with
    | none =>
      rw [hl'] at hrun
      cases hrun
    | some l' =>
      rw [hl'] at hrun
      exact congrArg (fun n : UInt16 => Except.ok (VhostUserVringState.mk index n.toUInt32)) (Option.some.inj hrun)

theorem setVringNum_ok {index n : UInt32} (hok : (h.setVringNum index n).1 = .ok ()) :
    ∃ l, h.layouts[index.toNat]? = some l ∧
      (h.setVringNum index n).2.layouts[index.toNat]? = some (l.setSize n.toUInt16) := by
  have hstep := layouts_setVringNum h index n
  rw [hok] at hstep
  cases hv : h.vrings[index.toNat]? with
  | none =>
    unfold setVringNum withVring at hok
    rw [hv] at hok
    cases hok
  | some v =>
    refine ⟨layoutOf v, by rw [getElem?_layouts, hv]; rfl, ?_⟩
    rw [hstep]
    simp [layoutStep, Except.isOk, Except.toBool, getElem?_layouts, hv]

theorem setVringBase_ok {index b : UInt32} (hok : (h.setVringBase index b).1 = .ok ()) :
    ∃ l, (h.setVringBase index b).2.layouts[index.toNat]? = some (.setNextAvail b.toUInt16 l) := by
  have hstep := layouts_setVringBase h index b
  rw [hok] at hstep
  cases hv : h.vrings[index.toNat]? with
  | none =>
    unfold setVringBase withVring at hok
    rw [hv] at hok
    cases hok
  | some v =>
    refine ⟨layoutOf v, ?_⟩
    rw [hstep]
    simp [layoutStep, Except.isOk, Except.toBool, getElem?_layouts, hv]

end InForce

/-- **What was acknowledged is in force exactly when it fits**: from every state that requests and the
device lead to, for every ring and every `u32`. -/
theorem acknowledged_in_force_iff {d : Deps B M} {b : B} {mem : M} {heap : LogHeap} {cell : Nat}
    {h₀ h : VhostUserHandler B M} (hnew : new d b mem heap cell = some h₀) (es : List RingEvent)
    (hrun : run (ringEvent d) h₀ es = h) (index n base : UInt32) :
    ((h.setVringNum index n).1 = .ok () →
      (SizeInForce d (h.setVringNum index n).2 index.toNat n ↔
        n.toNat ≤ d.backend.maxQueueSize b % 2 ^ 16 ∧ n.toNat.isPowerOfTwo)) ∧
    ((h.setVringBase index base).1 = .ok () →
      (BaseInForce d (h.setVringBase index base).2 index base ↔ base.toNat < 2 ^ 16)) := by
  have hgood := hrun ▸ good_run hnew es
  constructor
  · intro hok
    obtain ⟨l, hl, hset⟩ := setVringNum_ok hok
    rw [sizeInForce_iff, hset]
    have hsize := RingLayout.size_setSize_iff (hgood l (List.mem_of_getElem? hl)) n
    rw [UInt16.toNat_ofNat'] at hsize
    simpa using hsize
  · intro hok
    obtain ⟨l, hset⟩ := setVringBase_ok hok
    rw [baseInForce_iff, hset]
    have hbase : base.toUInt16.toUInt32 = base ↔ base.toNat < 2 ^ 16 := by
      rw [← UInt32.toNat_inj, UInt16.toNat_toUInt32, UInt32.toNat_toUInt16]
      exact Nat.mod_eq_iff_lt (by decide)
    simp only [Option.some.injEq, exists_eq_left']
    exact hbase

end VhostUserHandler

/-- A size of 3 is acknowledged and the queue keeps its 256; a base of 65536 is acknowledged and 0 comes
back. -/
theorem acknowledged_not_in_force :
    ((plainHandler.setVringNum 0 3).1 = .ok () ∧
        ¬VhostUserHandler.SizeInForce (plainDeps true) (plainHandler.setVringNum 0 3).2 0 3) ∧
      (plainHandler.setVringBase 0 65536).1 = .ok () ∧
        ¬VhostUserHandler.BaseInForce (plainDeps true) (plainHandler.setVringBase 0 65536).2 0 65536 := by
  refine ⟨⟨by decide, fun hforce => ?_⟩, by decide, fun hforce => ?_⟩
  · obtain ⟨v, hv, hsize⟩ := hforce [] trivial
    have hqueue : (run (VhostUserHandler.ringEvent (plainDeps true)) (plainHandler.setVringNum 0 3).2 []).vrings[0]? =
        some ⟨⟨256, 256, false, 0, 0, false, 0, 0, 0⟩, none, none, none, false⟩ := by decide
    rw [hqueue] at hv
    cases hv
    exact absurd hsize (by decide)
  · exact absurd (hforce [] trivial) (by decide)

theorem acknowledged_in_force_plain :
    VhostUserHandler.SizeInForce (plainDeps true) (plainHandler.setVringNum 0 128).2 0 128 ∧
      VhostUserHandler.BaseInForce (plainDeps true) (plainHandler.setVringBase 0 7).2 0 7 :=
  ⟨((VhostUserHandler.acknowledged_in_force_iff (new_plainHandler true) [] rfl 0 128 7).1 (by decide)).2
      ⟨by decide, 7, by decide⟩,
    ((VhostUserHandler.acknowledged_in_force_iff (new_plainHandler true) [] rfl 0 128 7).2 (by decide)).2 (by decide)⟩

/-! ## A refused `set_vring_addr` -/

namespace VhostUserHandler
variable {B M : Type}

/-- What `set_vring_addr` writes. -/
def ringAddrs (v : VringState) : UInt64 × UInt64 × UInt64 × UInt16 :=
  (v.queue.descTable, v.queue.availRing, v.queue.usedRing, v.queue.nextUsed)

/-- A failed `set_vring_addr` leaves the ring as it was. -/
def AddrKept (d : Deps B M) (h : VhostUserHandler B M) (index : UInt32) (descriptor used available : UInt64) : Prop :=
  ∀ e h', h.setVringAddr d index descriptor used available = some (.error e, h') →
    h'.vrings[index.toNat]?.map ringAddrs = h.vrings[index.toNat]?.map ringAddrs

/-- The three addresses as guest addresses. -/
structure Translated (h : VhostUserHandler B M) (descriptor used available D A U : UInt64) : Prop where
  desc : h.vmmVaToGpa descriptor = some (some D)
  avail : h.vmmVaToGpa available = some (some A)
  used : h.vmmVaToGpa used = some (some U)

/-- A step fails after an earlier one has stored an address that the queue did not have. -/
def Torn (d : Deps B M) (h : VhostUserHandler B M) (index : UInt32) (descriptor used available : UInt64) : Prop :=
  ∃ v D A U, h.vrings[index.toNat]? = some v ∧ Translated h descriptor used available D A U ∧ D &&& 0xf = 0 ∧
    (A &&& 0x1 ≠ 0 ∧ D ≠ v.queue.descTable ∨
      A &&& 0x1 = 0 ∧ U &&& 0x3 ≠ 0 ∧ (D, A) ≠ (v.queue.descTable, v.queue.availRing) ∨
      A &&& 0x1 = 0 ∧ U &&& 0x3 = 0 ∧ d.vm.usedIdx h.atomicMem U = none ∧
        (D, A, U) ≠ (v.queue.descTable, v.queue.availRing, v.queue.usedRing))

section SetQueueInfo
variable {v : VringState} {D A U : UInt64}

theorem setQueueInfo_desc (hD : D &&& 0xf ≠ 0) : v.setQueueInfo D A U = (false, v) := by
  simp [VringState.setQueueInfo, Queue.trySetDescTableAddress, hD]

theorem setQueueInfo_avail (hD : D &&& 0xf = 0) (hA : A &&& 0x1 ≠ 0) :
    v.setQueueInfo D A U = (false, { v with queue := { v.queue with descTable := D } }) := by
  simp [VringState.setQueueInfo, Queue.trySetDescTableAddress, Queue.trySetAvailRingAddress, hD, hA]

theorem setQueueInfo_used (hD : D &&& 0xf = 0) (hA : A &&& 0x1 = 0) (hU : U &&& 0x3 ≠ 0) :
    v.setQueueInfo D A U = (false, { v with queue := { v.queue with descTable := D, availRing := A } }) := by
  simp [VringState.setQueueInfo, Queue.trySetDescTableAddress, Queue.trySetAvailRingAddress,
    Queue.trySetUsedRingAddress, hD, hA, hU]

theorem setQueueInfo_all (hD : D &&& 0xf = 0) (hA : A &&& 0x1 = 0) (hU : U &&& 0x3 = 0) :
    v.setQueueInfo D A U =
      (true, { v with queue := { v.queue with descTable := D, availRing := A, usedRing := U } }) := by
  simp [VringState.setQueueInfo, Queue.trySetDescTableAddress, Queue.trySetAvailRingAddress,
    Queue.trySetUsedRingAddress, hD, hA, hU]

end SetQueueInfo

section Addr
variable {d : Deps B M} {h h' : VhostUserHandler B M} {index : UInt32} {descriptor used available : UInt64}
  {v : VringState} {D A U : UInt64} {e : Error}

/-- Storing the addresses fails at one of them, or at the index of the used ring. -/
theorem storeAddrs_error (hr : h.storeAddrs d index v D A U = (.error e, h')) :
    (h' = h.modVring index.toNat fun _ => (v.setQueueInfo D A U).2) ∧
      ((v.setQueueInfo D A U).1 = true → d.vm.usedIdx h.atomicMem (v.setQueueInfo D A U).2.queue.usedRing = none) := by
  unfold storeAddrs at hr
  split at hr
  · rename_i v' hinfo
    rw [hinfo]
    cases hr
    exact ⟨rfl, fun ht => by cases ht⟩
  · rename_i v' hinfo
    rw [hinfo]
    dsimp only at hr
    split at hr
    · rename_i hnone
      cases hr
      exact ⟨rfl, fun _ => hnone⟩
    · cases hr

/-- Before the addresses are stored nothing is written. -/
theorem setVringAddr_error (hr : h.setVringAddr d index descriptor used available = some (.error e, h')) :
    h' = h ∨ ∃ v D A U, h.vrings[index.toNat]? = some v ∧ Translated h descriptor used available D A U ∧
      (h' = h.modVring index.toNat fun _ => (v.setQueueInfo D A U).2) ∧
      ((v.setQueueInfo D A U).1 = true → d.vm.usedIdx h.atomicMem (v.setQueueInfo D A U).2.queue.usedRing = none) := by
  unfold setVringAddr at hr
  split at hr
  · cases hr
    exact .inl rfl
  · rename_i v hv
    split at hr
    · cases hr
      exact .inl rfl
    · split at hr
      · cases hr
      · cases hr
        exact .inl rfl
      · rename_i D hD
        split at hr
        · cases hr
        · cases hr
          exact .inl rfl
        · rename_i A hA
          split at hr
          · cases hr
          · cases hr
            exact .inl rfl
          · rename_i U hU
            obtain ⟨hset, hfail⟩ := storeAddrs_error (Option.some.inj hr)
            exact .inr ⟨v, D, A, U, hv, ⟨hD, hA, hU⟩, hset, hfail⟩

/-- What becomes of a ring whose addresses are translated. -/
theorem setVringAddr_torn (hv : h.vrings[index.toNat]? = some v) (ht : Translated h descriptor used available D A U)
    (hfail : (v.setQueueInfo D A U).1 = true →
      d.vm.usedIdx h.atomicMem (v.setQueueInfo D A U).2.queue.usedRing = none) :
    ∃ e, h.setVringAddr d index descriptor used available =
      some (.error e, h.modVring index.toNat fun _ => (v.setQueueInfo D A U).2) := by
  have hne : h.mappings.isEmpty = false := by
    cases hm : h.mappings with
    | nil =>
      have hdesc := ht.desc
      rw [vmmVaToGpa, hm] at hdesc
      cases hdesc
    | cons m ms => rfl
  rcases hinfo : v.setQueueInfo D A U with ⟨ok, v'⟩
  rw [hinfo] at hfail
  unfold setVringAddr storeAddrs
  simp only [hv, hne, ht.desc, ht.avail, ht.used, hinfo, Bool.false_eq_true, if_false]
  cases ok with
  | false => exact ⟨_, rfl⟩
  | true =>
    have hnone := hfail rfl
    refine ⟨.backendInternalError, ?_⟩
    simp only [modVring] at hnone ⊢
    rw [hnone]

/-- The ring after the addresses were stored, as far as they were. -/
theorem vrings_stored (hv : h.vrings[index.toNat]? = some v) (v' : VringState) :
    (h.modVring index.toNat fun _ => v').vrings[index.toNat]?.map ringAddrs = some (ringAddrs v') := by
  rw [vrings_modVring, if_pos rfl, hv]
  rfl

theorem not_addrKept_of_torn (ht : Torn d h index descriptor used available) :
    ¬AddrKept d h index descriptor used available := by
  obtain ⟨v, D, A, U, hv, htrans, hD, hcase⟩ := ht
  intro hkept
  -- in each case the ring holds an address it did not hold before
  rcases hcase with ⟨hA, hne⟩ | ⟨hA, hU, hne⟩ | ⟨hA, hU, hidx, hne⟩
  · have hinfo := setQueueInfo_avail (v := v) (U := U) hD hA
    obtain ⟨e, hr⟩ := setVringAddr_torn (d := d) hv htrans (by rw [hinfo]; exact fun ht => by cases ht)
    have hsame := hkept e _ hr
    rw [vrings_stored hv, hv, hinfo] at hsame
    simp only [ringAddrs, Option.map_some, Option.some.injEq, Prod.mk.injEq] at hsame
    exact hne hsame.1
  · have hinfo := setQueueInfo_used (v := v) hD hA hU
    obtain ⟨e, hr⟩ := setVringAddr_torn (d := d) hv htrans (by rw [hinfo]; exact fun ht => by cases ht)
    have hsame := hkept e _ hr
    rw [vrings_stored hv, hv, hinfo] at hsame
    simp only [ringAddrs, Option.map_some, Option.some.injEq, Prod.mk.injEq] at hsame
    exact hne (by rw [hsame.1, hsame.2.1])
  · have hinfo := setQueueInfo_all (v := v) hD hA hU
    obtain ⟨e, hr⟩ := setVringAddr_torn (d := d) hv htrans (by rw [hinfo]; exact fun _ => hidx)
    have hsame := hkept e _ hr
    rw [vrings_stored hv, hv, hinfo] at hsame
    simp only [ringAddrs, Option.map_some, Option.some.injEq, Prod.mk.injEq] at hsame
    exact hne (by rw [hsame.1, hsame.2.1, hsame.2.2.1])

theorem addrKept_of_not_torn (hnot : ¬Torn d h index descriptor used available) :
    AddrKept d h index descriptor used available := by
  intro e h' hr
  obtain rfl | ⟨v, D, A, U, hv, htrans, rfl, hfail⟩ := setVringAddr_error hr
  · rfl
  rw [vrings_stored hv, hv]
  by_cases hD : D &&& 0xf = 0
  · by_cases hA : A &&& 0x1 = 0
    · by_cases hU : U &&& 0x3 = 0
      · rw [setQueueInfo_all hD hA hU] at hfail ⊢
        by_cases hsame : (D, A, U) = (v.queue.descTable, v.queue.availRing, v.queue.usedRing)
        · simp only [Prod.mk.injEq] at hsame
          simp [ringAddrs, hsame]
        · exact absurd ⟨v, D, A, U, hv, htrans, hD, .inr (.inr ⟨hA, hU, hfail rfl, hsame⟩)⟩ hnot
      · rw [setQueueInfo_used hD hA hU]
        by_cases hsame : (D, A) = (v.queue.descTable, v.queue.availRing)
        · simp only [Prod.mk.injEq] at hsame
          simp [ringAddrs, hsame]
        · exact absurd ⟨v, D, A, U, hv, htrans, hD, .inr (.inl ⟨hA, hU, hsame⟩)⟩ hnot
    · rw [setQueueInfo_avail hD hA]
      by_cases hsame : D = v.queue.descTable
      · simp [ringAddrs, hsame]
      · exact absurd ⟨v, D, A, U, hv, htrans, hD, .inl ⟨hA, hsame⟩⟩ hnot
  · rw [setQueueInfo_desc hD]
    rfl

/-- **A failed `set_vring_addr` changes nothing, unless it is torn**: in every state, for every ring and
all addresses. -/
theorem addrKept_iff_not_torn (d : Deps B M) (h : VhostUserHandler B M) (index : UInt32)
    (descriptor used available : UInt64) :
    AddrKept d h index descriptor used available ↔ ¬Torn d h index descriptor used available :=
  ⟨fun hkept ht => not_addrKept_of_torn ht hkept, addrKept_of_not_torn⟩

end Addr

end VhostUserHandler

/-- Two regions of guest memory, the second at an odd guest address. -/
def oddMemory : List RingEvent :=
  [.request (fun _ _ _ => .ok 0x7f00) (.addMemRegion plainRegion 5),
    .request (fun _ _ _ => .ok 0x9f00) (.addMemRegion ⟨0, 0x2001, 0x1000, 0x9000, 0⟩ 6)]

/-- The descriptor table is stored, then the available ring is refused: an aligned address of the
frontend, an odd one of the guest. -/
theorem setVringAddr_torn_odd :
    VhostUserMsgValidator.isValid (⟨0, 0, 0x7010, 0x7100, 0x9000, 0⟩ : VhostUserVringAddr) = true ∧
      ¬VhostUserHandler.AddrKept (plainDeps true)
        (run (VhostUserHandler.ringEvent (plainDeps true)) plainHandler oddMemory) 0 0x7010 0x7100 0x9000 := by
  refine ⟨by decide, VhostUserHandler.not_addrKept_of_torn ⟨_, 0x1010, 0x2001, 0x1100, rfl, ?_, by decide, .inl ?_⟩⟩
  · exact ⟨by decide, by decide, by decide⟩
  · exact ⟨by decide, by decide⟩

end VhostUser
