import VhostUser.Routing
/-!
# Queue indices beyond a mask

A ring index is a `usize` in the rings' list, a `u32` on the wire, a `u8` in
`update_vring_registration` (`handler.rs:219`) and a shift amount in `queues_mask >> index` (`:136`,
`:223`). Nothing relates the number of queues, which a device reports freely, to the width of the
masks.

| here | there |
| --- | --- |
| `shr?`           | `queues_mask >> index` with the overflow check of a debug build |
| `threadVrings?`, `newHandlers?` | the loops of `VhostUserHandler::new` (`:133-148`) with this shift |
| `findWorker?`    | the loop of `update_vring_registration` (`:222-245`) with this shift |
| `IndicesKept`    | no shift overflows, no cast changes an index, rings in no mask stay unregistered |

* `mem_threadVrings` — without the check the bit of ring `i` is that of ring `i % 64`;
* `indices_kept_iff` — indices are kept by devices of up to 64 rings, and by devices without workers
  of up to 256.
-/
namespace VhostUser
open Trace

namespace VhostUserHandler
variable {B M : Type} {d : Deps B M} {h : VhostUserHandler B M} {masks : List UInt64} {index : UInt8}

/-! ## Shifts with their overflow check -/

/-- `none` for a shift by the width or more. -/
def shr? (x : UInt64) (i : Nat) : Option UInt64 := if i < 64 then some (x >>> UInt64.ofNat i) else none

def threadVrings? (queuesMask : UInt64) : Nat → Option (List Nat)
  | 0 => some []
  | index + 1 =>
    match threadVrings? queuesMask index, shr? queuesMask index with
    | some rings, some shifted => some (if shifted &&& 1 == 1 then rings ++ [index] else rings)
    | _, _ => none

def newHandlers? (d : Deps B M) (backend : B) (numQueues : Nat) : Nat → List UInt64 → Option (List VringEpollHandler)
  | _, [] => some []
  | threadId, mask :: masks =>
    match threadVrings? mask numQueues, newHandlers? d backend numQueues (threadId + 1) masks with
    | some rings, some ws => some (.new numQueues (d.backend.exitEvent threadId backend) rings threadId :: ws)
    | _, _ => none

def findWorker? (index : UInt8) : Nat → List UInt64 → Option (Option (Nat × UInt64))
  | _, [] => some none
  | threadIndex, queuesMask :: masks =>
    match shr? queuesMask index.toNat with
    | none => none
    | some shifted =>
      if shifted &&& 1 == 1 then
        some (some (threadIndex, UInt64.ofNat (countOnes queuesMask - countOnes shifted)))
      else findWorker? index (threadIndex + 1) masks

theorem threadVrings?_eq (mask : UInt64) (n : Nat) :
    threadVrings? mask n = if n ≤ 64 then some (threadVrings mask n) else none := by
  induction n with
  | zero => rfl
  | succ n ih =>
    rw [threadVrings?, ih, shr?]
    by_cases hn : n < 64
    · rw [if_pos (by omega), if_pos hn, if_pos (by omega)]
      simp only [threadVrings, List.range_succ, List.filter_append, List.filter_cons, List.filter_nil]
      split
      · rfl
      · rw [List.append_nil]
    · rw [if_neg hn, if_neg (show ¬ n + 1 ≤ 64 by omega)]
      cases (if n ≤ 64 then some (threadVrings mask n) else none) <;> rfl

theorem newHandlers?_eq (d : Deps B M) (b : B) (numQueues : Nat) (masks : List UInt64) :
    newHandlers? d b numQueues 0 masks =
      if masks = [] ∨ numQueues ≤ 64 then some (newHandlers d b numQueues masks) else none := by
  unfold newHandlers
  generalize 0 = k
  induction masks generalizing k with
  | nil => rfl
  | cons mask masks ih =>
    rw [newHandlers?, threadVrings?_eq, ih]
    by_cases hn : numQueues ≤ 64
    · simp [hn]
    · simp [hn]

theorem findWorker?_eq (index : UInt8) (k : Nat) (masks : List UInt64) :
    findWorker? index k masks =
      if masks = [] ∨ index.toNat < 64 then some (findWorker index k masks) else none := by
  induction masks generalizing k with
  | nil => rfl
  | cons mask masks ih =>
    rw [findWorker?, shr?, findWorker]
    by_cases hi : index.toNat < 64
    · have hcast : UInt64.ofNat index.toNat = index.toUInt64 := by
        apply UInt64.toNat_inj.1
        simp
      simp only [hi, or_true, if_true, hcast]
      split
      · rfl
      · rw [ih, if_pos (.inr hi)]
    · simp [hi]

/-! ## What the unchecked shifts do -/

/-- A shift goes by the lower six bits of its amount. -/
theorem shift_eq_of_mod (mask : UInt64) {k k' : UInt64} (hk : k.toNat % 64 = k'.toNat % 64) : mask >>> k = mask >>> k' := by
  apply UInt64.toNat_inj.1
  rw [UInt64.toNat_shiftRight, UInt64.toNat_shiftRight, hk]

/-- **The list of a worker** goes by the bit of `i % 64`. -/
theorem mem_threadVrings {mask : UInt64} {n i : Nat} :
    i ∈ threadVrings mask n ↔ i < n ∧ mask.toNat.testBit (i % 64) = true := by
  have hshift : mask >>> UInt64.ofNat i = mask >>> (UInt8.ofNat (i % 64)).toUInt64 := shift_eq_of_mod mask (by simp)
  rw [threadVrings, List.mem_filter, List.mem_range, hshift, shifted_bit mask (Nat.mod_lt i (by decide))]

/-- No mask contains ring `i`. -/
def Unmasked (masks : List UInt64) (i : Nat) : Prop := ∀ mask ∈ masks, mask.toNat.testBit i = false

instance (masks : List UInt64) (i : Nat) : Decidable (Unmasked masks i) :=
  List.decidableBAll _ masks

theorem Unmasked.not_mem {w : VringEpollHandler} {b : B} {numQueues i : Nat} (hu : Unmasked masks i)
    (hn : masks = [] ∨ numQueues ≤ 64) (hw : w ∈ newHandlers d b numQueues masks) : i ∉ w.vrings := by
  obtain ⟨⟨mask, threadId⟩, hmem, rfl⟩ := List.mem_map.1 hw
  have hmask : mask ∈ masks := List.fst_mem_of_mem_zipIdx hmem
  have hrings : (VringEpollHandler.new numQueues (d.backend.exitEvent threadId b)
      (threadVrings mask numQueues) threadId).vrings = threadVrings mask numQueues := by
    cases d.backend.exitEvent threadId b <;> rfl
  intro hi
  rw [hrings, mem_threadVrings] at hi
  rcases hn with rfl | hn
  · cases hmask
  · rw [Nat.mod_eq_of_lt (by omega), hu mask hmask] at hi
    cases hi.2

theorem Unmasked.findWorker {i : Nat} (hu : Unmasked masks i) (hi : masks = [] ∨ i < 64) (k : Nat) :
    VhostUserHandler.findWorker (UInt8.ofNat i) k masks = none := by
  rcases hi with rfl | hi
  · rfl
  · cases hf : VhostUserHandler.findWorker (UInt8.ofNat i) k masks with
    | none => rfl
    | some te =>
      obtain ⟨mask, hmask, -, hb, -⟩ := findWorker_spec hi hf
      rw [hu mask (List.mem_of_getElem? hmask)] at hb
      cases hb

/-! ## Steps of the requests -/

theorem length_vrings_exec (m : Micro) : (h.exec d m).2.vrings.length = h.vrings.length := by
  cases m with
  | updateVringRegistration i index =>
    obtain ⟨hs, hu, -⟩ := updateVringRegistration_frame h i index
    rw [exec_updateVringRegistration, hu]
  | _ => simp [exec, modVring, resetOwner]

/-- A step registers a descriptor only for a ring that has it, and that some mask contains. -/
theorem reg_exec {m : Micro} {n t : Nat} {fd : File}
    (hm : m.Refreshes fun i index => index = UInt8.ofNat i ∧ i < n)
    (hn : h.queuesPerThread = [] ∨ n ≤ 64) (hr : (h.exec d m).2.Reg t fd) :
    h.Reg t fd ∨ ∃ i, h.Kick i fd ∧ ¬ Unmasked h.queuesPerThread i := by
  obtain ⟨w, hw, e, hmem⟩ := hr
  rcases entry_exec ⟨w, hw, hmem⟩ with ⟨w', hw', hmem'⟩ | ⟨i, index, rfl, hk, hf⟩
  · exact .inl ⟨w', hw', e, hmem'⟩
  · obtain ⟨rfl, hi⟩ := hm
    refine .inr ⟨i, hk, fun hu => ?_⟩
    rw [hu.findWorker (hn.imp id fun hn => by omega)] at hf
    cases hf

end VhostUserHandler

namespace Sys
variable {B M : Type} {d : Deps B M} {nonblock : File → Bool} {h : VhostUserHandler B M} {s : Sys B M}

/-- The next refresh of a registration shifts by less than 64, by the index of its ring. -/
def OwnShifts (s : Sys B M) : Prop :=
  ∀ i index, Micro.updateVringRegistration i index ∈ s.todo → index.toNat = i ∧
    VhostUserHandler.findWorker? index 0 s.handler.queuesPerThread =
      some (VhostUserHandler.findWorker index 0 s.handler.queuesPerThread)

/-- The descriptors a ring was given are registered nowhere. -/
def Nowhere (i : Nat) (s : Sys B M) : Prop := ∀ fd ∈ s.hist i, ∀ t, ¬ s.handler.Reg t fd

/-- Every kick descriptor is new to the process when it comes: no ring had it, no worker watches it. -/
def FreshFiles (s : Sys B M) : Action → Prop
  | .control => ∀ i f ms, s.todo = .setKick i (some f) :: ms → s.handler.FreshFile s.hist (some f)
  | _ => True

/-- Only the control thread's steps change the handler, and only a request gives it more to do. -/
theorem step_frame (d : Deps B M) (nonblock : File → Bool) (s : Sys B M) (a : Action) (ha : a ≠ .control) :
    (s.step d nonblock a).handler = s.handler ∧ (s.step d nonblock a).hist = s.hist ∧
      ((s.step d nonblock a).todo = s.todo ∨ ∃ r, (s.step d nonblock a).todo = s.handler.program d r) := by
  cases a with
  | request r =>
    rcases request_cases d s r with heq | ⟨-, heq⟩
    · rw [step, heq]
      exact ⟨rfl, rfl, .inl rfl⟩
    · rw [step, heq]
      exact ⟨rfl, rfl, .inr ⟨r, rfl⟩⟩
  | control => exact absurd rfl ha
  | kick fd => exact ⟨rfl, rfl, .inl rfl⟩
  | wait t events =>
    rcases wait_cases s t events with heq | ⟨-, -, heq⟩
    · rw [step, heq]
      exact ⟨rfl, rfl, .inl rfl⟩
    · rw [step, heq]
      exact ⟨rfl, rfl, .inl rfl⟩
  | handleEvent t =>
    have hcase := handled nonblock s t
    rw [step]
    generalize s.handleEvent nonblock t = s' at hcase
    cases hcase with
    | unchanged => exact ⟨rfl, rfl, .inl rfl⟩
    | stop _ => exact ⟨rfl, rfl, .inl rfl⟩
    | listener _ _ => exact ⟨rfl, rfl, .inl rfl⟩
    | read _ _ _ _ _ => exact ⟨rfl, rfl, .inl rfl⟩
  | dispatch t ok =>
    rcases dispatch_cases s t ok with heq | ⟨_, _, _, _, -, -, heq⟩
    · rw [step, heq]
      exact ⟨rfl, rfl, .inl rfl⟩
    · rw [step, heq]
      exact ⟨rfl, rfl, .inl rfl⟩

/-- What holds in every state a handler reaches. -/
structure KeptInv (h : VhostUserHandler B M) (s : Sys B M) : Prop where
  masks : s.handler.queuesPerThread = h.queuesPerThread
  rings : s.handler.vrings.length = h.numQueues
  todo : ∀ m ∈ s.todo, m.Refreshes fun i index => index = UInt8.ofNat i ∧ i < h.numQueues

theorem keptInv_init {b : B} {mem : M} {heap : LogHeap} {n : Nat}
    (hnew : VhostUserHandler.new d b mem heap n = some h) : KeptInv h (init h) where
  masks := rfl
  rings := by
    have hlen := VhostUserHandler.length_new hnew
    obtain ⟨vrings, -, rfl⟩ := VhostUserHandler.new_eq hnew
    exact hlen
  todo m hm := by cases hm

theorem keptInv_step (hi : KeptInv h s) (a : Action) : KeptInv h (s.step d nonblock a) := by
  by_cases ha : a = .control
  · subst ha
    rcases control_cases d s with heq | ⟨m, ms, -, hh, -⟩
    · rw [step, heq]
      exact hi
    · refine ⟨?_, ?_, VhostUserHandler.refreshes_control hi.todo⟩
      · rw [step, hh, (VhostUserHandler.fixed_exec m).2.1, hi.masks]
      · rw [step, hh, VhostUserHandler.length_vrings_exec, hi.rings]
  · obtain ⟨hh, -, htodo⟩ := step_frame d nonblock s a ha
    refine ⟨by rw [hh, hi.masks], by rw [hh, hi.rings], ?_⟩
    rcases htodo with htodo | ⟨r, htodo⟩
    · rw [htodo]
      exact hi.todo
    · rw [htodo]
      exact VhostUserHandler.refreshes_program d s.handler r fun i hlt => ⟨rfl, hi.rings ▸ hlt⟩

theorem KeptInv.ownShifts (hi : KeptInv h s)
    (hn : h.numQueues ≤ 64 ∨ h.queuesPerThread = [] ∧ h.numQueues ≤ 256) : s.OwnShifts := by
  intro i index hmem
  obtain ⟨rfl, hlt⟩ := hi.todo _ hmem
  have hnum : (UInt8.ofNat i).toNat = i := by
    simp
    omega
  refine ⟨hnum, ?_⟩
  rw [VhostUserHandler.findWorker?_eq, hi.masks, hnum, if_pos (hn.elim (fun hn => .inr (by omega)) fun hn => .inl hn.1)]

/-- The rings' descriptors, and that those of rings in no mask are registered nowhere. -/
structure ApartInv (h : VhostUserHandler B M) (s : Sys B M) : Prop where
  kept : KeptInv h s
  disjoint : ∀ {i j fd}, fd ∈ s.hist i → fd ∈ s.hist j → i = j
  kick_mem : ∀ {i fd}, s.handler.Kick i fd → fd ∈ s.hist i
  nowhere : ∀ {i}, VhostUserHandler.Unmasked h.queuesPerThread i → s.Nowhere i

theorem apartInv_control (hn : h.queuesPerThread = [] ∨ h.numQueues ≤ 64) (hi : ApartInv h s)
    (hf : FreshFiles s .control) : ApartInv h (s.control d) := by
  have hkept : KeptInv h (s.step d (fun _ => true) .control) := keptInv_step hi.kept .control
  rcases control_cases d s with heq | ⟨m, ms, htodo, hh, -, -, -, -, -, hhist⟩
  · rw [heq]
    exact hi
  · -- A descriptor of a ring's history was there before, or is the one just given.
    have hnew : ∀ {i fd}, fd ∈ (s.control d).hist i → fd ∈ s.hist i ∨ m = .setKick i (some fd) :=
      fun hmem => by
        rw [hhist] at hmem
        cases m with
        | setKick j file =>
          exact (VhostUserHandler.mem_record hmem).imp id fun ⟨hj, hfile⟩ => by rw [hj, hfile]
        | _ => exact .inl hmem
    have hfresh : ∀ {i fd}, m = .setKick i (some fd) → s.handler.FreshFile s.hist (some fd) := fun hm =>
      hf _ _ ms (by rw [htodo, hm])
    refine ⟨hkept, ?_, kick_mem_control hi.kick_mem, ?_⟩
    · intro i j fd hmi hmj
      rcases hnew hmi with hmi | hm
      · rcases hnew hmj with hmj | hm
        · exact hi.disjoint hmi hmj
        · exact absurd hmi ((hfresh hm fd rfl).1 i)
      · rcases hnew hmj with hmj | hm'
        · exact absurd hmj ((hfresh hm fd rfl).1 j)
        · rw [hm] at hm'
          cases hm'
          rfl
    · intro i hu fd hmem t hreg
      rw [hh] at hreg
      rcases hnew hmem with hmem | rfl
      · have hm := hi.kept.todo m (by rw [htodo]; simp)
        rcases VhostUserHandler.reg_exec hm (hi.kept.masks.symm ▸ hn) hreg with hreg | ⟨j, hk, hmasked⟩
        · exact hi.nowhere hu fd hmem t hreg
        · rw [hi.kept.masks, ← hi.disjoint hmem (hi.kick_mem hk)] at hmasked
          exact hmasked hu
      · exact (hfresh rfl fd rfl).2 t hreg

theorem apartInv_step (hn : h.queuesPerThread = [] ∨ h.numQueues ≤ 64) (hi : ApartInv h s) {a : Action}
    (hf : FreshFiles s a) : ApartInv h (s.step d nonblock a) := by
  by_cases ha : a = .control
  · subst ha
    exact apartInv_control hn hi hf
  · obtain ⟨hh, hhist, -⟩ := step_frame d nonblock s a ha
    refine ⟨keptInv_step hi.kept a, ?_, ?_, ?_⟩
    · rw [hhist]
      exact hi.disjoint
    · rw [hh, hhist]
      exact hi.kick_mem
    · intro i hu
      rw [Nowhere, hh, hhist]
      exact hi.nowhere hu

end Sys

/-- Queue indices are kept by the device of `h`: no shift of `new` and of the requests is by 64 or
more, no cast to `u8` changes an index, and a ring that no mask contains is in no worker's list and,
whatever descriptors it is given, registered nowhere. -/
structure IndicesKept {B M : Type} (d : Deps B M) (h : VhostUserHandler B M) : Prop where
  lists : VhostUserHandler.newHandlers? d h.backend h.numQueues 0 h.queuesPerThread = some h.handlers
  requests : ∀ nonblock as, Visits (Sys.step d nonblock) Sys.OwnShifts (Sys.init h) as
  unlisted : ∀ i, VhostUserHandler.Unmasked h.queuesPerThread i → ∀ w ∈ h.handlers, i ∉ w.vrings
  unregistered : ∀ i, VhostUserHandler.Unmasked h.queuesPerThread i → ∀ nonblock as,
    Along (Sys.step d nonblock) Sys.FreshFiles (Sys.init h) as →
      Visits (Sys.step d nonblock) (Sys.Nowhere i) (Sys.init h) as

section Kept
variable {B M : Type} {d : Deps B M} {b : B} {mem : M} {heap : LogHeap} {n : Nat} {h : VhostUserHandler B M}

theorem handlers_new (hnew : VhostUserHandler.new d b mem heap n = some h) :
    h.handlers = VhostUserHandler.newHandlers d h.backend h.numQueues h.queuesPerThread := by
  obtain ⟨vrings, -, rfl⟩ := VhostUserHandler.new_eq hnew
  rfl

theorem indicesKept_of_small (hnew : VhostUserHandler.new d b mem heap n = some h)
    (hn : h.numQueues ≤ 64 ∨ h.queuesPerThread = [] ∧ h.numQueues ≤ 256) : IndicesKept d h := by
  have hnarrow : h.queuesPerThread = [] ∨ h.numQueues ≤ 64 := hn.elim .inr fun hn => .inl hn.1
  have hkept : Sys.KeptInv h (Sys.init h) := Sys.keptInv_init hnew
  refine ⟨?_, ?_, ?_, ?_⟩
  · rw [VhostUserHandler.newHandlers?_eq, if_pos hnarrow, handlers_new hnew]
  · intro nonblock as
    have htrue : Along (Sys.step d nonblock) (fun _ _ => True) (Sys.init h) as := along_iff_forall.2 fun _ _ => trivial
    have hvisits : Visits (Sys.step d nonblock) (Sys.KeptInv h) (Sys.init h) as :=
      visits_of_along (fun s a hi _ => Sys.keptInv_step hi a) as _ hkept htrue
    exact hvisits.mono fun s hi => hi.ownShifts hn
  · intro i hu w hw
    rw [handlers_new hnew] at hw
    exact hu.not_mem hnarrow hw
  · intro i hu nonblock as hfresh
    have hk := VhostUserHandler.known_new hnew
    have hapart : Sys.ApartInv h (Sys.init h) := by
      refine ⟨hkept, ?_, hk.kick_mem, ?_⟩ <;> simp [Sys.init, Sys.Nowhere]
    have hvisits : Visits (Sys.step d nonblock) (Sys.ApartInv h) (Sys.init h) as :=
      visits_of_along (fun s a hi hf => Sys.apartInv_step hnarrow hi hf) as _ hapart hfresh
    exact hvisits.mono fun s hi => hi.nowhere hu

/-- `GET_VRING_BASE` of ring 256, which is accepted, refreshes the registration of ring 0. -/
theorem getVringBase_narrowed (hrings : 256 < h.vrings.length) :
    Micro.updateVringRegistration 256 0 ∈ ((Sys.init h).request d (.getVringBase 256)).todo := by
  have hidx : (256 : UInt32).toNat < h.vrings.length := hrings
  have hnone : (Sys.init h).todo = [] := rfl
  rw [Sys.request, if_pos hnone, VhostUserHandler.program]
  change _ ∈ if (256 : UInt32).toNat < h.vrings.length then _ else _
  rw [if_pos hidx]
  exact List.mem_cons_of_mem _ (List.mem_cons_self ..)

end Kept

/-- **Queue indices are kept exactly** by devices of at most 64 rings, and by devices without workers
of at most 256. -/
theorem indices_kept_iff {B M : Type} {d : Deps B M} {b : B} {mem : M} {heap : LogHeap} {n : Nat}
    {h : VhostUserHandler B M} (hnew : VhostUserHandler.new d b mem heap n = some h) :
    IndicesKept d h ↔ h.numQueues ≤ 64 ∨ h.queuesPerThread = [] ∧ h.numQueues ≤ 256 := by
  refine ⟨fun hkept => ?_, indicesKept_of_small hnew⟩
  have hlists := hkept.lists
  rw [VhostUserHandler.newHandlers?_eq] at hlists
  split at hlists
  · rename_i hnarrow
    refine hnarrow.elim (fun hempty => ?_) .inl
    by_contra hno
    have hrings : 256 < h.vrings.length := by
      have hlen : h.vrings.length = h.numQueues := (Sys.keptInv_init hnew).rings
      have hbig : ¬ h.numQueues ≤ 256 := fun hle => hno (.inr ⟨hempty, hle⟩)
      omega
    have hnext := (hkept.requests (fun _ => true) [.request (.getVringBase 256)]).2 256 0
      (getVringBase_narrowed hrings)
    exact absurd hnext.1 (by decide)
  · cases hlists

/-- The three rings and two masks from above. -/
theorem masked_indices_kept : IndicesKept maskedDeps maskedHandler :=
  (indices_kept_iff new_maskedHandler).2 (.inl (by decide))

/-! Sixty-five rings, and a worker for ring 0 alone. -/

def wideDeps : Deps Unit (List GuestRegionMmap) :=
  { plainDeps true with
    backend := { plainBackend true with
      numQueues := fun _ => 65
      queuesPerThread := fun _ => [0x1] } }

def wideHandler : VhostUserHandler Unit (List GuestRegionMmap) :=
  { plainHandler with
    handlers := [.new 65 none [0, 64] 0]
    numQueues := 65
    queuesPerThread := [0x1]
    vrings := List.replicate 65 ⟨⟨256, 256, false, 0, 0, false, 0, 0, 0⟩, none, none, none, false⟩ }

theorem new_wideHandler :
    VhostUserHandler.new wideDeps () [] ⟨fun _ => none, fun _ => []⟩ 0 = some wideHandler := by
  have hring : VringState.new 256 = some ⟨⟨256, 256, false, 0, 0, false, 0, 0, 0⟩, none, none, none, false⟩ := by
    decide
  have hworkers : VhostUserHandler.newHandlers wideDeps () 65 [0x1] = [.new 65 none [0, 64] 0] := by decide +kernel
  rw [VhostUserHandler.new_of_ring (d := wideDeps) hring]
  exact congrArg (fun ws => some { wideHandler with handlers := ws }) hworkers

/-- Ring 64 is in no mask, yet in the worker's list (the shift by 64 overflows), and after
`SET_FEATURES` and `SET_VRING_KICK` its descriptor is registered as ring 0. -/
theorem ring_64_taken_for_ring_0 :
    ¬ IndicesKept wideDeps wideHandler ∧ VhostUserHandler.Unmasked wideHandler.queuesPerThread 64 ∧
      VhostUserHandler.shr? 0x1 64 = none ∧ wideHandler.handlers.map (·.vrings) = [[0, 64]] ∧
      ((wideHandler.after wideDeps (.setFeatures 0)).after wideDeps
        (.setVringKick 64 (some 5))).handlers.map (·.epoll) = [[(5, 0)]] := by
  refine ⟨fun hkept => ?_, by decide, by decide, by decide, by decide +kernel⟩
  have hlists := hkept.lists
  rw [VhostUserHandler.newHandlers?_eq, if_neg (by decide)] at hlists
  cases hlists

end VhostUser
