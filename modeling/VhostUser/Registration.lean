import VhostUser.Memory
/-!
# Kick descriptors in the epoll sets of the workers

A worker waits on the kick descriptors registered in its epoll set. Registration follows three
fields of a ring: the descriptor (`kick`), `ready` and `enabled`. The requests that change one of
them call `update_vring_registration` (`handler.rs:213-247`), except `set_vring_kick` on a ring that
is ready (`:472-487`): it swaps the descriptor and leaves the epoll sets alone.

| here | there |
| --- | --- |
| `Reg`         | a descriptor is registered in a worker's epoll set |
| `RegUpdate`   | what `update_vring_registration` does, said once |
| `RingRequest` | the requests that touch a ring's `kick`, `ready` or `enabled`, and `reset_owner` |
| `RegState`    | the handler with a ghost: every descriptor that was ever a ring's kick descriptor |

A descriptor is an open file: one received later is never one received before, and closing our
copy leaves its registration, the frontend still holding the same file.
-/
namespace VhostUser
open Trace

namespace VringEpollHandler
variable {w : VringEpollHandler} {fd : File}

theorem registerEvent_cases (w : VringEpollHandler) (fd : File) (data : UInt64) :
    (w.epoll.Has fd ∧ w.registerEvent fd data = .error ⟨.alreadyExists, some 17⟩) ∨
      (¬ w.epoll.Has fd ∧ ∃ w', w.registerEvent fd data = .ok w' ∧
        ∀ x, w'.epoll.Has x ↔ w.epoll.Has x ∨ x = fd) := by
  by_cases hh : w.epoll.Has fd
  · exact .inl ⟨hh, by simp [registerEvent, Epoll.add, hh]⟩
  · exact .inr ⟨hh, { w with epoll := w.epoll ++ [(fd, data)] }, by simp [registerEvent, Epoll.add, hh],
      fun x => Epoll.has_append⟩

theorem unregisterEvent_cases (w : VringEpollHandler) (fd : File) :
    (¬ w.epoll.Has fd ∧ ∃ e, w.unregisterEvent fd = .error e) ∨
      (w.epoll.Has fd ∧ ∃ w', w.unregisterEvent fd = .ok w' ∧
        ∀ x, w'.epoll.Has x ↔ w.epoll.Has x ∧ x ≠ fd) := by
  by_cases hh : w.epoll.Has fd
  · exact .inr ⟨hh, { w with epoll := w.epoll.filter fun p => p.1 ≠ fd },
      by simp [unregisterEvent, Epoll.delete, hh], fun x => Epoll.has_filter⟩
  · exact .inl ⟨hh, ⟨.notFound, some 2⟩, by simp [unregisterEvent, Epoll.delete, hh]⟩

end VringEpollHandler

namespace VhostUserHandler
variable {B M : Type} {d : Deps B M} {h h' : VhostUserHandler B M}

/-! ## The epoll sets -/

def Reg (h : VhostUserHandler B M) (t : Nat) (fd : File) : Prop :=
  ∃ w, h.handlers[t]? = some w ∧ w.epoll.Has fd

/-- The worker that `update_vring_registration` picks. -/
def Worker (h : VhostUserHandler B M) (index : UInt8) (t : Nat) : Prop :=
  ∃ e, findWorker index 0 h.queuesPerThread = some (t, e)

def Kick (h : VhostUserHandler B M) (i : Nat) (fd : File) : Prop :=
  ∃ v, h.vrings[i]? = some v ∧ v.kick = some fd

/-- Started and enabled. -/
def Runs (h : VhostUserHandler B M) (i : Nat) : Prop :=
  ∃ v, h.vrings[i]? = some v ∧ v.queue.ready = true ∧ v.enabled = true

instance (h : VhostUserHandler B M) (t : Nat) (fd : File) : Decidable (h.Reg t fd) :=
  decidable_of_iff (∃ w ∈ h.handlers[t]?, w.epoll.Has fd) Iff.rfl

instance (h : VhostUserHandler B M) (i : Nat) (fd : File) : Decidable (h.Kick i fd) :=
  decidable_of_iff (∃ v ∈ h.vrings[i]?, v.kick = some fd) Iff.rfl

instance (h : VhostUserHandler B M) (i : Nat) : Decidable (h.Runs i) :=
  decidable_of_iff (∃ v ∈ h.vrings[i]?, v.queue.ready = true ∧ v.enabled = true) Iff.rfl

/-- Only the epoll sets change, and in them only the ring's own descriptor at its worker. -/
structure RegUpdate (h : VhostUserHandler B M) (i : Nat) (index : UInt8) (h' : VhostUserHandler B M) :
    Prop where
  rest : ∃ hs, h' = { h with handlers := hs } ∧ hs.length = h.handlers.length
  own : ∀ {t fd}, h.Kick i fd → h.Worker index t → (h'.Reg t fd ↔ h.Runs i)
  others : ∀ {t fd}, ¬ (h.Kick i fd ∧ h.Worker index t) → (h'.Reg t fd ↔ h.Reg t fd)

theorem RegUpdate.masks {i : Nat} {index : UInt8} (hu : RegUpdate h i index h') :
    h'.queuesPerThread = h.queuesPerThread := by
  obtain ⟨hs, rfl, -⟩ := hu.rest
  rfl

theorem findWorker_lt {masks : List UInt64} {index : UInt8} {k t : Nat} {e : UInt64}
    (hf : findWorker index k masks = some (t, e)) : t < k + masks.length := by
  induction masks generalizing k with
  | nil => cases hf
  | cons mask masks ih =>
    rw [findWorker] at hf
    rw [List.length_cons]
    split at hf
    · cases hf
      omega
    · have := ih hf
      omega

/-- Either nothing changes, or one worker registers or forgets the descriptor of the ring. -/
theorem updateVringRegistration_cases (h : VhostUserHandler B M) (i : Nat) (index : UInt8) :
    h.updateVringRegistration i index = (.ok (), h) ∨
      ∃ fd t e w w', h.Kick i fd ∧ findWorker index 0 h.queuesPerThread = some (t, e) ∧
        h.handlers[t]? = some w ∧ (w.registerEvent fd e = .ok w' ∨ w.unregisterEvent fd = .ok w') ∧
        h.updateVringRegistration i index = (.ok (), { h with handlers := h.handlers.set t w' }) := by
  simp only [updateVringRegistration]
  cases hv : h.vrings[i]? with
  | none => exact .inl rfl
  | some v =>
    cases hk : v.kick with
    | none => exact .inl (by simp only [hk])
    | some fd =>
      cases hf : findWorker index 0 h.queuesPerThread with
      | none => exact .inl (by simp only [hk])
      | some te =>
        obtain ⟨t, e⟩ := te
        cases hw : h.handlers[t]? with
        | none => exact .inl (by simp only [hk, hw])
        | some w =>
          simp only [hk, hw]
          split
          · rcases w.registerEvent_cases fd e with ⟨-, hreg⟩ | ⟨-, w', hreg, -⟩
            · exact .inl (by simp [hreg])
            · exact .inr ⟨fd, t, e, w, w', ⟨v, hv, hk⟩, rfl, hw, .inl hreg, by rw [hreg]⟩
          · rcases w.unregisterEvent_cases fd with ⟨-, e', hreg⟩ | ⟨-, w', hreg, -⟩
            · exact .inl (by rw [hreg])
            · exact .inr ⟨fd, t, e, w, w', ⟨v, hv, hk⟩, rfl, hw, .inr hreg, by rw [hreg]⟩

theorem reg_set {t t' : Nat} {w : VringEpollHandler} {fd : File} (ht : t < h.handlers.length) :
    Reg { h with handlers := h.handlers.set t w } t' fd ↔
      if t = t' then w.epoll.Has fd else h.Reg t' fd := by
  unfold Reg
  by_cases htt : t = t'
  · subst htt
    simp [List.getElem?_set_self ht]
  · simp [List.getElem?_set_ne htt, htt]

theorem regUpdate_refl {i : Nat} {index : UInt8}
    (hown : ∀ {t fd}, h.Kick i fd → h.Worker index t → (h.Reg t fd ↔ h.Runs i)) :
    RegUpdate h i index h where
  rest := ⟨h.handlers, rfl, rfl⟩
  own := hown
  others _ := Iff.rfl

section Update
variable {i t : Nat} {index : UInt8} {v : VringState} {fd : File} {e : UInt64}

theorem kick_iff (hv : h.vrings[i]? = some v) (hk : v.kick = some fd) {fd' : File} :
    h.Kick i fd' ↔ fd' = fd := by
  simp [Kick, hv, hk, eq_comm]

theorem worker_iff (hf : findWorker index 0 h.queuesPerThread = some (t, e)) {t' : Nat} :
    h.Worker index t' ↔ t' = t := by
  simp [Worker, hf, eq_comm]

theorem runs_iff (hv : h.vrings[i]? = some v) : h.Runs i ↔ (v.queue.ready && v.enabled) = true := by
  simp [Runs, hv]

/-- A worker that ends up with `fd` registered exactly when the ring runs. -/
theorem regUpdate_set {w w' : VringEpollHandler} (hv : h.vrings[i]? = some v) (hk : v.kick = some fd)
    (hf : findWorker index 0 h.queuesPerThread = some (t, e)) (hw : h.handlers[t]? = some w)
    (hown : w'.epoll.Has fd ↔ h.Runs i) (hrest : ∀ x, x ≠ fd → (w'.epoll.Has x ↔ w.epoll.Has x)) :
    RegUpdate h i index { h with handlers := h.handlers.set t w' } where
  rest := ⟨_, rfl, List.length_set⟩
  own hkick hworker := by
    obtain rfl := (kick_iff hv hk).1 hkick
    obtain rfl := (worker_iff hf).1 hworker
    rw [reg_set (List.getElem?_eq_some_iff.1 hw).1, if_pos rfl, hown]
  others {t' fd'} hno := by
    rw [kick_iff hv hk, worker_iff hf] at hno
    rw [reg_set (List.getElem?_eq_some_iff.1 hw).1]
    split
    · rename_i htt
      subst htt
      rw [hrest fd' fun hfd => hno ⟨hfd, rfl⟩]
      simp [Reg, hw]
    · rfl

/-- **What `update_vring_registration` does**; it never fails. -/
theorem updateVringRegistration_spec (hlen : h.handlers.length = h.queuesPerThread.length) (i : Nat)
    (index : UInt8) : ∃ h', h.updateVringRegistration i index = (.ok (), h') ∧ RegUpdate h i index h' := by
  simp only [updateVringRegistration]
  cases hv : h.vrings[i]? with
  | none =>
    exact ⟨h, rfl, regUpdate_refl fun ⟨v, hv', _⟩ _ => by rw [hv] at hv'; cases hv'⟩
  | some v =>
    cases hk : v.kick with
    | none => exact ⟨h, by simp only [hk], regUpdate_refl fun ⟨v', hv', hk'⟩ _ => by simp_all⟩
    | some fd =>
      cases hf : findWorker index 0 h.queuesPerThread with
      | none => exact ⟨h, by simp only [hk], regUpdate_refl fun _ ⟨e, he⟩ => by rw [hf] at he; cases he⟩
      | some te =>
        obtain ⟨t, e⟩ := te
        have ht : t < h.handlers.length := by
          have := findWorker_lt hf
          omega
        obtain ⟨w, hw⟩ : ∃ w, h.handlers[t]? = some w := ⟨_, List.getElem?_eq_getElem ht⟩
        -- A registration that is left alone is already as it should be.
        have hkeep : (w.epoll.Has fd ↔ h.Runs i) → RegUpdate h i index h := fun hown =>
          regUpdate_refl fun hkick hworker => by
            obtain rfl := (kick_iff hv hk).1 hkick
            obtain rfl := (worker_iff hf).1 hworker
            rw [← hown]
            simp [Reg, hw]
        simp only [hk, hw]
        by_cases hrun : (v.queue.ready && v.enabled) = true
        · have hr : h.Runs i := (runs_iff hv).2 hrun
          simp only [hrun, if_true]
          rcases w.registerEvent_cases fd e with ⟨hhas, hreg⟩ | ⟨hhas, w', hreg, hw'⟩
          · exact ⟨h, by simp [hreg], hkeep (iff_of_true hhas hr)⟩
          · refine ⟨_, by rw [hreg], regUpdate_set hv hk hf hw (by simp [hw', hr]) fun x hx => ?_⟩
            simp [hw', hx]
        · have hr : ¬ h.Runs i := fun hr => hrun ((runs_iff hv).1 hr)
          simp only [hrun, if_false, Bool.false_eq_true]
          rcases w.unregisterEvent_cases fd with ⟨hhas, e', hreg⟩ | ⟨hhas, w', hreg, hw'⟩
          · exact ⟨h, by rw [hreg], hkeep (iff_of_false hhas hr)⟩
          · refine ⟨_, by rw [hreg], regUpdate_set hv hk hf hw (by simp [hw', hr]) fun x hx => ?_⟩
            simp [hw', hx]

end Update

/-! ## Descriptors of a ring, past and present -/

/-- What holds of the ghost history at all times. -/
structure Known (h : VhostUserHandler B M) (hist : Nat → List File) : Prop where
  len : h.handlers.length = h.queuesPerThread.length
  disjoint : ∀ {i j fd}, fd ∈ hist i → fd ∈ hist j → i = j
  kick_mem : ∀ {i fd}, h.Kick i fd → fd ∈ hist i
  reg_worker : ∀ {i t fd}, fd ∈ hist i → h.Reg t fd → h.Worker (UInt8.ofNat i) t

/-- The ring's descriptor is registered at its worker exactly when the ring runs, and no
descriptor it had before is registered anywhere. -/
structure Settled (h : VhostUserHandler B M) (hist : Nat → List File) (i : Nat) : Prop where
  current : ∀ {t fd}, h.Kick i fd → h.Worker (UInt8.ofNat i) t → (h.Reg t fd ↔ h.Runs i)
  former : ∀ {fd t}, fd ∈ hist i → ¬ h.Kick i fd → ¬ h.Reg t fd

/-- A change that keeps the history sound and settles no ring worse. -/
structure Moves (hist : Nat → List File) (h h' : VhostUserHandler B M) : Prop where
  known : Known h' hist
  masks : h'.queuesPerThread = h.queuesPerThread
  settled : ∀ {i}, Settled h hist i → Settled h' hist i

variable {hist : Nat → List File}

theorem Moves.trans {h₁ h₂ h₃ : VhostUserHandler B M} (m₁ : Moves hist h₁ h₂) (m₂ : Moves hist h₂ h₃) :
    Moves hist h₁ h₃ :=
  ⟨m₂.known, m₂.masks.trans m₁.masks, fun hs => m₂.settled (m₁.settled hs)⟩

/-- A change of other fields. -/
theorem moves_of_same (hk : Known h hist) (hh : h'.handlers = h.handlers)
    (hq : h'.queuesPerThread = h.queuesPerThread) (hkick : ∀ i fd, h'.Kick i fd ↔ h.Kick i fd)
    (hruns : ∀ i, h'.Runs i ↔ h.Runs i) : Moves hist h h' := by
  have hreg : ∀ t fd, h'.Reg t fd ↔ h.Reg t fd := fun t fd => by simp only [Reg, hh]
  have hwork : ∀ index t, h'.Worker index t ↔ h.Worker index t := fun index t => by simp only [Worker, hq]
  refine ⟨⟨by rw [hh, hq, hk.len], hk.disjoint, fun hkick' => hk.kick_mem ((hkick _ _).1 hkick'), ?_⟩, hq, ?_⟩
  · intro i t fd hmem hr
    rw [hwork]
    exact hk.reg_worker hmem ((hreg _ _).1 hr)
  · intro i hs
    refine ⟨fun {t fd} hk' hw' => ?_, fun {fd t} hmem hno => ?_⟩
    · rw [hreg, hruns]
      exact hs.current ((hkick _ _).1 hk') ((hwork _ _).1 hw')
    · rw [hreg]
      exact hs.former hmem fun hk' => hno ((hkick _ _).2 hk')

section Ring
variable {i : Nat} {f : VringState → VringState}

theorem vrings_modVring (h : VhostUserHandler B M) (i j : Nat) (f : VringState → VringState) :
    (h.modVring i f).vrings[j]? = if i = j then (h.vrings[j]?).map f else h.vrings[j]? := by
  simp only [modVring, List.getElem?_modify]
  split
  · rfl
  · simp

theorem kick_modVring (hf : ∀ v, (f v).kick = v.kick) (j : Nat) (fd : File) :
    (h.modVring i f).Kick j fd ↔ h.Kick j fd := by
  unfold Kick
  rw [vrings_modVring]
  split
  · cases h.vrings[j]? with
    | none => simp
    | some v => simp [hf]
  · rfl

theorem runs_modVring_of_ne {j : Nat} (hij : i ≠ j) : (h.modVring i f).Runs j ↔ h.Runs j := by
  unfold Runs
  rw [vrings_modVring, if_neg hij]

/-- **One locked change of a ring and the refresh of its registration.** The other rings are left
as they are; this one is settled when its former descriptors are. -/
theorem moves_touch (hk : Known h hist) (hf : ∀ v, (f v).kick = v.kick) :
    ∃ h', (h.modVring i f).updateVringRegistration i (UInt8.ofNat i) = (.ok (), h') ∧
      Known h' hist ∧ RegUpdate (h.modVring i f) i (UInt8.ofNat i) h' ∧
      (∀ {j}, Settled h hist j → Settled h' hist j) ∧
      ((∀ {fd t}, fd ∈ hist i → ¬ h.Kick i fd → ¬ h.Reg t fd) → Settled h' hist i) := by
  obtain ⟨h', hup, hupd⟩ := @updateVringRegistration_spec B M (h.modVring i f) hk.len i (UInt8.ofNat i)
  have hown : ∀ {t fd}, h.Kick i fd → h.Worker (UInt8.ofNat i) t → (h'.Reg t fd ↔ (h.modVring i f).Runs i) :=
    fun hkick hwork => hupd.own ((kick_modVring hf i _).2 hkick) hwork
  have hothers : ∀ {t fd}, ¬ (h.Kick i fd ∧ h.Worker (UInt8.ofNat i) t) → (h'.Reg t fd ↔ h.Reg t fd) :=
    fun hno => hupd.others fun hboth => hno ⟨(kick_modVring hf i _).1 hboth.1, hboth.2⟩
  obtain ⟨hs, rfl, hslen⟩ := hupd.rest
  have hkick : ∀ j fd, Kick { h.modVring i f with handlers := hs } j fd ↔ h.Kick j fd := fun j fd =>
    kick_modVring hf j fd
  have hformer : (∀ {fd t}, fd ∈ hist i → ¬ h.Kick i fd → ¬ h.Reg t fd) →
      Settled { h.modVring i f with handlers := hs } hist i := fun hform =>
    ⟨fun hk' hw' => hown ((hkick _ _).1 hk') hw', fun {fd t} hmem hno => by
      have hno' : ¬ h.Kick i fd := fun hk' => hno ((hkick _ _).2 hk')
      rw [hothers fun hboth => hno' hboth.1]
      exact hform hmem hno'⟩
  refine ⟨_, hup, ⟨hslen.trans hk.len, hk.disjoint, fun hk' => hk.kick_mem ((hkick _ _).1 hk'), ?_⟩, hupd,
    fun {j} hj => ?_, hformer⟩
  · intro j t fd hmem hr
    by_cases hboth : h.Kick i fd ∧ h.Worker (UInt8.ofNat i) t
    · obtain rfl := hk.disjoint hmem (hk.kick_mem hboth.1)
      exact hboth.2
    · exact hk.reg_worker hmem ((hothers hboth).1 hr)
  · by_cases hij : i = j
    · subst hij
      exact hformer hj.former
    · -- Descriptors of ring `j` are not ring `i`'s.
      have hsep : ∀ {fd t}, fd ∈ hist j → ¬ (h.Kick i fd ∧ h.Worker (UInt8.ofNat i) t) :=
        fun hmem hboth => hij (hk.disjoint (hk.kick_mem hboth.1) hmem)
      refine ⟨fun {t fd} hk' hw' => ?_, fun {fd t} hmem hno => ?_⟩
      · have hkj := (hkick _ _).1 hk'
        rw [hothers (hsep (hk.kick_mem hkj)), hj.current hkj hw']
        exact (runs_modVring_of_ne hij).symm
      · rw [hothers (hsep hmem)]
        exact hj.former hmem fun hk' => hno ((hkick _ _).2 hk')

/-- The descriptor of a settled ring that does not run is not registered anywhere. -/
theorem Settled.unregistered (hs : Settled h hist i) (hk : Known h hist) (hruns : ¬ h.Runs i)
    {fd : File} {t : Nat} (hmem : fd ∈ hist i) : ¬ h.Reg t fd := by
  intro hr
  by_cases hkick : h.Kick i fd
  · exact hruns ((hs.current hkick (hk.reg_worker hmem hr)).1 hr)
  · exact hs.former hmem hkick hr

end Ring

/-! ## Requests other than `set_vring_kick` -/

theorem moves_setEnabledAll (enabled : Bool) (is : List Nat) {h : VhostUserHandler B M} (hk : Known h hist) :
    ∃ h', setEnabledAll enabled is h = (.ok (), h') ∧ Moves hist h h' := by
  induction is generalizing h with
  | nil => exact ⟨h, rfl, hk, rfl, id⟩
  | cons i is ih =>
    obtain ⟨h₁, hup, hk₁, hupd, hset, -⟩ :=
      @moves_touch B M h hist i (fun v => v.setEnabled enabled) hk fun _ => rfl
    obtain ⟨h₂, hrest, hm⟩ := ih hk₁
    refine ⟨h₂, ?_, hm.known, hm.masks.trans hupd.masks, fun hs => hm.settled (hset hs)⟩
    rw [setEnabledAll, hup]
    exact hrest

theorem toUInt8_eq_ofNat (index : UInt32) : index.toUInt8 = UInt8.ofNat index.toNat := by
  apply UInt8.toNat_inj.1
  simp

theorem ofNat_toNat8 (index : UInt8) : UInt8.ofNat index.toNat = index := by
  apply UInt8.toNat_inj.1
  simp

theorem moves_setFeatures (hk : Known h hist) (features : UInt64) :
    Moves hist h (h.setFeatures d features).2 := by
  rw [setFeatures]
  split
  · exact ⟨hk, rfl, id⟩
  · have hack : Moves hist h { h with ackedFeatures := features, featuresAcked := true } :=
      moves_of_same hk rfl rfl (fun _ _ => Iff.rfl) fun _ => Iff.rfl
    have hen : ∃ h', enableUnlessProtocol features { h with ackedFeatures := features, featuresAcked := true } =
        (.ok (), h') ∧ Moves hist { h with ackedFeatures := features, featuresAcked := true } h' := by
      rw [enableUnlessProtocol]
      split
      · exact moves_setEnabledAll true _ hack.known
      · exact ⟨_, rfl, hack.known, rfl, id⟩
    obtain ⟨h', hen, hm⟩ := hen
    rw [hen]
    refine hack.trans (hm.trans (moves_of_same hm.known rfl rfl (fun i fd => ?_) fun i => ?_))
    · simp only [Kick, ackFeatures, List.getElem?_map]
      cases h'.vrings[i]? with
      | none => simp
      | some v => simp [VringState.setQueueEventIdx]
    · simp only [Runs, ackFeatures, List.getElem?_map]
      cases h'.vrings[i]? with
      | none => simp
      | some v => simp [VringState.setQueueEventIdx]

theorem moves_resetDevice (hk : Known h hist) : Moves hist h (h.resetDevice d).2 := by
  obtain ⟨h', hall, hm⟩ := moves_setEnabledAll false (List.range h.vrings.length) hk
  rw [resetDevice, hall]
  exact hm.trans (moves_of_same hm.known rfl rfl (fun _ _ => Iff.rfl) fun _ => Iff.rfl)

theorem moves_resetOwner (hk : Known h hist) : Moves hist h h.resetOwner.2 :=
  moves_of_same hk rfl rfl (fun _ _ => Iff.rfl) fun _ => Iff.rfl

theorem moves_setVringEnable (hk : Known h hist) (index : UInt32) (enable : Bool) :
    Moves hist h (h.setVringEnable index enable).2 := by
  rw [setVringEnable]
  split
  · exact ⟨hk, rfl, id⟩
  · rw [withVring]
    split
    · exact ⟨hk, rfl, id⟩
    · obtain ⟨h', hup, hk', hupd, hset, -⟩ :=
        @moves_touch B M h hist index.toNat (fun v => v.setEnabled enable) hk fun _ => rfl
      rw [toUInt8_eq_ofNat, hup]
      exact ⟨hk', hupd.masks, hset⟩

/-- Starting the ring if it has a descriptor and is not ready: it is settled when its former
descriptors are. -/
theorem moves_initIfNeeded (hk : Known h hist) (index : UInt8) :
    Moves hist h (h.initIfNeeded index).2 := by
  rw [initIfNeeded, withVring]
  split
  · exact ⟨hk, rfl, id⟩
  · split
    · obtain ⟨h', hup, hk', hupd, hset, -⟩ :=
        @moves_touch B M h hist index.toNat (fun v => v.setQueueReady true) hk fun _ => rfl
      rw [ofNat_toNat8] at hup
      rw [initializeVring, hup]
      exact ⟨hk', hupd.masks, hset⟩
    · exact ⟨hk, rfl, id⟩

theorem moves_setCall (hk : Known h hist) (i : Nat) (file : Option File) :
    Moves hist h (h.modVring i fun v => v.setCall file) := by
  refine moves_of_same hk rfl rfl (kick_modVring fun _ => rfl) fun j => ?_
  unfold Runs
  rw [vrings_modVring]
  split
  · cases h.vrings[j]? with
    | none => simp
    | some v => simp [VringState.setCall]
  · rfl

theorem moves_setVringCall (hk : Known h hist) (index : UInt8) (file : Option File) :
    Moves hist h (h.setVringCall index file).2 := by
  rw [setVringCall, withVring]
  split
  · exact ⟨hk, rfl, id⟩
  · have hset := moves_setCall hk index.toNat file
    exact hset.trans (moves_initIfNeeded hset.known index)

/-! ## A new kick descriptor -/

/-- The history after ring `i` got the descriptor `file`. -/
def record (hist : Nat → List File) (i : Nat) : Option File → Nat → List File
  | none => hist
  | some f => Function.update hist i (f :: hist i)

/-- A descriptor that was no ring's before and is registered nowhere. -/
def FreshFile (h : VhostUserHandler B M) (hist : Nat → List File) (file : Option File) : Prop :=
  ∀ f, file = some f → (∀ i, f ∉ hist i) ∧ ∀ t, ¬ h.Reg t f

section NewKick
variable {i : Nat} {file : Option File}

theorem record_of_ne {j : Nat} (hij : i ≠ j) : record hist i file j = hist j := by
  cases file with
  | none => rfl
  | some f => exact Function.update_of_ne (Ne.symm hij) _ _

theorem mem_record {j : Nat} {fd : File} (hmem : fd ∈ record hist i file j) :
    fd ∈ hist j ∨ (i = j ∧ file = some fd) := by
  cases file with
  | none => exact .inl hmem
  | some f =>
    by_cases hij : i = j
    · subst hij
      rw [record, Function.update_self, List.mem_cons] at hmem
      exact hmem.elim (fun he => .inr ⟨rfl, by rw [he]⟩) .inl
    · rw [record_of_ne hij] at hmem
      exact .inl hmem

theorem mem_record_of_mem {j : Nat} {fd : File} (hmem : fd ∈ hist j) : fd ∈ record hist i file j := by
  cases file with
  | none => exact hmem
  | some f =>
    by_cases hij : i = j
    · subst hij
      rw [record, Function.update_self]
      exact List.mem_cons_of_mem f hmem
    · rw [record_of_ne hij]
      exact hmem

theorem kick_setKick {j : Nat} {fd : File} (hkick : (h.modVring i fun v => v.setKick file).Kick j fd) :
    (i = j ∧ file = some fd) ∨ (i ≠ j ∧ h.Kick j fd) := by
  obtain ⟨v, hv, hvk⟩ := hkick
  rw [vrings_modVring] at hv
  split at hv
  · rename_i hij
    obtain ⟨v', -, rfl⟩ := Option.map_eq_some_iff.1 hv
    exact .inl ⟨hij, hvk⟩
  · rename_i hij
    exact .inr ⟨hij, v, hv, hvk⟩

theorem known_setKick (hk : Known h hist) (hfresh : FreshFile h hist file) :
    Known (h.modVring i fun v => v.setKick file) (record hist i file) where
  len := hk.len
  disjoint {j k fd} hj hk' := by
    rcases mem_record hj with hj | ⟨rfl, hfj⟩
    · rcases mem_record hk' with hk' | ⟨rfl, hfk⟩
      · exact hk.disjoint hj hk'
      · exact absurd hj ((hfresh fd hfk).1 j)
    · rcases mem_record hk' with hk' | ⟨rfl, hfk⟩
      · exact absurd hk' ((hfresh fd hfj).1 k)
      · rfl
  kick_mem {j fd} hkick := by
    rcases kick_setKick hkick with ⟨rfl, rfl⟩ | ⟨hij, hkick⟩
    · simp [record]
    · exact mem_record_of_mem (hk.kick_mem hkick)
  reg_worker {j t fd} hmem hr := by
    rcases mem_record hmem with hmem | ⟨rfl, hf⟩
    · exact hk.reg_worker hmem hr
    · exact absurd hr ((hfresh fd hf).2 t)

theorem settled_setKick_of_ne {j : Nat} (hij : i ≠ j) (hs : Settled h hist j) :
    Settled (h.modVring i fun v => v.setKick file) (record hist i file) j := by
  have hkick : ∀ fd, (h.modVring i fun v => v.setKick file).Kick j fd ↔ h.Kick j fd := fun fd => by
    unfold Kick
    rw [vrings_modVring, if_neg hij]
  refine ⟨fun {t fd} hk' hw' => ?_, fun {fd t} hmem hno => ?_⟩
  · rw [runs_modVring_of_ne hij]
    exact hs.current ((hkick fd).1 hk') hw'
  · rw [record_of_ne hij] at hmem
    exact hs.former hmem fun hk' => hno ((hkick fd).2 hk')

/-- Of a settled ring that does not run, nothing is registered after the swap. -/
theorem unregistered_setKick (hk : Known h hist) (hs : Settled h hist i) (hruns : ¬ h.Runs i)
    (hfresh : FreshFile h hist file) {fd : File} {t : Nat} (hmem : fd ∈ record hist i file i) :
    ¬ h.Reg t fd := by
  rcases mem_record hmem with hmem | ⟨-, hf⟩
  · exact hs.unregistered hk hruns hmem
  · exact (hfresh fd hf).2 t

end NewKick

/-- `get_vring_base` stops the ring before it drops the descriptor. -/
theorem moves_getVringBase (hk : Known h hist) (index : UInt32) :
    Moves hist h (h.getVringBase index).2 := by
  rw [getVringBase, withVring]
  split
  · exact ⟨hk, rfl, id⟩
  · obtain ⟨h', hup, hk', hupd, hset, -⟩ :=
      @moves_touch B M h hist index.toNat (fun v => v.setQueueReady false) hk fun _ => rfl
    rw [toUInt8_eq_ofNat, hup]
    have hfresh : FreshFile h' hist none := fun f hf => by cases hf
    have hstopped : ¬ h'.Runs index.toNat := by
      obtain ⟨hs, rfl, -⟩ := hupd.rest
      rintro ⟨v, hv, hready, -⟩
      rw [show ({ h.modVring index.toNat _ with handlers := hs } : VhostUserHandler B M).vrings[index.toNat]? = _
        from vrings_modVring h index.toNat index.toNat _, if_pos rfl] at hv
      obtain ⟨v', -, rfl⟩ := Option.map_eq_some_iff.1 hv
      cases hready
    have hdrop : Moves hist h' (h'.modVring index.toNat fun v => v.setKick none) := by
      refine ⟨@known_setKick B M h' hist index.toNat none hk' hfresh, rfl, fun {j} hs => ?_⟩
      by_cases hij : index.toNat = j
      · subst hij
        refine ⟨fun {t fd} hkick _ => ?_, fun {fd t} hmem _ => ?_⟩
        · rcases kick_setKick hkick with ⟨-, hf⟩ | ⟨hne, -⟩
          · cases hf
          · exact absurd rfl hne
        · exact hs.unregistered hk' hstopped hmem
      · exact @settled_setKick_of_ne B M h' hist index.toNat none j hij hs
    have htouch : Moves hist h h' := ⟨hk', hupd.masks, hset⟩
    exact htouch.trans (hdrop.trans (moves_setCall hdrop.known _ none))

/-! ## `set_vring_kick` -/

section SetKick
variable {index : UInt8} {file : Option File}

/-- The descriptor of the ring can be swapped without a registration changing. -/
def Swappable (h : VhostUserHandler B M) (i : Nat) (file : Option File) : Prop :=
  ¬ (h.Runs i ∧ ((∃ fd, h.Kick i fd) ∨ file.isSome))

theorem setVringKick_eq {v : VringState} (hv : h.vrings[index.toNat]? = some v) :
    (h.setVringKick index file).2 =
      if !v.queue.ready && file.isSome then
        ((h.modVring index.toNat fun v => v.setKick file).initializeVring index.toNat index).2
      else h.modVring index.toNat fun v => v.setKick file := by
  have hv' : (h.modVring index.toNat fun v => v.setKick file).vrings[index.toNat]? = some (v.setKick file) := by
    rw [vrings_modVring, if_pos rfl, hv]
    rfl
  have hneed : vringNeedsInit (v.setKick file) = (!v.queue.ready && file.isSome) := rfl
  rw [setVringKick, withVring, hv]
  dsimp only
  rw [initIfNeeded, withVring, hv']
  dsimp only
  rw [hneed]
  split <;> rfl

theorem runs_setKick {i j : Nat} : (h.modVring i fun v => v.setKick file).Runs j ↔ h.Runs j := by
  unfold Runs
  rw [vrings_modVring]
  split
  · cases h.vrings[j]? with
    | none => simp
    | some v => simp [VringState.setKick]
  · rfl

/-- The swap alone, when no registration has to change. -/
theorem settled_setKick (hk : Known h hist) (hfresh : FreshFile h hist file) {i : Nat}
    (hs : Settled h hist i) (hsw : Swappable h i file) :
    Settled (h.modVring i fun v => v.setKick file) (record hist i file) i := by
  refine ⟨fun {t fd} hkick _ => ?_, fun {fd t} hmem hno => ?_⟩
  · rcases kick_setKick hkick with ⟨-, rfl⟩ | ⟨hne, -⟩
    · rw [runs_setKick]
      exact iff_of_false ((hfresh fd rfl).2 t) fun hr => hsw ⟨hr, .inr rfl⟩
    · exact absurd rfl hne
  · by_cases hr : h.Runs i
    · have hnone : file = none := by
        cases file with
        | none => rfl
        | some f => exact absurd ⟨hr, .inr rfl⟩ hsw
      subst hnone
      exact hs.former hmem fun hkick => hsw ⟨hr, .inl ⟨fd, hkick⟩⟩
    · exact unregistered_setKick hk hs hr hfresh hmem

/-- The request keeps its own ring settled if the descriptor is swappable, and never disturbs the
other rings. -/
theorem setVringKick_settled (hk : Known h hist) (hfresh : FreshFile h hist file) {v : VringState}
    (hv : h.vrings[index.toNat]? = some v) :
    Known (h.setVringKick index file).2 (record hist index.toNat file) ∧
      (h.setVringKick index file).2.queuesPerThread = h.queuesPerThread ∧
      (∀ {j}, index.toNat ≠ j → Settled h hist j →
        Settled (h.setVringKick index file).2 (record hist index.toNat file) j) ∧
      (Settled h hist index.toNat → Swappable h index.toNat file →
        Settled (h.setVringKick index file).2 (record hist index.toNat file) index.toNat) := by
  have hk₁ := @known_setKick B M h hist index.toNat file hk hfresh
  rw [setVringKick_eq hv]
  split
  · rename_i hinit
    obtain ⟨h', hup, hk', hupd, hset, hfin⟩ := @moves_touch B M (h.modVring index.toNat fun v => v.setKick file)
      (record hist index.toNat file) index.toNat (fun v => v.setQueueReady true) hk₁ fun _ => rfl
    rw [ofNat_toNat8] at hup
    rw [initializeVring, hup]
    have hstopped : ¬ h.Runs index.toNat := by
      rintro ⟨v', hv', hready, -⟩
      rw [hv] at hv'
      cases hv'
      simp [hready] at hinit
    exact ⟨hk', hupd.masks, fun hij hs => hset (settled_setKick_of_ne hij hs), fun hs _ =>
      hfin fun hmem _ => unregistered_setKick hk hs hstopped hfresh hmem⟩
  · rename_i hinit
    exact ⟨hk₁, rfl, fun hij hs => settled_setKick_of_ne hij hs, settled_setKick hk hfresh⟩

/-- A descriptor that is not swappable unsettles a ring that has a worker. -/
theorem setVringKick_unsettled (hk : Known h hist) (hfresh : FreshFile h hist file)
    (hs : Settled h hist index.toNat) {t : Nat} (hw : h.Worker index t)
    (hsw : ¬ Swappable h index.toNat file) :
    ¬ Settled (h.setVringKick index file).2 (record hist index.toNat file) index.toNat := by
  rw [Swappable, not_not] at hsw
  obtain ⟨hr, hold⟩ := hsw
  obtain ⟨v, hv, hready, -⟩ := id hr
  have hw' : h.Worker (UInt8.ofNat index.toNat) t := by rwa [ofNat_toNat8]
  rw [setVringKick_eq hv, hready]
  intro hs'
  -- Either the old descriptor stays registered, or the new one is not.
  rcases hold with ⟨fd, hkick⟩ | hsome
  · have hmem := hk.kick_mem hkick
    refine hs'.former (mem_record_of_mem hmem) (fun hkick' => ?_) ((hs.current hkick hw').2 hr)
    rcases kick_setKick hkick' with ⟨-, rfl⟩ | ⟨hne, -⟩
    · exact (hfresh fd rfl).1 _ hmem
    · exact hne rfl
  · obtain ⟨f, rfl⟩ := Option.isSome_iff_exists.1 hsome
    have hkick' : (h.modVring index.toNat fun v => v.setKick (some f)).Kick index.toNat f :=
      ⟨v.setKick (some f), by rw [vrings_modVring, if_pos rfl, hv]; rfl, rfl⟩
    exact (hfresh f rfl).2 t ((hs'.current hkick' hw').2 (runs_setKick.2 hr))

end SetKick

/-! ## Runs -/

/-- The first worker whose mask has bit `i`. -/
def firstWorker (masks : List UInt64) (i : Nat) : Option Nat :=
  masks.findIdx? fun mask => mask.toNat.testBit i

theorem toNat_shifted (mask : UInt64) {i : Nat} (hi : i < 64) :
    (mask >>> (UInt8.ofNat i).toUInt64).toNat = mask.toNat >>> i := by
  have hidx : (UInt8.ofNat i).toUInt64.toNat = i := by
    simp
    omega
  rw [UInt64.toNat_shiftRight, hidx, Nat.mod_eq_of_lt hi]

theorem shifted_bit (mask : UInt64) {i : Nat} (hi : i < 64) :
    ((mask >>> (UInt8.ofNat i).toUInt64) &&& 1 == 1) = mask.toNat.testBit i := by
  have hbit : ((mask >>> (UInt8.ofNat i).toUInt64) &&& 1).toNat = mask.toNat / 2 ^ i % 2 := by
    rw [UInt64.toNat_and, toNat_shifted mask hi, Nat.shiftRight_eq_div_pow]
    exact Nat.and_one_is_mod _
  rw [Nat.testBit_eq_decide_div_mod_eq, ← hbit, Bool.eq_iff_iff]
  simp only [beq_iff_eq, decide_eq_true_eq, ← UInt64.toNat_inj]
  rfl

theorem lt_of_testBit {mask : UInt64} {i : Nat} (hb : mask.toNat.testBit i = true) : i < 64 := by
  by_contra hge
  have hsmall : mask.toNat < 2 ^ i := Nat.lt_of_lt_of_le mask.toNat_lt (Nat.pow_le_pow_right (by omega) (by omega))
  rw [Nat.testBit_lt_two_pow hsmall] at hb
  cases hb

theorem findWorker_of_firstWorker {i : Nat} (hi : i < 64) {masks : List UInt64} {k t : Nat}
    (hf : firstWorker masks i = some t) :
    ∃ e, findWorker (UInt8.ofNat i) k masks = some (k + t, e) := by
  induction masks generalizing k t with
  | nil => simp [firstWorker] at hf
  | cons mask masks ih =>
    rw [firstWorker, List.findIdx?_cons] at hf
    rw [findWorker, shifted_bit mask hi]
    split at hf
    · rename_i hb
      cases hf
      exact ⟨_, by rw [if_pos hb]; rfl⟩
    · rename_i hb
      obtain ⟨t', ht', rfl⟩ := Option.map_eq_some_iff.1 hf
      obtain ⟨e, he⟩ := @ih (k + 1) t' ht'
      exact ⟨e, by rw [if_neg hb, he, Nat.add_assoc, Nat.add_comm 1]⟩

theorem worker_of_firstWorker {i t : Nat} (hf : firstWorker h.queuesPerThread i = some t) :
    h.Worker (UInt8.ofNat i) t := by
  have hbit : ∃ mask ∈ h.queuesPerThread, mask.toNat.testBit i = true := by
    by_contra hno
    have hnone : firstWorker h.queuesPerThread i = none := List.findIdx?_eq_none_iff.2 fun mask hmem => by
      simpa using fun hb => hno ⟨mask, hmem, hb⟩
    rw [hnone] at hf
    cases hf
  obtain ⟨mask, -, hb⟩ := hbit
  obtain ⟨e, he⟩ := @findWorker_of_firstWorker i (lt_of_testBit hb) h.queuesPerThread 0 t hf
  exact ⟨e, by rw [he, Nat.zero_add]⟩

inductive RingRequest where
  | setFeatures (features : UInt64)
  | setVringKick (index : UInt8) (file : Option File)
  | setVringCall (index : UInt8) (file : Option File)
  | setVringEnable (index : UInt32) (enable : Bool)
  | getVringBase (index : UInt32)
  | resetDevice
  | resetOwner
deriving DecidableEq

/-- The handler after a request, whatever the request returns. -/
def after (d : Deps B M) (h : VhostUserHandler B M) : RingRequest → VhostUserHandler B M
  | .setFeatures features => (h.setFeatures d features).2
  | .setVringKick index file => (h.setVringKick index file).2
  | .setVringCall index file => (h.setVringCall index file).2
  | .setVringEnable index enable => (h.setVringEnable index enable).2
  | .getVringBase index => (h.getVringBase index).2
  | .resetDevice => (h.resetDevice d).2
  | .resetOwner => h.resetOwner.2

/-- The handler and, for each ring, every descriptor it was given. -/
structure RegState (B M : Type) where
  handler : VhostUserHandler B M
  hist : Nat → List File

def regStep (d : Deps B M) (s : RegState B M) (a : RingRequest) : RegState B M where
  handler := s.handler.after d a
  hist := match a with
    -- A ring that does not exist keeps no descriptor.
    | .setVringKick index file => if index.toNat < s.handler.vrings.length then record s.hist index.toNat file else s.hist
    | _ => s.hist

/-- A received descriptor is a new one. -/
def Fresh (s : RegState B M) (a : RingRequest) : Prop :=
  ∀ index file, a = .setVringKick index file → FreshFile s.handler s.hist file

/-- For every ring covered by a mask: its descriptor is registered at the first worker whose mask
has its bit exactly when the ring is ready and enabled, and no former one is registered. -/
def Registered (s : RegState B M) : Prop :=
  ∀ i t, firstWorker s.handler.queuesPerThread i = some t →
    (∀ fd, s.handler.Kick i fd → (s.handler.Reg t fd ↔ s.handler.Runs i)) ∧
    ∀ fd ∈ s.hist i, ¬ s.handler.Kick i fd → ∀ t', ¬ s.handler.Reg t' fd

/-- `set_vring_kick` meets a covered ring only while nothing of it has to change in the epoll sets. -/
def SwapsIdle (s : RegState B M) (a : RingRequest) : Prop :=
  ∀ index file, a = .setVringKick index file →
    ∀ t, firstWorker s.handler.queuesPerThread index.toNat = some t → Swappable s.handler index.toNat file

theorem registered_iff {s : RegState B M} :
    Registered s ↔ ∀ i t, firstWorker s.handler.queuesPerThread i = some t → Settled s.handler s.hist i := by
  constructor
  · intro hr i t hf
    obtain ⟨hcur, hform⟩ := hr i t hf
    refine ⟨fun {t' fd} hkick hw => ?_, fun {fd t'} hmem hno => hform fd hmem hno t'⟩
    obtain ⟨e, he⟩ := worker_of_firstWorker hf
    obtain rfl := (worker_iff he).1 hw
    exact hcur fd hkick
  · intro hs i t hf
    have hset := hs i t hf
    exact ⟨fun fd hkick => hset.current hkick (worker_of_firstWorker hf),
      fun fd hmem hno t' => hset.former hmem hno⟩

theorem moves_after (hk : Known h hist) {a : RingRequest} (ha : ∀ index file, a ≠ .setVringKick index file) :
    Moves hist h (h.after d a) := by
  cases a with
  | setFeatures features => exact moves_setFeatures hk features
  | setVringKick index file => exact absurd rfl (ha index file)
  | setVringCall index file => exact moves_setVringCall hk index file
  | setVringEnable index enable => exact moves_setVringEnable hk index enable
  | getVringBase index => exact moves_getVringBase hk index
  | resetDevice => exact moves_resetDevice hk
  | resetOwner => exact moves_resetOwner hk

/-- One request, from a state whose covered rings are all settled. -/
theorem registered_step {s : RegState B M} (hk : Known s.handler s.hist) (hr : Registered s) {a : RingRequest}
    (hfresh : Fresh s a) : Known (regStep d s a).handler (regStep d s a).hist ∧
      (Registered (regStep d s a) ↔ SwapsIdle s a) := by
  rw [registered_iff] at hr ⊢
  by_cases ha : ∀ index file, a ≠ .setVringKick index file
  · have hm := moves_after (d := d) hk ha
    have hhist : (regStep d s a).hist = s.hist := by
      cases a with
      | setVringKick index file => exact absurd rfl (ha index file)
      | _ => rfl
    rw [hhist]
    refine ⟨hm.known, iff_of_true (fun i t hf => ?_) fun index file he => absurd he (ha index file)⟩
    exact hm.settled (hr i t (hm.masks ▸ hf))
  · simp only [not_forall, not_not] at ha
    obtain ⟨index, file, rfl⟩ := ha
    have hff := hfresh index file rfl
    cases hv : s.handler.vrings[index.toNat]? with
    | none =>
      have hlen : ¬ index.toNat < s.handler.vrings.length := by simpa using hv
      have hsame : regStep d s (.setVringKick index file) = s := by
        simp only [regStep, after, setVringKick, withVring, hv, if_neg hlen]
      rw [hsame]
      refine ⟨hk, iff_of_true hr fun index' file' he t hf hno => ?_⟩
      cases he
      obtain ⟨⟨v, hv', -⟩, -⟩ := hno
      rw [hv] at hv'
      cases hv'
    | some v =>
      have hlen : index.toNat < s.handler.vrings.length := (List.getElem?_eq_some_iff.1 hv).1
      have hstep : regStep d s (.setVringKick index file) =
          ⟨(s.handler.setVringKick index file).2, record s.hist index.toNat file⟩ := by
        simp only [regStep, after, if_pos hlen]
      obtain ⟨hk', hmasks, hothers, hown⟩ := setVringKick_settled hk hff hv
      rw [hstep]
      refine ⟨hk', ?_, ?_⟩
      · rintro hset index' file' he t hf
        cases he
        by_contra hsw
        exact setVringKick_unsettled hk hff (hr _ t hf) (ofNat_toNat8 index ▸ worker_of_firstWorker hf) hsw
          (hset index.toNat t (hmasks ▸ hf))
      · intro hsw i t hf
        rw [show (⟨(s.handler.setVringKick index file).2, _⟩ : RegState B M).handler.queuesPerThread = _
          from hmasks] at hf
        by_cases hij : index.toNat = i
        · subst hij
          exact hown (hr _ t hf) (hsw index file rfl t hf)
        · exact hothers hij (hr i t hf)

theorem mapM_replicate_mem {α : Type} {x : Option α} {n : Nat} {ys : List α}
    (hm : (List.replicate n ()).mapM (fun _ => x) = some ys) : ∀ y ∈ ys, x = some y := by
  induction n generalizing ys with
  | zero =>
    cases hm
    simp
  | succ n ih =>
    rw [List.replicate_succ, List.mapM_cons] at hm
    obtain ⟨y, rfl, hm⟩ := Option.bind_eq_some_iff.1 hm
    obtain ⟨ys', hrest, hm⟩ := Option.bind_eq_some_iff.1 hm
    cases hm
    simp only [List.mem_cons, forall_eq_or_imp]
    exact ⟨trivial, ih hrest⟩

/-- A new handler has a worker per mask, and rings that are stopped, disabled and have no descriptor. -/
theorem new_spec {b : B} {mem : M} {heap : LogHeap} {n : Nat} (hnew : new d b mem heap n = some h) :
    h.handlers.length = h.queuesPerThread.length ∧
      ∀ v ∈ h.vrings, v.kick = none ∧ v.queue.ready = false ∧ v.enabled = false := by
  obtain ⟨vrings, hvrings, rfl⟩ := new_eq hnew
  refine ⟨by simp [newHandlers], fun v hv => ?_⟩
  have hone := mapM_replicate_mem hvrings v hv
  simp only [VringState.new, Queue.new, Option.map_eq_some_iff, Option.ite_none_left_eq_some] at hone
  obtain ⟨q, ⟨-, hq⟩, rfl⟩ := hone
  cases hq
  exact ⟨rfl, rfl, rfl⟩

theorem known_new {b : B} {mem : M} {heap : LogHeap} {n : Nat} (hnew : new d b mem heap n = some h) :
    Known h (fun _ => []) where
  len := (new_spec hnew).1
  disjoint hmem := by simp at hmem
  kick_mem := by
    rintro i fd ⟨v, hv, hk⟩
    rw [((new_spec hnew).2 v (List.mem_of_getElem? hv)).1] at hk
    cases hk
  reg_worker hmem := by simp at hmem

/-- **The registration invariant holds along a run exactly when** no `set_vring_kick` meets a
running ring that has, or is given, a descriptor. -/
theorem registration_iff {b : B} {mem : M} {heap : LogHeap} {n : Nat} (hnew : new d b mem heap n = some h)
    (as : List RingRequest) (hfresh : Along (regStep d) Fresh ⟨h, fun _ => []⟩ as) :
    Visits (regStep d) Registered ⟨h, fun _ => []⟩ as ↔
      Along (regStep d) SwapsIdle ⟨h, fun _ => []⟩ as := by
  have hk := known_new hnew
  refine visits_iff_along (J := fun s => Known s.handler s.hist) (F := Fresh)
    (fun s a hk hr hf _ => (registered_step hk hr hf).1) (fun s a hk hr hf => (registered_step hk hr hf).2)
    as ⟨h, fun _ => []⟩ hk (registered_iff.2 fun i t _ => ⟨fun hkick => ?_, fun hmem => ?_⟩) hfresh
  · exact absurd (hk.kick_mem hkick) (by simp)
  · simp at hmem

theorem freshFile_of_forall {f : File} (hhist : ∀ i, f ∉ hist i) (hreg : ∀ w ∈ h.handlers, ¬ w.epoll.Has f) :
    FreshFile h hist (some f) := by
  rintro f' he
  cases he
  exact ⟨hhist, fun t ⟨w, hw, hhas⟩ => hreg w (List.mem_of_getElem? hw) hhas⟩

theorem notMem_record {f g : File} (hne : f ≠ g) (i j : Nat) : f ∉ record (fun _ => []) i (some g) j := by
  intro hmem
  rcases mem_record hmem with hold | ⟨-, hfile⟩
  · exact List.not_mem_nil hold
  · cases hfile
    exact hne rfl

/-- The ring is stopped before it gets its second descriptor. -/
theorem registration_restart :
    Visits (regStep (plainDeps true)) Registered ⟨plainHandler, fun _ => []⟩
      [.setFeatures 0, .setVringKick 0 (some 5), .getVringBase 0, .setVringKick 0 (some 6)] := by
  refine (registration_iff (new_plainHandler true)
    [.setFeatures 0, .setVringKick 0 (some 5), .getVringBase 0, .setVringKick 0 (some 6)]
    ⟨?_, ?_, ?_, ?_, trivial⟩).2 ⟨?_, ?_, ?_, ?_, trivial⟩
  all_goals
    intro index file he
    cases he
  · exact freshFile_of_forall (fun _ => List.not_mem_nil) (by decide)
  · exact freshFile_of_forall (notMem_record (by decide) 0) (by decide)
  · intro t _ hno
    exact absurd hno.1 (by decide)
  · intro t _ hno
    exact absurd hno.1 (by decide)

/-- A running ring gets a second descriptor: it is not registered, the first one still is. -/
theorem registration_swap_running :
    Along (regStep (plainDeps true)) Fresh ⟨plainHandler, fun _ => []⟩
      [.setFeatures 0, .setVringKick 0 (some 5), .setVringKick 0 (some 6)] ∧
    ¬ Visits (regStep (plainDeps true)) Registered ⟨plainHandler, fun _ => []⟩
      [.setFeatures 0, .setVringKick 0 (some 5), .setVringKick 0 (some 6)] := by
  refine ⟨⟨?_, ?_, ?_, trivial⟩, fun hv => ?_⟩
  · intro index file he
    cases he
  · intro index file he
    cases he
    exact freshFile_of_forall (fun _ => List.not_mem_nil) (by decide)
  · intro index file he
    cases he
    exact freshFile_of_forall (notMem_record (by decide) 0) (by decide)
  · have hcur := (hv.last 0 0 (by decide)).1 6 (by decide)
    exact absurd hcur (by decide)

end VhostUserHandler

end VhostUser
