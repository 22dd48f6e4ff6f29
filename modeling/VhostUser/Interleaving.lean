import VhostUser.EventLoop
/-!
# Kicks and stopped rings under every interleaving

`update_vring_registration` promises "that notifications are handled only while the vring is both
started and enabled and that no notifications are lost" (`handler.rs:213-215`). Both promises meet
the event that a worker has taken from epoll and not yet handled: unregistering the descriptor does
not take it back, and `read_kick` (`vring.rs:248-255`) consumes the counter first, then answers with
`enabled` alone.

* `calls_running_of_stopsIdle` — the ring was started and enabled at every `read_kick` that leads to
  a call of the backend, in every run where no event is in flight for a ring that is enabled and
  not started.
* `no_kick_lost_iff` — no kick is lost along a run exactly when no `read_kick` finds its ring disabled
  with an unserved kick in the counter.
-/
namespace VhostUser
open Trace

namespace Sys
variable {B M : Type} {d : Deps B M} {nonblock : File → Bool} {s : Sys B M}

def Enabled (h : VhostUserHandler B M) (r : Nat) : Prop := ∃ v, h.vrings[r]? = some v ∧ v.enabled = true
def Ready (h : VhostUserHandler B M) (r : Nat) : Prop := ∃ v, h.vrings[r]? = some v ∧ v.queue.ready = true

instance (h : VhostUserHandler B M) (r : Nat) : Decidable (Enabled h r) :=
  decidable_of_iff (∃ v ∈ h.vrings[r]?, v.enabled = true) Iff.rfl

instance (h : VhostUserHandler B M) (r : Nat) : Decidable (Ready h r) :=
  decidable_of_iff (∃ v ∈ h.vrings[r]?, v.queue.ready = true) Iff.rfl

theorem enabled_exec {h : VhostUserHandler B M} {m : Micro} {r : Nat} (he : Enabled (h.exec d m).2 r) :
    Enabled h r ∨ m = .setEnabled r true := by
  obtain ⟨v, hv, hen⟩ := he
  rw [VhostUserHandler.vrings_exec] at hv
  obtain ⟨v', hv', rfl⟩ := Option.map_eq_some_iff.1 hv
  rcases m.enabled_onRing r v' with hsame | hm
  · exact .inl ⟨v', hv', hsame ▸ hen⟩
  · rw [hen] at hm
    exact .inr hm

theorem enabled_exec_of_enabled {h : VhostUserHandler B M} {m : Micro} {r : Nat} (he : Enabled h r) :
    Enabled (h.exec d m).2 r ∨ m = .setEnabled r false := by
  obtain ⟨v, hv, hen⟩ := he
  have hv' : (h.exec d m).2.vrings[r]? = some (m.onRing r v) := by
    rw [VhostUserHandler.vrings_exec, hv]
    rfl
  rcases m.enabled_onRing r v with hsame | hm
  · exact .inl ⟨_, hv', hsame.trans hen⟩
  · cases hnew : (m.onRing r v).enabled with
    | true => exact .inl ⟨_, hv', hnew⟩
    | false =>
      rw [hnew] at hm
      exact .inr hm

theorem ready_exec {h : VhostUserHandler B M} {m : Micro} {r : Nat} (hr : Ready h r) :
    Ready (h.exec d m).2 r ∨ m = .setQueueReady r false := by
  obtain ⟨v, hv, hready⟩ := hr
  have hv' : (h.exec d m).2.vrings[r]? = some (m.onRing r v) := by
    rw [VhostUserHandler.vrings_exec, hv]
    rfl
  rcases m.ready_onRing r v with hsame | hm
  · exact .inl ⟨_, hv', hsame.trans hready⟩
  · cases hnew : (m.onRing r v).queue.ready with
    | true => exact .inl ⟨_, hv', hnew⟩
    | false =>
      rw [hnew] at hm
      exact .inr hm

/-! ## Stopped or disabled rings -/

/-- An event of ring `r` was taken from epoll and its `read_kick` is still to come. -/
def InFlight (s : Sys B M) (r : Nat) : Prop := ∃ t ev, ev ∈ (s.workers t).events ∧ s.ringOf t ev = some r

/-- The condition on one step: an event of a ring that is enabled and not started is not taken, and
a ring with an event in flight is neither stopped while enabled nor enabled while stopped. -/
def StopsIdle (s : Sys B M) : Action → Prop
  | .wait t events => ∀ p ∈ events, ∀ r, s.ringOf t p.2.toUInt16 = some r →
      Enabled s.handler r → Ready s.handler r
  | .control => ∀ m ms, s.todo = m :: ms →
      (∀ r, m = .setQueueReady r false → Enabled s.handler r → ¬ s.InFlight r) ∧
      ∀ r, m = .setEnabled r true → ¬ Ready s.handler r → ¬ s.InFlight r
  | _ => True

/-- Whenever `handle_event` goes on to call the backend for a vring, the vring is started and enabled
when its `read_kick` is evaluated. -/
def CallsRunning (nonblock : File → Bool) (s : Sys B M) : Action → Prop
  | .handleEvent t => ∀ ev kicks r, (s.workers t).holding = none →
      ((s.handleEvent nonblock t).workers t).holding = some (ev, kicks) → s.ringOf t ev = some r →
      s.handler.Runs r
  | _ => True

/-- Every ring with an event in flight has the property `Q`. -/
def Flights (Q : VhostUserHandler B M → Nat → Prop) (s : Sys B M) : Prop := ∀ r, s.InFlight r → Q s.handler r

section Flights
variable {Q : VhostUserHandler B M → Nat → Prop}

/-- A step that keeps the handler and takes no new event. -/
theorem Flights.of_sub {s' : Sys B M} (hi : Flights Q s) (hh : s'.handler = s.handler)
    (hev : ∀ t ev, ev ∈ (s'.workers t).events → ev ∈ (s.workers t).events) : Flights Q s' := by
  rintro r ⟨t, ev, hmem, hring⟩
  have hring' : s.ringOf t ev = some r := by simpa only [ringOf, hh] using hring
  rw [hh]
  exact hi r ⟨t, ev, hev t ev hmem, hring'⟩

theorem mem_events_setWorker {t t' : Nat} {w : WorkerState} {ev : UInt16}
    (hsub : ∀ ev ∈ w.events, ev ∈ (s.workers t).events) (hmem : ev ∈ ((s.setWorker t w).workers t').events) :
    ev ∈ (s.workers t').events := by
  rw [workers_setWorker] at hmem
  split at hmem
  · rename_i ht
    subst ht
    exact hsub ev hmem
  · exact hmem

theorem flights_init (h : VhostUserHandler B M) : Flights Q (init h) := by
  rintro r ⟨t, ev, hmem, -⟩
  simp [init] at hmem

/-- Only `epoll_wait` puts events in flight, and only the control thread changes their rings. -/
theorem flights_step (hi : Flights Q s) {a : Action}
    (hwait : ∀ t events, a = .wait t events → ∀ p ∈ events, ∀ r, s.ringOf t p.2.toUInt16 = some r → Q s.handler r)
    (hctl : a = .control → ∀ m ms, s.todo = m :: ms → ∀ r, s.InFlight r → Q s.handler r →
      Q (s.handler.exec d m).2 r) : Flights Q (step d nonblock s a) := by
  cases a with
  | request r =>
    rcases request_cases d s r with heq | ⟨-, heq⟩
    · simp only [step, heq]
      exact hi
    · simp only [step, heq]
      exact hi.of_sub rfl fun t ev hmem => hmem
  | control =>
    rcases control_cases d s with heq | ⟨m, ms, htodo, hh, -, hw, -⟩
    · simp only [step, heq]
      exact hi
    · rintro r ⟨t, ev, hmem, hring⟩
      have hflight : s.InFlight r := by
        refine ⟨t, ev, hw ▸ hmem, ?_⟩
        simpa only [step, ringOf, hh, VhostUserHandler.layout_exec] using hring
      simp only [step, hh]
      exact hctl rfl m ms htodo r hflight (hi r hflight)
  | kick fd => exact hi.of_sub rfl fun t ev hmem => hmem
  | wait t events =>
    rcases wait_cases s t events with heq | ⟨-, -, heq⟩
    · simp only [step, heq]
      exact hi
    · simp only [step, heq]
      rintro r ⟨t', ev, hmem, hring⟩
      rw [workers_setWorker] at hmem
      split at hmem
      · rename_i ht
        subst ht
        obtain ⟨p, hp, rfl⟩ := List.mem_map.1 hmem
        exact hwait t' events rfl p hp r hring
      · exact hi r ⟨t', ev, hmem, hring⟩
  | handleEvent t =>
    have hh := handled nonblock s t
    simp only [step]
    generalize s.handleEvent nonblock t = s' at hh ⊢
    cases hh with
    | unchanged => exact hi
    | stop hhold => exact hi.of_sub rfl fun t' ev => mem_events_setWorker (by simp)
    | listener hw hring =>
      exact hi.of_sub rfl fun t' ev => mem_events_setWorker (by rw [hw]; exact fun ev => List.mem_cons_of_mem _)
    | @read ev rest r v enabled kicks pending hw hn hring hv hread =>
      have hsub : ∀ ev ∈ rest, ev ∈ (s.workers t).events := by
        rw [hw]
        exact fun ev => List.mem_cons_of_mem _
      exact hi.of_sub rfl fun t' ev => mem_events_setWorker (s := { s with pending := pending }) hsub
  | dispatch t ok =>
    rcases dispatch_cases s t ok with heq | ⟨events, ev, kicks, lastCall, hw, -, heq⟩
    · simp only [step, heq]
      exact hi
    · simp only [step, heq]
      refine hi.of_sub rfl fun t' ev' hmem => mem_events_setWorker (t := t) ?_ hmem
      rw [hw]
      cases ok <;> simp

end Flights

/-- The ring is started if it is enabled. -/
def ReadyIfEnabled (h : VhostUserHandler B M) (r : Nat) : Prop := Enabled h r → Ready h r

theorem flightsReady_step (hi : Flights ReadyIfEnabled s) {a : Action} (hc : StopsIdle s a) :
    Flights ReadyIfEnabled (step d nonblock s a) := by
  refine flights_step hi (fun t events ha => ?_) fun ha m ms htodo r hflight hready he => ?_
  · subst ha
    exact hc
  · subst ha
    obtain ⟨hstop, hen⟩ := hc m ms htodo
    have hready' : Ready s.handler r := by
      by_contra hno
      rcases enabled_exec he with he | hm
      · exact hno (hready he)
      · exact hen r hm hno hflight
    rcases ready_exec (d := d) (m := m) hready' with hr | hm
    · exact hr
    · rcases enabled_exec he with he | hm'
      · exact absurd hflight (hstop r hm he)
      · rw [hm] at hm'
        cases hm'

theorem callsRunning_of_flightsReady (hi : Flights ReadyIfEnabled s) (a : Action) : CallsRunning nonblock s a := by
  cases a with
  | handleEvent t =>
    intro ev kicks r hnone hhold hring
    have hh := handled nonblock s t
    generalize s.handleEvent nonblock t = s' at hh hhold
    cases hh with
    | unchanged => rw [hnone] at hhold; cases hhold
    | stop _ => rw [workers_setWorker, if_pos rfl] at hhold; cases hhold
    | listener hw hring' =>
      rw [workers_setWorker, if_pos rfl] at hhold
      cases hhold
      rw [hring] at hring'
      cases hring'
    | @read ev' rest r' v enabled kicks' pending hw hn hring' hv hread =>
      rw [workers_setWorker, if_pos rfl] at hhold
      obtain ⟨hen, -⟩ := readKick_ok hread
      split at hhold
      · rename_i htrue
        cases hhold
        rw [hring] at hring'
        cases hring'
        have he : Enabled s.handler r := ⟨v, hv, hen ▸ htrue⟩
        obtain ⟨v', hv', hready⟩ := hi r ⟨t, ev, by rw [hw]; simp, hring⟩ he
        rw [hv] at hv'
        cases hv'
        exact ⟨v, hv, hready, hen ▸ htrue⟩
      · cases hhold
  | _ => trivial

/-- **Stopped or disabled rings are not processed**, under every interleaving whose steps leave no
event in flight for a ring that is enabled and not started. -/
theorem calls_running_of_stopsIdle (d : Deps B M) (nonblock : File → Bool) (h : VhostUserHandler B M)
    (as : List Action) (hc : Along (step d nonblock) StopsIdle (init h) as) :
    Along (step d nonblock) (CallsRunning nonblock) (init h) as :=
  along_of_along (I := Flights ReadyIfEnabled) (fun _ _ hi hc => flightsReady_step hi hc)
    (fun _ a hi _ => callsRunning_of_flightsReady hi a) as (init h) (flights_init h) hc

/-! ## No kick is lost -/

/-- A kick made for a started ring is pending, held by a worker on its way to the backend, or was
followed by a call of the backend for the ring. -/
def NoKickLost (s : Sys B M) : Prop :=
  ∀ r k, k ∈ s.kicks r → (∃ fd, k ∈ s.pending fd) ∨
    (∃ t ev ks, (s.workers t).holding = some (ev, ks) ∧ s.ringOf t ev = some r ∧ k ∈ ks) ∨ k < s.lastCall r

/-- No `read_kick` is evaluated for a disabled ring with an unserved kick in its counter. -/
def ReadsEnabled (s : Sys B M) : Action → Prop
  | .handleEvent t => ∀ ev r v fd, s.nextRead t = some (ev, r) → s.handler.vrings[r]? = some v →
      v.kick = some fd → v.enabled = true ∨ ∀ k ∈ s.pending fd, k ∈ s.kicks r → k < s.lastCall r
  | _ => True

/-- A ring is given a descriptor that no ring had before. -/
def FreshKick (s : Sys B M) : Action → Prop
  | .control => ∀ i f ms, s.todo = .setKick i (some f) :: ms → ∀ j, f ∉ s.hist j
  | _ => True

structure KickInv (s : Sys B M) : Prop where
  disjoint : ∀ {i j fd}, fd ∈ s.hist i → fd ∈ s.hist j → i = j
  kick_mem : ∀ {i fd}, s.handler.Kick i fd → fd ∈ s.hist i
  made_lt : ∀ {r k}, k ∈ s.kicks r → k < s.next
  pend_lt : ∀ {fd k}, k ∈ s.pending fd → k < s.next
  pend_inj : ∀ {fd fd' k}, k ∈ s.pending fd → k ∈ s.pending fd' → fd = fd'
  held_lt : ∀ {t ev ks k}, (s.workers t).holding = some (ev, ks) → k ∈ ks → k < s.next
  held_pend : ∀ {t ev ks k fd}, (s.workers t).holding = some (ev, ks) → k ∈ ks → k ∉ s.pending fd
  owner : ∀ {r k fd}, k ∈ s.kicks r → k ∈ s.pending fd → fd ∈ s.hist r

/-- The control thread leaves kicks and workers alone, and gives rings fresh descriptors only. -/
theorem kickInv_control (hi : KickInv s) (hf : FreshKick s .control) : KickInv (s.control d) := by
  rcases control_cases d s with heq | ⟨m, ms, htodo, hh, hp, hw, hn, hkicks, -, hhist⟩
  · rw [heq]
    exact hi
  · have hnew : ∀ {i fd}, fd ∈ (s.control d).hist i → fd ∈ s.hist i ∨ m = .setKick i (some fd) :=
      fun hmem => by
        rw [hhist] at hmem
        cases m with
        | setKick j file =>
          exact (VhostUserHandler.mem_record hmem).imp id fun ⟨hj, hfile⟩ => by rw [hj, hfile]
        | _ => exact .inl hmem
    have hfresh : ∀ {i fd j}, m = .setKick i (some fd) → fd ∉ s.hist j := fun hm =>
      hf _ _ ms (by rw [htodo, hm]) _
    refine ⟨?_, ?_, ?_, ?_, ?_, ?_, ?_, ?_⟩
    · intro i j fd hi' hj'
      rcases hnew hi' with hi' | hmi
      · rcases hnew hj' with hj' | hmj
        · exact hi.disjoint hi' hj'
        · exact absurd hi' (hfresh hmj)
      · rcases hnew hj' with hj' | hmj
        · exact absurd hj' (hfresh hmi)
        · rw [hmi] at hmj
          cases hmj
          rfl
    · exact kick_mem_control hi.kick_mem
    · rw [hkicks, hn]
      exact hi.made_lt
    · rw [hp, hn]
      exact hi.pend_lt
    · rw [hp]
      exact hi.pend_inj
    · rw [hw, hn]
      exact hi.held_lt
    · rw [hw, hp]
      exact hi.held_pend
    · intro r k fd hk hmem
      rw [hkicks] at hk
      rw [hp] at hmem
      exact mem_hist_control d (hi.owner hk hmem)

theorem mem_kick_pending {fd fd' : File} {k : Nat} (hmem : k ∈ (s.kick fd).pending fd') :
    k ∈ s.pending fd' ∨ (k = s.next ∧ fd' = fd) := by
  simp only [kick, Function.update_apply] at hmem
  split at hmem
  · rename_i hfd
    subst hfd
    exact (List.mem_cons.1 hmem).elim (fun he => .inr ⟨he, rfl⟩) .inl
  · exact .inl hmem

theorem mem_kick_kicks {fd : File} {r k : Nat} (hmem : k ∈ (s.kick fd).kicks r) :
    k ∈ s.kicks r ∨ (k = s.next ∧ Started s.handler r fd) := by
  simp only [kick] at hmem
  split at hmem
  · rename_i hst
    exact (List.mem_cons.1 hmem).elim (fun he => .inr ⟨he, hst⟩) .inl
  · exact .inl hmem

theorem mem_pending_kick {fd fd' : File} {k : Nat} (hmem : k ∈ s.pending fd') :
    k ∈ (s.kick fd).pending fd' := by
  simp only [kick, Function.update_apply]
  split
  · rename_i hfd
    subst hfd
    exact List.mem_cons_of_mem _ hmem
  · exact hmem

theorem kickInv_kick (hi : KickInv s) (fd : File) : KickInv (s.kick fd) where
  disjoint := hi.disjoint
  kick_mem := hi.kick_mem
  made_lt hmem := by
    rcases mem_kick_kicks hmem with hmem | ⟨rfl, -⟩
    · exact Nat.lt_succ_of_lt (hi.made_lt hmem)
    · exact Nat.lt_succ_self _
  pend_lt hmem := by
    rcases mem_kick_pending hmem with hmem | ⟨rfl, -⟩
    · exact Nat.lt_succ_of_lt (hi.pend_lt hmem)
    · exact Nat.lt_succ_self _
  pend_inj {fd₁ fd₂ k} h₁ h₂ := by
    rcases mem_kick_pending h₁ with h₁ | ⟨hk₁, rfl⟩
    · rcases mem_kick_pending h₂ with h₂ | ⟨hk₂, -⟩
      · exact hi.pend_inj h₁ h₂
      · exact absurd (hi.pend_lt h₁) (by omega)
    · rcases mem_kick_pending h₂ with h₂ | ⟨-, rfl⟩
      · exact absurd (hi.pend_lt h₂) (by omega)
      · rfl
  held_lt hh hmem := Nat.lt_succ_of_lt (hi.held_lt hh hmem)
  held_pend hh hmem hp := by
    rcases mem_kick_pending hp with hp | ⟨hk, -⟩
    · exact hi.held_pend hh hmem hp
    · exact absurd (hi.held_lt hh hmem) (by omega)
  owner {r k fd'} hmem hp := by
    rcases mem_kick_pending hp with hp | ⟨hk, rfl⟩
    · rcases mem_kick_kicks hmem with hmem | ⟨hk, -⟩
      · exact hi.owner hmem hp
      · exact absurd (hi.pend_lt hp) (by omega)
    · rcases mem_kick_kicks hmem with hmem | ⟨-, v, hv, hvk, -⟩
      · exact absurd (hi.made_lt hmem) (by omega)
      · exact hi.kick_mem ⟨v, hv, hvk⟩

theorem noKickLost_kick (hl : NoKickLost s) (fd : File) : NoKickLost (s.kick fd) := by
  intro r k hmem
  rcases mem_kick_kicks hmem with hmem | ⟨rfl, -⟩
  · rcases hl r k hmem with ⟨fd', hp⟩ | hheld | hcall
    · exact .inl ⟨fd', mem_pending_kick hp⟩
    · exact .inr (.inl hheld)
    · exact .inr (.inr hcall)
  · exact .inl ⟨fd, by simp [kick]⟩

/-! Steps of a worker that hold no kick before and read none. -/

theorem holding_setWorker {t t' : Nat} {w : WorkerState} {x : UInt16 × List Nat}
    (hh : ((s.setWorker t w).workers t').holding = some x) :
    (t' = t ∧ w.holding = some x) ∨ (t' ≠ t ∧ (s.workers t').holding = some x) := by
  rw [workers_setWorker] at hh
  split at hh
  · rename_i ht
    exact .inl ⟨ht, hh⟩
  · rename_i ht
    exact .inr ⟨ht, hh⟩

/-- What the other workers hold stays held. -/
theorem holding_setWorker_of_none {t t' : Nat} {w : WorkerState} {x : UInt16 × List Nat}
    (hnone : (s.workers t).holding = none) (hh : (s.workers t').holding = some x) :
    ((s.setWorker t w).workers t').holding = some x := by
  have ht : t' ≠ t := by
    rintro rfl
    rw [hnone] at hh
    cases hh
  rw [workers_setWorker, if_neg ht]
  exact hh

theorem kickInv_setWorker (hi : KickInv s) {t : Nat} {w : WorkerState}
    (hempty : ∀ ev ks, w.holding = some (ev, ks) → ks = []) : KickInv (s.setWorker t w) where
  disjoint := hi.disjoint
  kick_mem := hi.kick_mem
  made_lt := hi.made_lt
  pend_lt := hi.pend_lt
  pend_inj := hi.pend_inj
  held_lt hh hmem := by
    rcases holding_setWorker hh with ⟨-, hw⟩ | ⟨-, hh⟩
    · rw [hempty _ _ hw] at hmem
      simp at hmem
    · exact hi.held_lt hh hmem
  held_pend hh hmem := by
    rcases holding_setWorker hh with ⟨-, hw⟩ | ⟨-, hh⟩
    · rw [hempty _ _ hw] at hmem
      simp at hmem
    · exact hi.held_pend hh hmem
  owner := hi.owner

theorem noKickLost_setWorker (hl : NoKickLost s) {t : Nat} {w : WorkerState}
    (hnone : (s.workers t).holding = none) : NoKickLost (s.setWorker t w) := by
  intro r k hmem
  rcases hl r k hmem with hp | ⟨t', ev, ks, hh, hring, hk⟩ | hcall
  · exact .inl hp
  · exact .inr (.inl ⟨t', ev, ks, holding_setWorker_of_none hnone hh, hring, hk⟩)
  · exact .inr (.inr hcall)

/-! Reading a kick. -/

section Read
variable {t r : Nat} {ev : UInt16} {rest : List UInt16} {fd : File} {v : VringState}

/-- The state after a read of `fd` for ring `r`. -/
def afterRead (s : Sys B M) (t : Nat) (ev : UInt16) (rest : List UInt16) (fd : File) (enabled : Bool) : Sys B M :=
  { s with pending := Function.update s.pending fd [] }.setWorker t
    ⟨rest, if enabled then some (ev, s.pending fd) else none, false⟩

theorem mem_afterRead {enabled : Bool} {fd' : File} {k : Nat}
    (hmem : k ∈ (s.afterRead t ev rest fd enabled).pending fd') : fd' ≠ fd ∧ k ∈ s.pending fd' := by
  simp only [afterRead, setWorker, Function.update_apply] at hmem
  split at hmem
  · simp at hmem
  · rename_i hne
    exact ⟨hne, hmem⟩

theorem kickInv_afterRead (hi : KickInv s) (enabled : Bool) : KickInv (s.afterRead t ev rest fd enabled) where
  disjoint := hi.disjoint
  kick_mem := hi.kick_mem
  made_lt := hi.made_lt
  pend_lt hmem := hi.pend_lt (mem_afterRead hmem).2
  pend_inj h₁ h₂ := hi.pend_inj (mem_afterRead h₁).2 (mem_afterRead h₂).2
  held_lt {t' ev' ks k} hh hmem := by
    rcases holding_setWorker hh with ⟨-, hw⟩ | ⟨-, hh⟩
    · cases enabled with
      | false => cases hw
      | true =>
        cases hw
        exact hi.pend_lt hmem
    · exact hi.held_lt hh hmem
  held_pend {t' ev' ks k fd'} hh hmem hp := by
    obtain ⟨hne, hold⟩ := mem_afterRead hp
    rcases holding_setWorker hh with ⟨-, hw⟩ | ⟨-, hh⟩
    · cases enabled with
      | false => cases hw
      | true =>
        cases hw
        exact hne (hi.pend_inj hold hmem)
    · exact hi.held_pend hh hmem hold
  owner hk hp := hi.owner hk (mem_afterRead hp).2

/-- The kicks read are held when the ring is enabled, and lost otherwise unless served before. -/
theorem noKickLost_afterRead_iff (hi : KickInv s) (hl : NoKickLost s) (hnone : (s.workers t).holding = none)
    (hring : s.ringOf t ev = some r) (hkick : s.handler.Kick r fd) (enabled : Bool) :
    NoKickLost (s.afterRead t ev rest fd enabled) ↔
      enabled = true ∨ ∀ k ∈ s.pending fd, k ∈ s.kicks r → k < s.lastCall r := by
  constructor
  · intro hl'
    by_contra hno
    simp only [not_or, not_forall, Bool.not_eq_true] at hno
    obtain ⟨rfl, k, hp, hk, hcall⟩ := hno
    rcases hl' r k hk with ⟨fd', hp'⟩ | ⟨t', ev', ks, hh, -, hmem⟩ | hcall'
    · obtain ⟨hne, hp'⟩ := mem_afterRead hp'
      exact hne (hi.pend_inj hp' hp)
    · rcases holding_setWorker hh with ⟨-, hw⟩ | ⟨-, hh⟩
      · cases hw
      · exact hi.held_pend hh hmem hp
    · exact hcall hcall'
  · intro hc r' k hk
    rcases hl r' k hk with ⟨fd', hp⟩ | ⟨t', ev', ks, hh, hring', hmem⟩ | hcall
    · by_cases hfd : fd' = fd
      · subst hfd
        obtain rfl : r' = r := hi.disjoint (hi.owner hk hp) (hi.kick_mem hkick)
        rcases hc with rfl | hserved
        · refine .inr (.inl ⟨t, ev, s.pending fd', ?_, hring, hp⟩)
          rw [afterRead, workers_setWorker, if_pos rfl]
          rfl
        · exact .inr (.inr (hserved k hp hk))
      · refine .inl ⟨fd', ?_⟩
        simp only [afterRead, setWorker, Function.update_apply, if_neg hfd]
        exact hp
    · exact .inr (.inl ⟨t', ev', ks, holding_setWorker_of_none hnone hh, hring', hmem⟩)
    · exact .inr (.inr hcall)

end Read

theorem kickInv_dispatch (hi : KickInv s) (t : Nat) (ok : Bool) : KickInv (s.dispatch t ok) := by
  rcases dispatch_cases s t ok with heq | ⟨events, ev, kicks, lastCall, -, -, heq⟩
  · rw [heq]
    exact hi
  · rw [heq]
    have hw := kickInv_setWorker (t := t) (w := ⟨if ok then events else [], none, !ok⟩) hi (by simp)
    exact ⟨hw.disjoint, hw.kick_mem, hw.made_lt, hw.pend_lt, hw.pend_inj, hw.held_lt, hw.held_pend, hw.owner⟩

/-- The call serves every kick of its ring made so far. -/
theorem noKickLost_dispatch (hi : KickInv s) (hl : NoKickLost s) (t : Nat) (ok : Bool) :
    NoKickLost (s.dispatch t ok) := by
  rcases dispatch_cases s t ok with heq | ⟨events, ev, kicks, lastCall, hw, hlast, heq⟩
  · rw [heq]
    exact hl
  · rw [heq]
    intro r k hk
    by_cases hring : s.ringOf t ev = some r
    · -- the event is one of this ring, so the call it leads to comes after every kick made so far
      refine .inr (.inr ?_)
      simp only [hlast, hring, Function.update_self]
      exact hi.made_lt hk
    · rcases hl r k hk with hp | ⟨t', ev', ks, hh, hring', hmem⟩ | hcall
      · exact .inl hp
      · have ht : t' ≠ t := by
          rintro rfl
          rw [hw] at hh
          cases hh
          exact hring hring'
        refine .inr (.inl ⟨t', ev', ks, ?_, hring', hmem⟩)
        rw [workers_setWorker, if_neg ht]
        exact hh
      · refine .inr (.inr ?_)
        cases hr : s.ringOf t ev with
        | none =>
          simp only [hlast, hr]
          exact hcall
        | some r' =>
          have hne : r ≠ r' := fun he => hring (by rw [hr, he])
          simp only [hlast, hr, Function.update_of_ne hne]
          exact hcall

theorem kickInv_handleEvent (hi : KickInv s) (t : Nat) : KickInv (s.handleEvent nonblock t) := by
  have hh := handled nonblock s t
  generalize s.handleEvent nonblock t = s' at hh ⊢
  cases hh with
  | unchanged => exact hi
  | stop hnone => exact kickInv_setWorker hi (by simp)
  | listener hw hring => exact kickInv_setWorker hi (by simp)
  | @read ev rest r v enabled kicks pending hw hn hring hv hread =>
    obtain ⟨-, ⟨-, rfl, rfl⟩ | ⟨fd, -, rfl, rfl⟩⟩ := readKick_ok hread
    · exact kickInv_setWorker hi (by cases enabled <;> simp)
    · exact kickInv_afterRead hi enabled

theorem noKickLost_handleEvent_iff (hi : KickInv s) (hl : NoKickLost s) (t : Nat) :
    NoKickLost (s.handleEvent nonblock t) ↔ ReadsEnabled s (.handleEvent t) := by
  constructor
  · intro hl' ev r v fd hn hv hk
    obtain ⟨hnone, -, hring⟩ := nextRead_spec hn
    by_cases hp : s.pending fd = []
    · exact .inr fun k hmem => by simp [hp] at hmem
    · obtain ⟨rest, heq⟩ := @handleEvent_read B M nonblock s t r ev v fd hn hv hk hp
      rw [heq] at hl'
      exact (noKickLost_afterRead_iff hi hl hnone hring ⟨v, hv, hk⟩ v.enabled).1 hl'
  · intro hc
    have hh := handled nonblock s t
    generalize s.handleEvent nonblock t = s' at hh ⊢
    cases hh with
    | unchanged => exact hl
    | stop hnone => exact noKickLost_setWorker hl hnone
    | listener hw hring => exact noKickLost_setWorker hl (by rw [hw])
    | @read ev rest r v enabled kicks pending hw hn hring hv hread =>
      obtain ⟨rfl, ⟨-, rfl, rfl⟩ | ⟨fd, hk, rfl, rfl⟩⟩ := readKick_ok hread
      · exact noKickLost_setWorker hl (by rw [hw])
      · exact (noKickLost_afterRead_iff hi hl (by rw [hw]) hring ⟨v, hv, hk⟩ v.enabled).2
          (hc ev r v fd hn hv hk)

/-- One step, from a state where no kick is lost. -/
theorem noKickLost_step_iff (hi : KickInv s) (hl : NoKickLost s) {a : Action} (hf : FreshKick s a) :
    KickInv (step d nonblock s a) ∧ (NoKickLost (step d nonblock s a) ↔ ReadsEnabled s a) := by
  cases a with
  | request r =>
    rcases request_cases d s r with heq | ⟨-, heq⟩
    · simp only [step, heq]
      exact ⟨hi, iff_of_true hl trivial⟩
    · simp only [step, heq]
      exact ⟨⟨hi.disjoint, hi.kick_mem, hi.made_lt, hi.pend_lt, hi.pend_inj, hi.held_lt, hi.held_pend, hi.owner⟩,
        iff_of_true hl trivial⟩
  | control =>
    refine ⟨kickInv_control hi hf, iff_of_true ?_ trivial⟩
    rcases control_cases d s with heq | ⟨m, ms, -, hh, hp, hw, -, hkicks, hcall, -⟩
    · simp only [step, heq]
      exact hl
    · intro r k hk
      simp only [step, hkicks] at hk
      simp only [step, hp, hw, hcall, ringOf, hh, VhostUserHandler.layout_exec]
      exact hl r k hk
  | kick fd => exact ⟨kickInv_kick hi fd, iff_of_true (noKickLost_kick hl fd) trivial⟩
  | wait t events =>
    rcases wait_cases s t events with heq | ⟨hw, -, heq⟩
    · simp only [step, heq]
      exact ⟨hi, iff_of_true hl trivial⟩
    · simp only [step, heq]
      exact ⟨kickInv_setWorker hi (by simp), iff_of_true (noKickLost_setWorker hl (by rw [hw])) trivial⟩
  | handleEvent t => exact ⟨kickInv_handleEvent hi t, noKickLost_handleEvent_iff hi hl t⟩
  | dispatch t ok => exact ⟨kickInv_dispatch hi t ok, iff_of_true (noKickLost_dispatch hi hl t ok) trivial⟩

/-- The order of steps that keeps kicks: a ring is disabled only while none of its events is in
flight, and events of disabled rings are not taken. -/
def DisablesIdle (s : Sys B M) : Action → Prop
  | .wait t events => ∀ p ∈ events, ∀ r, s.ringOf t p.2.toUInt16 = some r → Enabled s.handler r
  | .control => ∀ r ms, s.todo = .setEnabled r false :: ms → ¬ s.InFlight r
  | _ => True

theorem readsEnabled_of_disablesIdle (h : VhostUserHandler B M) {as : List Action}
    (hc : Along (step d nonblock) DisablesIdle (init h) as) :
    Along (step d nonblock) ReadsEnabled (init h) as := by
  refine along_of_along (I := Flights Enabled) (fun s a hi hc => ?_) (fun s a hi _ => ?_) as (init h)
    (flights_init h) hc
  · refine flights_step hi (fun t events ha => by subst ha; exact hc) fun ha m ms htodo r hflight he => ?_
    subst ha
    rcases enabled_exec_of_enabled (d := d) (m := m) he with he | hm
    · exact he
    · exact absurd hflight (hc r ms (by rw [htodo, hm]))
  · cases a with
    | handleEvent t =>
      intro ev r v fd hn hv hk
      obtain ⟨-, hmem, hring⟩ := nextRead_spec hn
      obtain ⟨v', hv', hen⟩ := hi r ⟨t, ev, hmem, hring⟩
      rw [hv] at hv'
      cases hv'
      exact .inl hen
    | _ => trivial

theorem visits_noKickLost_iff {h : VhostUserHandler B M} {b : B} {mem : M} {heap : LogHeap} {n : Nat}
    (hnew : VhostUserHandler.new d b mem heap n = some h) (as : List Action)
    (hf : Along (step d nonblock) FreshKick (init h) as) :
    Visits (step d nonblock) NoKickLost (init h) as ↔ Along (step d nonblock) ReadsEnabled (init h) as := by
  have hk := VhostUserHandler.known_new hnew
  have hi : KickInv (init h) := by
    refine ⟨?_, hk.kick_mem, ?_, ?_, ?_, ?_, ?_, ?_⟩ <;> simp [init]
  exact visits_iff_along (J := KickInv) (P := NoKickLost) (F := FreshKick)
    (fun s a hi hl hf _ => (@noKickLost_step_iff B M d nonblock s hi hl a hf).1)
    (fun s a hi hl hf => (@noKickLost_step_iff B M d nonblock s hi hl a hf).2) as (init h) hi
    (by intro r k hmem; simp [init] at hmem) hf

/-- **No kick is lost along a run exactly when** no `read_kick` is evaluated for a disabled ring that
has an unserved kick in its counter; so none is lost when rings are disabled only while none of
their events is in flight and no event of a disabled ring is taken. -/
theorem no_kick_lost_iff {h : VhostUserHandler B M} {b : B} {mem : M} {heap : LogHeap} {n : Nat}
    (hnew : VhostUserHandler.new d b mem heap n = some h) (as : List Action)
    (hf : Along (step d nonblock) FreshKick (init h) as) :
    (Visits (step d nonblock) NoKickLost (init h) as ↔ Along (step d nonblock) ReadsEnabled (init h) as) ∧
      (Along (step d nonblock) DisablesIdle (init h) as → Visits (step d nonblock) NoKickLost (init h) as) :=
  ⟨visits_noKickLost_iff hnew as hf,
    fun hc => (visits_noKickLost_iff hnew as hf).2 (readsEnabled_of_disablesIdle h hc)⟩

/-! ## Runs of the one-ring device

The frontend negotiates `PROTOCOL_FEATURES`, starts ring 0 with descriptor 5 and enables it; the
guest kicks, and the worker takes the event. -/

def takeRun : List Action :=
  [.request (.setFeatures VhostUserVirtioFeatures.PROTOCOL_FEATURES), .control, .control, .control,
    .request (.setVringKick 0 (some 5)), .control, .control, .control, .control,
    .request (.setVringEnable 0 true), .control, .control, .kick 5, .wait 0 [(5, 0)]]

abbrev plainStep : Sys Unit (List GuestRegionMmap) → Action → Sys Unit (List GuestRegionMmap) :=
  step (plainDeps true) fun _ => true

/-- The next step of the control thread gives a ring a descriptor. -/
def givesFile (s : Sys B M) : Bool :=
  match s.todo with
  | .setKick _ (some _) :: _ => true
  | _ => false

theorem freshKick_of_not_givesFile (hg : s.givesFile = false) : FreshKick s .control := by
  intro i f ms htodo
  simp [givesFile, htodo] at hg

theorem freshKick_takeRun (as : List Action)
    (has : Along plainStep FreshKick (run plainStep (init plainHandler) takeRun) as) :
    Along plainStep FreshKick (init plainHandler) (takeRun ++ as) := by
  refine along_append.2 ⟨?_, has⟩
  refine ⟨trivial, ?_, ?_, ?_, trivial, ?_, ?_, ?_, ?_, trivial, ?_, ?_, trivial, trivial, trivial⟩
  case refine_4 => exact fun i f ms _ j => List.not_mem_nil
  all_goals exact freshKick_of_not_givesFile (by decide)

/-- The event is handled while the ring is enabled. -/
theorem no_kick_lost_served :
    Visits plainStep NoKickLost (init plainHandler) (takeRun ++ [.handleEvent 0, .dispatch 0 true]) := by
  have hfresh : Along plainStep FreshKick (init plainHandler) (takeRun ++ [.handleEvent 0, .dispatch 0 true]) :=
    freshKick_takeRun [.handleEvent 0, .dispatch 0 true] ⟨trivial, trivial, trivial⟩
  have htaken : Along plainStep ReadsEnabled (init plainHandler) takeRun :=
    ⟨trivial, trivial, trivial, trivial, trivial, trivial, trivial, trivial, trivial, trivial, trivial,
      trivial, trivial, trivial, trivial⟩
  have hread : ReadsEnabled (run plainStep (init plainHandler) takeRun) (.handleEvent 0) := by
    intro ev r v fd hn hv _
    have hn' : (run plainStep (init plainHandler) takeRun).nextRead 0 = some (0, 0) := by decide
    have hen : ∀ v ∈ (run plainStep (init plainHandler) takeRun).handler.vrings[0]?, v.enabled = true := by decide
    obtain ⟨rfl, rfl⟩ : 0 = ev ∧ 0 = r := by simpa using hn'.symm.trans hn
    exact .inl (hen v hv)
  exact (no_kick_lost_iff (new_plainHandler true) _ hfresh).1.2 (along_append.2 ⟨htaken, hread, trivial, trivial⟩)

/-- The ring is disabled between the `epoll_wait` and the `read_kick`: the kick is consumed and the
backend is not called. -/
theorem kick_lost_disable_in_flight :
    Along plainStep FreshKick (init plainHandler)
      (takeRun ++ [.request (.setVringEnable 0 false), .control, .handleEvent 0]) ∧
    ¬ Visits plainStep NoKickLost (init plainHandler)
      (takeRun ++ [.request (.setVringEnable 0 false), .control, .handleEvent 0]) := by
  have hfresh : Along plainStep FreshKick (init plainHandler)
      (takeRun ++ [.request (.setVringEnable 0 false), .control, .handleEvent 0]) :=
    freshKick_takeRun [.request (.setVringEnable 0 false), .control, .handleEvent 0]
      ⟨trivial, freshKick_of_not_givesFile (by decide), trivial, trivial⟩
  refine ⟨hfresh, fun hv => ?_⟩
  have hread := (along_append.1 ((visits_noKickLost_iff (new_plainHandler true) _ hfresh).1 hv)).2.2.2.1
  have hbad := hread 0 0 ⟨⟨256, 256, true, 0, 0, false, 0, 0, 0⟩, some 5, none, none, false⟩ 5
    (by decide) (by decide) rfl
  exact absurd hbad (by decide)

/-- The next step of the control thread stops a ring or enables one that is not started. -/
def unsettles (s : Sys B M) : Bool :=
  match s.todo with
  | .setQueueReady _ false :: _ => true
  | .setEnabled r true :: _ => !decide (Ready s.handler r)
  | _ => false

theorem stopsIdle_of_not_unsettles (hu : s.unsettles = false) : StopsIdle s .control := by
  intro m ms htodo
  refine ⟨fun r hm => ?_, fun r hm hno => ?_⟩
  · simp [unsettles, htodo, hm] at hu
  · simp [unsettles, htodo, hm, hno] at hu

/-- The event is handled, and the backend called, while the ring runs. -/
theorem calls_running_served :
    Along plainStep (CallsRunning fun _ => true) (init plainHandler)
      (takeRun ++ [.handleEvent 0, .dispatch 0 true]) ∧
    ((run plainStep (init plainHandler) (takeRun ++ [.handleEvent 0])).workers 0).holding = some (0, [0]) := by
  refine ⟨calls_running_of_stopsIdle _ _ _ _ (along_append.2 ⟨?_, trivial, trivial, trivial⟩), by decide⟩
  refine ⟨trivial, ?_, ?_, ?_, trivial, ?_, ?_, ?_, ?_, trivial, ?_, ?_, trivial, ?_, trivial⟩
  case refine_10 =>
    intro p hp r hring _
    obtain rfl := List.mem_singleton.1 hp
    have hring' : (run plainStep (init plainHandler) (takeRun.take 13)).ringOf 0 0 = some 0 := by decide
    obtain rfl : 0 = r := by simpa using hring'.symm.trans hring
    exact (by decide : Ready (run plainStep (init plainHandler) (takeRun.take 13)).handler 0)
  all_goals exact stopsIdle_of_not_unsettles (by decide)

/-- The ring is stopped between the `epoll_wait` and the `read_kick`: `read_kick` still answers
`true`, and the backend is called for a stopped ring. -/
theorem calls_stopped_in_flight :
    ¬ Along plainStep (CallsRunning fun _ => true) (init plainHandler)
      (takeRun ++ [.request (.getVringBase 0), .control, .handleEvent 0]) := by
  intro hv
  have hcall := (along_append.1 hv).2.2.2.1
  have hruns := hcall 0 [0] 0 (by decide) (by decide) (by decide)
  exact absurd hruns (by decide)

end Sys

end VhostUser
