import VhostUser.Lib.Progress
import VhostUser.Interleaving
import VhostUser.Routing
/-!
# How the workers stop

`VhostUserHandler` sends every worker its exit event and joins the threads (`handler.rs:174-179`, `:802-813`); a
worker ends its loop when it comes to the event (`event_loop.rs:199-202`). The event stays pending, for nobody
reads it, so the worker finds it in its next batch at the latest, behind at most 99 others. It stops on every run
that lets it go on, whatever the control thread, the guest and the other workers do (`exit_events_stop_workers`).

What is asked of the surroundings (`Calm`): the frontend does not hand in the descriptor of an exit event, which
it cannot have, and no worker has more descriptors registered than one `epoll_wait` returns.
-/
namespace VhostUser
open Progress

namespace VhostUserHandler
variable {B M : Type} {d : Deps B M} {h : VhostUserHandler B M}

/-! ## The exit event stays registered -/

/-- Worker `t` waits for the exit event `x`, reads rings that exist, and no ring has `x` as its kick descriptor. -/
structure Awaits (h : VhostUserHandler B M) (t : Nat) (rings : List Nat) (x : File) : Prop where
  layout : h.layout[t]? = some (rings, some x)
  rings : ∀ r ∈ rings, (h.vrings[r]?).isSome = true
  worker : ∃ w, h.handlers[t]? = some w ∧ w.epoll.Nodup ∧ (x, UInt64.ofNat h.numQueues) ∈ w.epoll
  spared : ∀ i, ¬h.Kick i x

theorem nodup_registerEvent {w w' : VringEpollHandler} {fd : File} {data : UInt64}
    (hr : w.registerEvent fd data = .ok w') (hw : w.epoll.Nodup) : w'.epoll.Nodup ∧ ∀ p ∈ w.epoll, p ∈ w'.epoll := by
  by_cases hh : w.epoll.Has fd
  · simp [VringEpollHandler.registerEvent, Epoll.add, hh] at hr
  · simp only [VringEpollHandler.registerEvent, Epoll.add, if_neg hh] at hr
    cases hr
    refine ⟨List.nodup_append.2 ⟨hw, List.nodup_singleton _, fun p hp q hq => ?_⟩, fun p hp => List.mem_append_left _ hp⟩
    cases List.mem_singleton.1 hq
    rintro rfl
    exact hh ⟨data, hp⟩

theorem nodup_unregisterEvent {w w' : VringEpollHandler} {fd : File} (hr : w.unregisterEvent fd = .ok w')
    (hw : w.epoll.Nodup) : w'.epoll.Nodup ∧ ∀ p ∈ w.epoll, p.1 ≠ fd → p ∈ w'.epoll := by
  by_cases hh : w.epoll.Has fd
  · simp only [VringEpollHandler.unregisterEvent, Epoll.delete, if_pos hh] at hr
    cases hr
    exact ⟨hw.filter _, fun p hp hne => List.mem_filter.2 ⟨hp, by simpa using hne⟩⟩
  · simp [VringEpollHandler.unregisterEvent, Epoll.delete, hh] at hr

/-- A refresh of a registration is about a kick descriptor. -/
theorem Awaits.updateVringRegistration {t : Nat} {rings : List Nat} {x : File} (ha : h.Awaits t rings x) (i : Nat)
    (index : UInt8) : ∃ w, (h.updateVringRegistration i index).2.handlers[t]? = some w ∧ w.epoll.Nodup ∧
      (x, UInt64.ofNat h.numQueues) ∈ w.epoll := by
  obtain ⟨w, hw, hnodup, hmem⟩ := ha.worker
  obtain hsame | ⟨fd, t', e, w₁, w', hk, -, hw₁, hr, hset⟩ := h.updateVringRegistration_cases i index
  · rw [hsame]
    exact ⟨w, hw, hnodup, hmem⟩
  · rw [hset]
    by_cases htt : t' = t
    · subst htt
      cases hw₁.symm.trans hw
      refine ⟨w', List.getElem?_set_self (List.getElem?_eq_some_iff.1 hw).1, ?_⟩
      obtain hr | hr := hr
      · obtain ⟨hnodup', hkeep⟩ := nodup_registerEvent hr hnodup
        exact ⟨hnodup', hkeep _ hmem⟩
      · obtain ⟨hnodup', hkeep⟩ := nodup_unregisterEvent hr hnodup
        refine ⟨hnodup', hkeep _ hmem ?_⟩
        rintro rfl
        exact ha.spared i hk
    · exact ⟨w, (List.getElem?_set_ne htt).trans hw, hnodup, hmem⟩

theorem Awaits.exec {t : Nat} {rings : List Nat} {x : File} (ha : h.Awaits t rings x) {m : Micro}
    (hm : ∀ i, m ≠ .setKick i (some x)) : (h.exec d m).2.Awaits t rings x where
  layout := by
    rw [layout_exec]
    exact ha.layout
  rings r hr := by
    rw [vrings_exec, Option.isSome_map]
    exact ha.rings r hr
  worker := by
    rw [(fixed_exec m).1]
    cases m with
    | updateVringRegistration i index =>
      rw [exec_updateVringRegistration]
      exact ha.updateVringRegistration i index
    | _ => exact ha.worker
  spared i hk := by
    obtain hold | hnew := Sys.kick_exec hk
    · exact ha.spared i hold
    · exact hm i hnew

/-- Only `set_vring_kick` gives a ring a kick descriptor. -/
theorem setKick_mem_program {r : RingRequest} {i : Nat} {fd : File}
    (hm : Micro.setKick i (some fd) ∈ h.program d r) : ∃ index, r = .setVringKick index (some fd) := by
  have hnone (enabled : Bool) (is : List Nat) : Micro.setKick i (some fd) ∉ enableProgram enabled is := by
    intro hmem
    obtain ⟨j, -, hmem⟩ := List.mem_flatMap.1 hmem
    simp at hmem
  cases r with
  | setFeatures features =>
    simp only [program] at hm
    split at hm
    · cases hm
    · simp only [List.mem_cons, List.mem_append, List.mem_map, List.not_mem_nil, or_false, reduceCtorEq, and_false,
        exists_false, false_or] at hm
      split at hm
      · exact absurd hm (hnone true _)
      · cases hm
  | setVringKick index file =>
    simp only [program] at hm
    split at hm
    · simp only [List.mem_cons, List.not_mem_nil, or_false, reduceCtorEq, Micro.setKick.injEq] at hm
      exact ⟨index, by rw [hm.2]⟩
    · cases hm
  | setVringCall index file | getVringBase index =>
    simp only [program] at hm
    split at hm
    · simp at hm
    · cases hm
  | setVringEnable index enable =>
    simp only [program] at hm
    split at hm
    · cases hm
    · split at hm
      · simp at hm
      · cases hm
  | resetDevice =>
    simp only [program, List.mem_append, List.mem_singleton, reduceCtorEq, or_false] at hm
    exact absurd hm (hnone false _)
  | resetOwner => simp [program] at hm

/-- No step of a request gives a ring a kick descriptor behind its back. -/
theorem setKick_mem_control {ms : List Micro} {i : Nat} {fd : File}
    (hm : Micro.setKick i (some fd) ∈ (control d (h, ms)).2) : Micro.setKick i (some fd) ∈ ms := by
  cases ms with
  | nil => exact hm
  | cons m ms =>
    simp only [control] at hm
    split at hm
    · rename_i more h' he
      obtain hnew | hold := List.mem_append.1 hm
      · cases m with
        | vringNeedsInit j index =>
          simp only [exec, Prod.mk.injEq, Except.ok.injEq] at he
          rw [← he.1] at hnew
          split at hnew
          · simp at hnew
          · cases hnew
        | updateVringRegistration j index =>
          simp only [exec] at he
          split at he <;> cases he
          cases hnew
        | _ =>
          cases he
          cases hnew
      · exact List.mem_cons_of_mem _ hold
    · cases hm

/-- Before the first request no ring has a kick descriptor, and the exit events are registered. -/
theorem awaits_new {b : B} {mem : M} {heap : LogHeap} {n t : Nat} {rings : List Nat} {x : File}
    (hnew : new d b mem heap n = some h) (hlay : h.layout[t]? = some (rings, some x)) : h.Awaits t rings x := by
  have hspared (i : Nat) : ¬h.Kick i x := fun hk => by
    have hmem := (known_new hnew).kick_mem hk
    cases hmem
  have hlen := length_new hnew
  have hget := hlay
  obtain ⟨vrings, -, rfl⟩ := new_eq hnew
  rw [layout, List.getElem?_map] at hget
  obtain ⟨w, hw, heq⟩ := Option.map_eq_some_iff.1 hget
  have hw' := hw
  simp only [newHandlers, List.getElem?_map, Option.map_eq_some_iff] at hw'
  obtain ⟨⟨mask, threadId⟩, -, rfl⟩ := hw'
  cases hexit : d.backend.exitEvent threadId b with
  | none =>
    rw [hexit] at heq
    cases heq
  | some consumer =>
    rw [hexit] at heq hw
    cases heq
    refine ⟨hlay, fun r hr => ?_, ⟨_, hw, List.nodup_singleton _, List.mem_singleton_self _⟩, hspared⟩
    have hr' := List.mem_range.1 (List.mem_filter.1 hr).1
    rw [List.getElem?_eq_getElem (hlen ▸ hr')]
    rfl

end VhostUserHandler

/-! ## The way of a worker to its exit event -/

namespace WorkerState
variable {w : WorkerState} {e ev : UInt16} {rest : List UInt16}

/-- Events up to `e`, were a batch without it followed by one that has it. -/
def ahead (e : UInt16) (events : List UInt16) : Nat :=
  if e ∈ events then events.idxOf e + 1 else events.length + Sys.EPOLL_EVENTS_LEN + 2

/-- An upper bound for the moves the worker still has when `e` is its exit event. -/
def rank (e : UInt16) (w : WorkerState) : Nat :=
  if w.stopped then 0 else (if w.holding.isSome then 1 else 0) + 2 * ahead e w.events

theorem ahead_cons (hne : ev ≠ e) : ahead e (ev :: rest) = ahead e rest + 1 := by
  by_cases hmem : e ∈ rest
  · rw [ahead, ahead, if_pos hmem, if_pos (List.mem_cons_of_mem _ hmem), List.idxOf_cons_ne _ hne]
  · rw [ahead, ahead, if_neg hmem, if_neg (by simp [hmem, Ne.symm hne]), List.length_cons]
    omega

theorem ahead_pos (e : UInt16) (events : List UInt16) : 0 < ahead e events := by
  unfold ahead
  split <;> omega

theorem rank_le (e : UInt16) (w : WorkerState) : w.rank e ≤ 2 * (w.events.length + Sys.EPOLL_EVENTS_LEN + 2) + 1 := by
  have hidx := w.events.idxOf_le_length (a := e)
  unfold rank ahead
  split
  · omega
  · split <;> split <;> omega

theorem rank_eq_zero : w.rank e = 0 ↔ w.stopped = true := by
  have hpos := ahead_pos e w.events
  unfold rank
  split
  · rename_i hstopped
    exact iff_of_true rfl hstopped
  · rename_i hstopped
    exact iff_of_false (by omega) hstopped

end WorkerState

/-- A step of worker `t`. -/
def Action.ofWorker (t : Nat) : Action → Bool
  | .wait t' _ | .handleEvent t' | .dispatch t' _ => t' == t
  | .request _ | .control | .kick _ => false

theorem ofWorker_unique {a : Action} {t t' : Nat} (h : a.ofWorker t = true) (h' : a.ofWorker t' = true) : t = t' := by
  cases a with
  | wait t₁ events | handleEvent t₁ | dispatch t₁ ok =>
    simp only [Action.ofWorker, beq_iff_eq] at h h'
    exact h.symm.trans h'
  | _ => cases h

/-- The step is no `set_vring_kick` with the descriptor `x`. -/
def Action.Spares (x : File) (a : Action) : Prop := ∀ index, a ≠ .request (.setVringKick index (some x))

namespace Sys
variable {B M : Type} {d : Deps B M} {nonblock : File → Bool} {s s' : Sys B M} {t t' : Nat} {rings : List Nat}
  {x : File} {a : Action}

/-- `send_exit_event` of the handler: one write for every worker that has an exit event. -/
def sendExitEvent (s : Sys B M) : Sys B M :=
  s.handler.handlers.foldl (fun s w => match w.exitEventFd with
    | some fd => s.kick fd
    | none => s) s

/-- A step of the threads, in which a worker moves if it is its turn. -/
structure Turn (d : Deps B M) (nonblock : File → Bool) (s : Sys B M) (a : Action) (s' : Sys B M) : Prop where
  step : s' = s.step d nonblock a
  moves : ∀ t, a.ofWorker t = true → s'.workers t ≠ s.workers t
  /-- one `epoll_wait` returns all that is ready -/
  room : ∀ w ∈ s.handler.handlers, w.epoll.length ≤ EPOLL_EVENTS_LEN

/-- A step that leaves the descriptors of the exit events alone. -/
structure Calm (d : Deps B M) (nonblock : File → Bool) (s : Sys B M) (a : Action) (s' : Sys B M) : Prop extends
    Turn d nonblock s a s' where
  spares : ∀ (t : Nat) (rings : List Nat) (x : File), s.handler.layout[t]? = some (rings, some x) → a.Spares x

/-! ### The exit event stays pending -/

/-- Worker `t` waits for `x`, which the control thread is not about to give to a ring. -/
structure Spared (t : Nat) (rings : List Nat) (x : File) (s : Sys B M) : Prop where
  awaits : s.handler.Awaits t rings x
  todo : ∀ i, Micro.setKick i (some x) ∉ s.todo

theorem Spared.congr (hs : s.Spared t rings x) (hh : s'.handler = s.handler) (ht : s'.todo = s.todo) :
    s'.Spared t rings x := by
  refine ⟨?_, ?_⟩
  · rw [hh]
    exact hs.awaits
  · rw [ht]
    exact hs.todo

/-- A step of a worker is about workers and counters. -/
theorem step_worker (ha : a.ofWorker t' = true) : (s.step d nonblock a).handler = s.handler ∧
    (s.step d nonblock a).todo = s.todo ∧ (∀ t, t ≠ t' → (s.step d nonblock a).workers t = s.workers t) ∧
    ∀ fd, (s.step d nonblock a).pending fd = s.pending fd ∨ ∃ i, s.handler.Kick i fd := by
  have hother {w : WorkerState} {s : Sys B M} (t : Nat) (hne : t ≠ t') : (s.setWorker t' w).workers t = s.workers t := by
    rw [workers_setWorker, if_neg hne]
  cases a with
  | request r => cases ha
  | control => cases ha
  | kick fd => cases ha
  | wait t₁ events =>
    obtain rfl : t₁ = t' := by simpa [Action.ofWorker] using ha
    obtain heq | ⟨-, -, heq⟩ := wait_cases s t₁ events
    · rw [step, heq]
      exact ⟨rfl, rfl, fun _ _ => rfl, fun _ => .inl rfl⟩
    · rw [step, heq]
      exact ⟨rfl, rfl, hother, fun _ => .inl rfl⟩
  | handleEvent t₁ =>
    obtain rfl : t₁ = t' := by simpa [Action.ofWorker] using ha
    have hcase := handled nonblock s t₁
    rw [step]
    generalize s.handleEvent nonblock t₁ = s' at hcase
    cases hcase with
    | unchanged => exact ⟨rfl, rfl, fun _ _ => rfl, fun _ => .inl rfl⟩
    | stop _ => exact ⟨rfl, rfl, hother, fun _ => .inl rfl⟩
    | listener _ _ => exact ⟨rfl, rfl, hother, fun _ => .inl rfl⟩
    | @read ev rest r v enabled kicks pending _ _ _ hv hread =>
      refine ⟨rfl, rfl, fun t hne => hother t hne, fun fd => ?_⟩
      obtain ⟨-, ⟨-, -, rfl⟩ | ⟨fd', hk, -, rfl⟩⟩ := readKick_ok hread
      · exact .inl rfl
      · by_cases hfd : fd = fd'
        · exact .inr ⟨r, v, hv, hfd ▸ hk⟩
        · exact .inl (Function.update_of_ne hfd _ _)
  | dispatch t₁ ok =>
    obtain rfl : t₁ = t' := by simpa [Action.ofWorker] using ha
    obtain heq | ⟨events, ev, kicks, lastCall, -, -, heq⟩ := dispatch_cases s t₁ ok
    · rw [step, heq]
      exact ⟨rfl, rfl, fun _ _ => rfl, fun _ => .inl rfl⟩
    · rw [step, heq]
      exact ⟨rfl, rfl, fun t hne => hother t hne, fun _ => .inl rfl⟩

/-- No step changes how many queues there are, and what the workers were made with. -/
theorem fixed_step (s : Sys B M) (a : Action) : (s.step d nonblock a).handler.numQueues = s.handler.numQueues ∧
    (s.step d nonblock a).handler.layout = s.handler.layout := by
  by_cases hown : ∃ t', a.ofWorker t' = true
  · obtain ⟨t', hown⟩ := hown
    rw [(step_worker hown).1]
    exact ⟨rfl, rfl⟩
  cases a with
  | request r =>
    obtain heq | ⟨-, heq⟩ := request_cases d s r
    · rw [step, heq]
      exact ⟨rfl, rfl⟩
    · rw [step, heq]
      exact ⟨rfl, rfl⟩
  | control =>
    obtain heq | ⟨m, ms, -, hh, -⟩ := control_cases d s
    · rw [step, heq]
      exact ⟨rfl, rfl⟩
    · obtain ⟨hnum, -, hlay⟩ := @VhostUserHandler.fixed_exec B M d s.handler m
      rw [step, hh]
      exact ⟨hnum, hlay⟩
  | kick fd => exact ⟨rfl, rfl⟩
  | wait t' events | handleEvent t' | dispatch t' ok => exact absurd ⟨t', beq_self_eq_true t'⟩ hown

theorem fixed_run (as : List Action) (s : Sys B M) :
    (Trace.run (step d nonblock) s as).handler.numQueues = s.handler.numQueues ∧
      (Trace.run (step d nonblock) s as).handler.layout = s.handler.layout := by
  induction as generalizing s with
  | nil => exact ⟨rfl, rfl⟩
  | cons a as ih =>
    obtain ⟨hnum, hlay⟩ := ih (s.step d nonblock a)
    obtain ⟨hnum', hlay'⟩ := @fixed_step B M d nonblock s a
    exact ⟨hnum.trans hnum', hlay.trans hlay'⟩

theorem Spared.step (hs : s.Spared t rings x) (ha : a.Spares x) : (s.step d nonblock a).Spared t rings x := by
  by_cases hown : ∃ t', a.ofWorker t' = true
  · obtain ⟨t', hown⟩ := hown
    obtain ⟨hh, ht, -⟩ := @step_worker B M d nonblock s t' a hown
    exact hs.congr hh ht
  cases a with
  | request r =>
    obtain heq | ⟨-, heq⟩ := request_cases d s r
    · rw [Sys.step, heq]
      exact hs
    · rw [Sys.step, heq]
      refine ⟨hs.awaits, fun i hmem => ?_⟩
      obtain ⟨index, rfl⟩ := VhostUserHandler.setKick_mem_program hmem
      exact ha index rfl
  | control =>
    obtain heq | ⟨m, ms, htodo, hh, -⟩ := control_cases d s
    · rw [Sys.step, heq]
      exact hs
    · refine ⟨?_, fun i hmem => hs.todo i (VhostUserHandler.setKick_mem_control hmem)⟩
      rw [Sys.step, hh]
      refine hs.awaits.exec fun i hm => hs.todo i ?_
      rw [htodo, hm]
      exact List.mem_cons_self
  | kick fd => exact hs.congr rfl rfl
  | wait t' events | handleEvent t' | dispatch t' ok => exact absurd ⟨t', beq_self_eq_true t'⟩ hown

theorem Spared.run {as : List Action} (hs : s.Spared t rings x) (has : ∀ a ∈ as, a.Spares x) :
    (Trace.run (Sys.step d nonblock) s as).Spared t rings x := by
  induction as generalizing s with
  | nil => exact hs
  | cons a as ih =>
    obtain ⟨ha, has⟩ := List.forall_mem_cons.1 has
    exact ih (hs.step ha) has

/-- Only a worker reads counters, those of kick descriptors. -/
theorem Spared.pending (hs : s.Spared t rings x) (hp : s.pending x ≠ []) : (s.step d nonblock a).pending x ≠ [] := by
  by_cases hown : ∃ t', a.ofWorker t' = true
  · obtain ⟨t', hown⟩ := hown
    obtain ⟨-, -, -, hread⟩ := @step_worker B M d nonblock s t' a hown
    obtain hsame | ⟨i, hk⟩ := hread x
    · rw [hsame]
      exact hp
    · exact absurd hk (hs.awaits.spared i)
  cases a with
  | request r =>
    obtain heq | ⟨-, heq⟩ := request_cases d s r
    · rw [Sys.step, heq]
      exact hp
    · rw [Sys.step, heq]
      exact hp
  | control => exact hp
  | kick fd =>
    obtain ⟨k, hk⟩ := List.exists_mem_of_ne_nil _ hp
    exact List.ne_nil_of_mem (mem_pending_kick hk)
  | wait t' events | handleEvent t' | dispatch t' ok => exact absurd ⟨t', beq_self_eq_true t'⟩ hown

theorem sendExitEvent_frame (s : Sys B M) : s.sendExitEvent.handler = s.handler ∧ s.sendExitEvent.todo = s.todo ∧
    ∀ w ∈ s.handler.handlers, ∀ x, w.exitEventFd = some x → s.sendExitEvent.pending x ≠ [] := by
  unfold sendExitEvent
  generalize s.handler.handlers = ws
  have hkeep {x : File} (ws : List VringEpollHandler) (s : Sys B M) (hp : s.pending x ≠ []) :
      (ws.foldl (fun s w => match w.exitEventFd with | some fd => s.kick fd | none => s) s).pending x ≠ [] := by
    induction ws generalizing s with
    | nil => exact hp
    | cons w ws ih =>
      refine ih _ ?_
      dsimp only
      split
      · obtain ⟨k, hk⟩ := List.exists_mem_of_ne_nil _ hp
        exact List.ne_nil_of_mem (mem_pending_kick hk)
      · exact hp
  induction ws generalizing s with
  | nil => exact ⟨rfl, rfl, by simp⟩
  | cons w ws ih =>
    rw [List.foldl_cons]
    cases hexit : w.exitEventFd with
    | none =>
      obtain ⟨hh, ht, hp⟩ := ih s
      refine ⟨hh, ht, List.forall_mem_cons.2 ⟨fun x hx => ?_, hp⟩⟩
      rw [hexit] at hx
      cases hx
    | some fd =>
      obtain ⟨hh, ht, hp⟩ := ih (s.kick fd)
      refine ⟨hh, ht, List.forall_mem_cons.2 ⟨fun x hx => ?_, hp⟩⟩
      rw [hexit] at hx
      cases hx
      refine hkeep ws _ ?_
      simp [kick]

/-! ### The worker comes to it -/

/-- The exit event of worker `t` is pending. -/
structure Signalled (t : Nat) (rings : List Nat) (x : File) (nq : Nat) (s : Sys B M) : Prop where
  spared : s.Spared t rings x
  count : s.handler.numQueues = nq
  pending : s.pending x ≠ []

theorem handleEvent_exitEvent {ev : UInt16} {rest : List UInt16} (hlay : s.handler.layout[t]? = some (rings, some x))
    (hw : s.workers t = ⟨ev :: rest, none, false⟩) (hev : ev.toNat = s.handler.numQueues) :
    s.handleEvent nonblock t = s.setWorker t ⟨[], none, true⟩ := by
  simp [handleEvent, hw, hlay, hev]

/-- A worker that has left its loop does nothing more. -/
theorem step_stopped (hstopped : (s.workers t).stopped = true) (ha : a.ofWorker t = true) :
    s.step d nonblock a = s := by
  rcases hw : s.workers t with ⟨events, holding, stopped⟩
  rw [hw] at hstopped
  cases hstopped
  cases a with
  | request r => cases ha
  | control => cases ha
  | kick fd => cases ha
  | wait t' events' =>
    obtain rfl : t' = t := by simpa [Action.ofWorker] using ha
    simp [step, wait, hw]
  | handleEvent t' =>
    obtain rfl : t' = t := by simpa [Action.ofWorker] using ha
    simp [step, handleEvent, hw]
  | dispatch t' ok =>
    obtain rfl : t' = t := by simpa [Action.ofWorker] using ha
    simp [step, dispatch, hw]

/-- With room for all of them, `epoll_wait` returns every descriptor that is ready. -/
theorem mem_snapshot {w : VringEpollHandler} {events : List (File × UInt64)} {p : File × UInt64}
    (hw : s.handler.handlers[t]? = some w) (hroom : w.epoll.length ≤ EPOLL_EVENTS_LEN)
    (hsnap : s.isSnapshot t events = true) (hp : p ∈ w.epoll) (hready : s.pending p.1 ≠ []) :
    p ∈ events ∧ events.length ≤ EPOLL_EVENTS_LEN := by
  simp only [isSnapshot, hw, Bool.and_eq_true, decide_eq_true_eq, List.all_eq_true] at hsnap
  obtain ⟨⟨⟨-, hlen⟩, hnodup⟩, hsub⟩ := hsnap
  have hle : (w.epoll.filter fun p => s.pending p.1 ≠ []).length ≤ EPOLL_EVENTS_LEN :=
    (List.length_filter_le _ _).trans hroom
  rw [Nat.min_eq_right hle] at hlen
  have hperm := (List.subperm_of_subset hnodup hsub).perm_of_length_le hlen.ge
  exact ⟨hperm.mem_iff.2 (List.mem_filter.2 ⟨hp, by simpa using hready⟩), hlen ▸ hle⟩

section Moves
variable {nq : Nat} {e : UInt16}

/-- The next batch has the exit event. -/
theorem Signalled.rank_lt_wait (hs : s.Signalled t rings x nq) (he : e.toNat = nq) (hnq : nq < UInt16.size)
    (hroom : ∀ w ∈ s.handler.handlers, w.epoll.length ≤ EPOLL_EVENTS_LEN) {events : List (File × UInt64)}
    (hmoves : (s.wait t events).workers t ≠ s.workers t) :
    ((s.wait t events).workers t).rank e < (s.workers t).rank e := by
  obtain heq | ⟨hidle, hsnap, heq⟩ := wait_cases s t events
  · rw [heq] at hmoves
    exact absurd rfl hmoves
  · obtain ⟨w, hw, -, hentry⟩ := hs.spared.awaits.worker
    rw [hs.count] at hentry
    obtain ⟨hmem, hlen⟩ := mem_snapshot hw (hroom w (List.mem_of_getElem? hw)) hsnap hentry hs.pending
    have he' : (UInt64.ofNat nq).toUInt16 = e := by
      apply UInt16.toNat.inj
      rw [he]
      simp only [UInt16.size] at hnq
      simp
      omega
    have hin : e ∈ events.map fun p => p.2.toUInt16 := List.mem_map.2 ⟨_, hmem, he'⟩
    have hidx := List.idxOf_lt_length_of_mem hin
    rw [List.length_map] at hidx
    rw [heq, workers_setWorker, if_pos rfl, hidle]
    simp only [WorkerState.rank, WorkerState.ahead, if_pos hin]
    simp only [EPOLL_EVENTS_LEN] at hlen ⊢
    simp
    omega

/-- An event before the exit event is off the batch. -/
theorem rank_lt_pass {ev : UInt16} {rest : List UInt16} {holding : Option (UInt16 × List Nat)}
    (hw : s.workers t = ⟨ev :: rest, none, false⟩) (hne : ev ≠ e) :
    (⟨rest, holding, false⟩ : WorkerState).rank e < (s.workers t).rank e := by
  rw [hw]
  simp only [WorkerState.rank, WorkerState.ahead_cons hne]
  cases holding
  · simp
  · simp
    omega

/-- The exit event ends the loop, any other is passed. -/
theorem Signalled.rank_lt_handleEvent (hs : s.Signalled t rings x nq) (he : e.toNat = nq)
    (hgoing : (s.workers t).stopped ≠ true) (hmoves : (s.handleEvent nonblock t).workers t ≠ s.workers t) :
    ((s.handleEvent nonblock t).workers t).rank e < (s.workers t).rank e := by
  have hstop : (⟨[], none, true⟩ : WorkerState).rank e < (s.workers t).rank e :=
    Nat.pos_of_ne_zero fun h0 => hgoing (WorkerState.rank_eq_zero.1 h0)
  have hcase := handled nonblock s t
  by_cases hexit : ∃ rest, s.workers t = ⟨e :: rest, none, false⟩
  · obtain ⟨rest, hw⟩ := hexit
    rw [handleEvent_exitEvent hs.spared.awaits.layout hw (he.trans hs.count.symm), workers_setWorker, if_pos rfl]
    exact hstop
  · generalize s.handleEvent nonblock t = s' at hcase hmoves ⊢
    cases hcase with
    | unchanged => exact absurd rfl hmoves
    | stop _ =>
      rw [workers_setWorker, if_pos rfl]
      exact hstop
    | @listener ev rest hw _ =>
      rw [workers_setWorker, if_pos rfl]
      exact rank_lt_pass hw fun hev => hexit ⟨rest, hev ▸ hw⟩
    | @read ev rest r v enabled kicks pending hw _ _ _ _ =>
      rw [workers_setWorker, if_pos rfl]
      exact rank_lt_pass hw fun hev => hexit ⟨rest, hev ▸ hw⟩

/-- The backend's answer ends the loop, or the worker goes on with its batch. -/
theorem rank_lt_dispatch {ok : Bool} (hmoves : (s.dispatch t ok).workers t ≠ s.workers t) :
    ((s.dispatch t ok).workers t).rank e < (s.workers t).rank e := by
  obtain heq | ⟨events, ev, kicks, lastCall, hw, -, heq⟩ := dispatch_cases s t ok
  · rw [heq] at hmoves
    exact absurd rfl hmoves
  · have hcall : (s.dispatch t ok).workers t = ⟨if ok then events else [], none, !ok⟩ := by
      rw [heq]
      exact (workers_setWorker s t t _).trans (if_pos rfl)
    rw [hcall, hw]
    cases ok with
    | false => simp [WorkerState.rank]
    | true => simp [WorkerState.rank]

/-- **A worker's own step brings it nearer to its exit event.** -/
theorem Signalled.rank_lt (hs : s.Signalled t rings x nq) (he : e.toNat = nq) (hnq : nq < UInt16.size)
    (hroom : ∀ w ∈ s.handler.handlers, w.epoll.length ≤ EPOLL_EVENTS_LEN) (ha : a.ofWorker t = true)
    (hmoves : (s.step d nonblock a).workers t ≠ s.workers t) :
    ((s.step d nonblock a).workers t).rank e < (s.workers t).rank e := by
  have hgoing : (s.workers t).stopped ≠ true := fun hstopped => hmoves (by rw [step_stopped hstopped ha])
  cases a with
  | request r => cases ha
  | control => cases ha
  | kick fd => cases ha
  | wait t' events =>
    obtain rfl : t' = t := by simpa [Action.ofWorker] using ha
    exact hs.rank_lt_wait he hnq hroom hmoves
  | handleEvent t' =>
    obtain rfl : t' = t := by simpa [Action.ofWorker] using ha
    exact hs.rank_lt_handleEvent he hgoing hmoves
  | dispatch t' ok =>
    obtain rfl : t' = t := by simpa [Action.ofWorker] using ha
    exact rank_lt_dispatch hmoves

/-- What a step does on the way of worker `t` to its exit event. -/
theorem rank_signalled (he : e.toNat = nq) (hnq : nq < UInt16.size) :
    Rank (Calm d nonblock) (fun s => ∃ rings x, s.Signalled t rings x nq) (Action.ofWorker t)
      fun s => (s.workers t).rank e := by
  have hlt {s s' : Sys B M} {a : Action} (hs : ∃ rings x, s.Signalled t rings x nq) (hstep : Calm d nonblock s a s')
      (ha : a.ofWorker t = true) : (s'.workers t).rank e < (s.workers t).rank e := by
    obtain ⟨rings, x, hs⟩ := hs
    have hmoves := hstep.moves t ha
    rw [hstep.step] at hmoves ⊢
    exact hs.rank_lt he hnq hstep.room ha hmoves
  refine ⟨fun {s s' a} hs hstep => ?_, fun {s s' a} hs hstep => ?_, hlt⟩
  · obtain ⟨rings, x, hs⟩ := hs
    rw [hstep.step]
    have hspares := hstep.spares t rings x hs.spared.awaits.layout
    exact ⟨rings, x, hs.spared.step hspares, (fixed_step s a).1.trans hs.count, hs.spared.pending hs.pending⟩
  · cases ha : a.ofWorker t with
    | true => exact (hlt hs hstep ha).le
    | false =>
      have hsame : s'.workers t = s.workers t := by
        rw [hstep.step]
        by_cases hown : ∃ t', a.ofWorker t' = true
        · obtain ⟨t', hown⟩ := hown
          refine (step_worker hown).2.2.1 t ?_
          rintro rfl
          rw [ha] at hown
          cases hown
        cases a with
        | request r =>
          obtain heq | ⟨-, heq⟩ := request_cases d s r
          · rw [Sys.step, heq]
          · rw [Sys.step, heq]
        | control => rfl
        | kick fd => rfl
        | wait t' events | handleEvent t' | dispatch t' ok => exact absurd ⟨t', beq_self_eq_true t'⟩ hown
      rw [hsame]

/-- No worker can be held up by a counter at zero. -/
def Prompt (nonblock : File → Bool) (s : Sys B M) : Prop :=
  (∀ w ∈ s.handler.handlers, w.epoll.length ≤ EPOLL_EVENTS_LEN) ∧ ∀ i fd, s.handler.Kick i fd → nonblock fd = true

/-- The worker is never stuck before it has stopped. -/
theorem Signalled.goes (hs : s.Signalled t rings x nq) (hp : s.Prompt nonblock)
    (hgoing : (s.workers t).stopped = false) :
    ∃ a, a.ofWorker t = true ∧ (s.step d nonblock a).workers t ≠ s.workers t := by
  obtain ⟨w, hget, hnodup, hentry⟩ := hs.spared.awaits.worker
  have hlay := hs.spared.awaits.layout
  rcases hw : s.workers t with ⟨events, holding, stopped⟩
  rw [hw] at hgoing
  cases hgoing
  cases holding with
  | some held =>
    refine ⟨.dispatch t true, beq_self_eq_true t, ?_⟩
    obtain ⟨ev, kicks⟩ := held
    simp [step, dispatch, hw, setWorker]
  | none =>
    cases events with
    | nil =>
      have hroom := hp.1 w (List.mem_of_getElem? hget)
      have hready : (x, UInt64.ofNat s.handler.numQueues) ∈ w.epoll.filter fun p => s.pending p.1 ≠ [] :=
        List.mem_filter.2 ⟨hentry, by simpa using hs.pending⟩
      have hsnap : s.isSnapshot t (w.epoll.filter fun p => s.pending p.1 ≠ []) = true := by
        simp only [isSnapshot, hget, Bool.and_eq_true, decide_eq_true_eq, List.all_eq_true]
        refine ⟨⟨⟨List.ne_nil_of_mem hready, ?_⟩, hnodup.filter _⟩, fun p hp => hp⟩
        rw [Nat.min_eq_right ((List.length_filter_le _ _).trans hroom)]
      refine ⟨.wait t (w.epoll.filter fun p => s.pending p.1 ≠ []), beq_self_eq_true t, ?_⟩
      rw [step, wait, hw]
      dsimp only
      rw [if_pos hsnap, workers_setWorker, if_pos rfl]
      intro heq
      simp only [WorkerState.mk.injEq, List.map_eq_nil_iff] at heq
      rw [heq.1] at hready
      cases hready
    | cons ev rest =>
      refine ⟨.handleEvent t, beq_self_eq_true t, ?_⟩
      rw [step]
      by_cases hexit : ev.toNat = s.handler.numQueues
      · rw [handleEvent_exitEvent hlay hw hexit, workers_setWorker, if_pos rfl]
        simp
      · simp only [handleEvent, hw, hlay, Option.isSome_some, Bool.true_and, beq_iff_eq, if_neg hexit]
        cases hring : rings[ev.toNat]? with
        | none => simp [setWorker]
        | some r =>
          obtain ⟨v, hv⟩ := Option.isSome_iff_exists.1 (hs.spared.awaits.rings r (List.mem_of_getElem? hring))
          simp only [hv, VringState.readKick]
          cases hk : v.kick with
          | none => simp [setWorker]
          | some fd =>
            by_cases hzero : s.pending fd = []
            · simp [hzero, hp.2 r fd ⟨v, hv, hk⟩, setWorker]
            · simp [hzero, setWorker]

end Moves

/-! ## The join of the workers -/

/-- Worker `t` has an exit event. -/
def HasExit (s : Sys B M) (t : Nat) : Prop := ∃ rings x, s.handler.layout[t]? = some (rings, some x)

/-- Nobody but worker `t` moves. -/
def Alone (d : Deps B M) (nonblock : File → Bool) (t : Nat) (s : Sys B M) (a : Action) (s' : Sys B M) : Prop :=
  Calm d nonblock s a s' ∧ a.ofWorker t = true

/-- The workers that have exit events come to their ends. -/
structure WorkersStop (d : Deps B M) (nonblock : File → Bool) (s : Sys B M) : Prop where
  /-- Each has a bounded number of moves, whatever happens in between. -/
  bounded : ∀ t, s.HasExit t → ∀ as s', Run (Calm d nonblock) s as s' →
    as.countP (Action.ofWorker t) ≤ 2 * ((s.workers t).events.length + EPOLL_EVENTS_LEN + 2) + 1
  /-- Left alone it stops. -/
  alone : s.Prompt nonblock → ∀ t, s.HasExit t → ∃ as s', (∀ a ∈ as, a.ofWorker t = true) ∧
    Run (Calm d nonblock) s as s' ∧ (s'.workers t).stopped = true
  /-- On every run that gives each its turn again and again there is a state in which all have stopped. -/
  fair : ∀ (ρ : ℕ → Sys B M) (lab : ℕ → Action), ρ 0 = s → (∀ n, Calm d nonblock (ρ n) (lab n) (ρ (n + 1))) →
    (∀ t, s.HasExit t → ∀ n, ((ρ n).workers t).stopped = false → ∃ k, n ≤ k ∧ (lab k).ofWorker t = true) →
    ∃ n, ∀ t, s.HasExit t → ((ρ n).workers t).stopped = true

/-- Every worker with an exit event finds it pending. -/
theorem workersStop_of_signalled {nq : Nat} (hnq : nq < UInt16.size)
    (hs : ∀ t, s.HasExit t → ∃ rings x, s.Signalled t rings x nq) : WorkersStop d nonblock s := by
  have he : (UInt16.ofNat nq).toNat = nq := UInt16.toNat_ofNat_of_lt' hnq
  have hrank (t : Nat) := @rank_signalled B M d nonblock t nq _ he hnq
  refine ⟨fun t ht as s' hrun => ?_, fun hp t ht => ?_, fun ρ lab h0 hrun hfair => ?_⟩
  · have hle := (hrank t).count_le (hs t ht) hrun
    have hbound := (s.workers t).rank_le (UInt16.ofNat nq)
    omega
  · -- alone: the handler does not change
    have hown : Rank (Alone d nonblock t) (fun s => (∃ rings x, s.Signalled t rings x nq) ∧ s.Prompt nonblock) (Action.ofWorker t)
        fun s => (s.workers t).rank (UInt16.ofNat nq) := by
      refine ⟨fun {s s' a} hs hstep => ⟨(hrank t).keeps hs.1 hstep.1, ?_⟩, fun hs hstep => (hrank t).le hs.1 hstep.1,
        fun hs hstep => (hrank t).lt hs.1 hstep.1⟩
      rw [Prompt, hstep.1.step, (step_worker hstep.2).1]
      exact hs.2
    have hgo (s : Sys B M) (hs : (∃ rings x, s.Signalled t rings x nq) ∧ s.Prompt nonblock)
        (hne : (s.workers t).rank (UInt16.ofNat nq) ≠ 0) : ∃ a s', a.ofWorker t = true ∧ Alone d nonblock t s a s' := by
      obtain ⟨⟨rings, x, hs⟩, hp⟩ := hs
      have hgoing : (s.workers t).stopped = false :=
        Bool.eq_false_iff.2 fun hstopped => hne (WorkerState.rank_eq_zero.2 hstopped)
      obtain ⟨a, ha, hmoves⟩ := @Signalled.goes B M d nonblock s t rings x nq hs hp hgoing
      refine ⟨a, s.step d nonblock a, ha, ⟨⟨rfl, fun t' ha' => ?_, hp.1⟩, fun _ _ x' _ index heq => ?_⟩, ha⟩
      · rw [ofWorker_unique ha' ha]
        exact hmoves
      · rw [heq] at ha
        cases ha
    obtain ⟨as, s', has, hrun, hzero⟩ := hown.exists_run hgo ⟨hs t ht, hp⟩
    exact ⟨as, s', has, hrun.mono And.left, WorkerState.rank_eq_zero.1 hzero⟩
  · classical
    let is := (List.range s.handler.layout.length).filter fun t => s.HasExit t
    have hmem (t : Nat) : t ∈ is ↔ s.HasExit t := by
      simp only [is, List.mem_filter, List.mem_range, decide_eq_true_eq, and_iff_right_iff_imp]
      rintro ⟨rings, x, hlay⟩
      exact (List.getElem?_eq_some_iff.1 hlay).1
    have hfair' (t : Nat) (ht : t ∈ is) (n : ℕ) (hne : ((ρ n).workers t).rank (UInt16.ofNat nq) ≠ 0) :
        ∃ k, n ≤ k ∧ (lab k).ofWorker t = true :=
      hfair t ((hmem t).1 ht) n (Bool.eq_false_iff.2 fun hstopped => hne (WorkerState.rank_eq_zero.2 hstopped))
    have hstart (t : Nat) (ht : t ∈ is) : ∃ rings x, (ρ 0).Signalled t rings x nq := by
      rw [h0]
      exact hs t ((hmem t).1 ht)
    obtain ⟨n, hn⟩ := eventually_all is (fun t _ => hrank t) hrun hfair' hstart
    exact ⟨n, fun t ht => WorkerState.rank_eq_zero.1 (hn t ((hmem t).2 ht))⟩

/-- **The exit events stop the workers.** After any requests, kicks and moves of the workers that left the descriptors
of the exit events alone, `send_exit_event` makes every worker that has an exit event leave its loop, so the joins in
the `drop` of the handler return. -/
theorem exit_events_stop_workers {h : VhostUserHandler B M} {b : B} {mem : M} {heap : LogHeap} {n : Nat}
    (hnew : VhostUserHandler.new d b mem heap n = some h) (hnq : h.numQueues < UInt16.size) {as : List Action}
    (has : ∀ a ∈ as, ∀ (t : Nat) (rings : List Nat) (x : File), h.layout[t]? = some (rings, some x) → a.Spares x) :
    WorkersStop d nonblock (Trace.run (step d nonblock) (init h) as).sendExitEvent := by
  obtain ⟨hnum, hlay⟩ := @fixed_run B M d nonblock as (init h)
  obtain ⟨hh, ht, hp⟩ := sendExitEvent_frame (Trace.run (step d nonblock) (init h) as)
  refine workersStop_of_signalled hnq fun t ⟨rings, x, hget⟩ => ⟨rings, x, ?_, ?_, ?_⟩
  · rw [hh, hlay] at hget
    have hspared : (init h).Spared t rings x := ⟨VhostUserHandler.awaits_new hnew hget, fun _ => List.not_mem_nil⟩
    exact (hspared.run fun a ha => has a ha t rings x hget).congr hh ht
  · rw [hh, hnum]
    rfl
  · rw [hh, VhostUserHandler.layout, List.getElem?_map] at hget
    obtain ⟨w, hw, heq⟩ := Option.map_eq_some_iff.1 hget
    exact hp w (List.mem_of_getElem? hw) x (congrArg Prod.snd heq)

/-! Three rings and two workers, with an event in flight. -/

theorem exit_events_stop_workers_masked :
    WorkersStop maskedDeps (fun _ => true)
      (Trace.run (step maskedDeps fun _ => true) (init maskedHandler) maskedRun).sendExitEvent := by
  refine exit_events_stop_workers new_maskedHandler (by decide) fun a ha t rings x hlay index heq => ?_
  have hx : x = 9 := by
    have hall : ∀ w ∈ maskedHandler.layout, w.2 = some 9 := by decide
    exact Option.some.inj (hall _ (List.mem_of_getElem? hlay))
  subst heq hx
  simp [maskedRun] at ha

end Sys
end VhostUser
