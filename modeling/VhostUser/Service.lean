import VhostUser.Shutdown
/-!
# A kick is served

`no_kick_lost_iff` says what never happens to a kick. Here is what must happen to it: the counter of a descriptor
that is registered for an enabled ring is not zero after the kick, so the worker of the ring has it in its next batch
(`event_loop.rs:161-183`), reads it when its turn in the batch comes (`:204-208`), and calls the backend for the ring
(`:217-219`), unless the control thread stops or disables the ring before that or the worker leaves its loop.
-/
namespace VhostUser
open Progress

namespace WorkerState
variable {w : WorkerState} {e ev : UInt16} {k : Nat}

/-- The moves of a worker up to its call of the backend with kick `k` of the ring of event `e`, at most. -/
def untilServed (e : UInt16) (k : Nat) (w : WorkerState) : Nat :=
  match w.holding with
  | some (ev, kicks) => if ev = e ∧ k ∈ kicks then 1 else 2 * ahead e w.events + 2
  | none => 2 * ahead e w.events + 1

theorem untilServed_ne_zero : w.untilServed e k ≠ 0 := by
  unfold untilServed
  split
  · split <;> omega
  · omega

theorem untilServed_le : w.untilServed e k ≤ 2 * (w.events.length + Sys.EPOLL_EVENTS_LEN + 2) + 2 := by
  have hidx := w.events.idxOf_le_length (a := e)
  unfold untilServed ahead
  split
  · split
    · omega
    · split <;> omega
  · split <;> omega

/-- Going on to another event of the batch. -/
theorem untilServed_pass {rest : List UInt16} {holding : Option (UInt16 × List Nat)} (hw : w = ⟨ev :: rest, none, false⟩)
    (hne : ev ≠ e) : (⟨rest, holding, false⟩ : WorkerState).untilServed e k < w.untilServed e k := by
  subst hw
  have hpos := ahead_pos e rest
  simp only [untilServed, ahead_cons hne]
  cases holding with
  | none => simp
  | some held =>
    dsimp only
    split <;> omega

end WorkerState

namespace Sys
variable {B M : Type} {d : Deps B M} {nonblock : File → Bool} {h : VhostUserHandler B M} {s s' : Sys B M}
  {i t t' : Nat} {fd : File} {e e' : UInt64} {k : Nat} {a : Action}

/-- The kicks that come in over `fd` are for ring `i`, which is enabled and registered with worker `t`. -/
structure Serving (i t : Nat) (fd : File) (e : UInt64) (s : Sys B M) : Prop where
  own : s.handler.OwnEvent i t e
  ring : ∃ v, s.handler.vrings[i]? = some v ∧ v.kick = some fd ∧ v.enabled = true
  alone : ∀ j, s.handler.Kick j fd → j = i
  entry : s.handler.Entry t fd e

/-- The backend was called for the ring after the kick, or the ring or its worker was stopped. -/
def Settled (i t : Nat) (fd : File) (e : UInt64) (k : Nat) (s : Sys B M) : Prop :=
  k < s.lastCall i ∨ (s.workers t).stopped = true ∨ ¬s.Serving i t fd e

/-- The kick is in the counter, or read by the worker on its way to the backend. -/
structure Owed (h : VhostUserHandler B M) (i t : Nat) (fd : File) (e : UInt64) (k : Nat) (s : Sys B M) : Prop where
  route : RouteInv h s
  unsettled : ¬s.Settled i t fd e k
  made : k < s.next
  here : k ∈ s.pending fd ∨ ∃ kicks, (s.workers t).holding = some (e.toUInt16, kicks) ∧ k ∈ kicks

theorem Owed.own (ho : s.Owed h i t fd e k) : h.OwnEvent i t e ∧ s.Serving i t fd e := by
  have hserving : s.Serving i t fd e := not_not.1 fun hno => ho.unsettled (.inr (.inr hno))
  have hown := hserving.own
  rw [VhostUserHandler.OwnEvent, ho.route.numQueues, ho.route.masks] at hown
  exact ⟨hown, hserving⟩

/-- Whoever reads the kick descriptor of ring `i` does it for the event of ring `i`. -/
theorem RouteInv.reader {ev : UInt16} (hr : RouteInv h s) (hw : h.Wired) (hn : s.nextRead t' = some (ev, i))
    (hown : h.OwnEvent i t e) : t' = t ∧ ev = e.toUInt16 := by
  obtain ⟨-, hmem, hring⟩ := nextRead_spec hn
  obtain ⟨e', rfl, hexit | ⟨j, ho⟩⟩ := hr.flights hmem
  · -- the exit event is not read
    obtain ⟨⟨rings, x, hlay⟩, rfl⟩ := hexit
    have hid : (UInt64.ofNat h.numQueues).toUInt16.toNat = h.numQueues := by
      have hsmall := hw.small
      simp
      omega
    unfold Sys.nextRead at hn
    split at hn
    · rename_i ev' rest rings' x' hworker hlay'
      rw [hr.layout, hlay] at hlay'
      cases hlay'
      split at hn
      · cases hn
      · rename_i hnot
        obtain ⟨r, -, heq⟩ := Option.map_eq_some_iff.1 hn
        cases heq
        rw [hid, hr.numQueues] at hnot
        simp at hnot
    · cases hn
  · rw [hr.ringOf hw ho] at hring
    cases hring
    have heq : some (t', e') = some (t, e) := ho.2.symm.trans hown.2
    cases heq
    exact ⟨rfl, rfl⟩

/-! ## Steps -/

/-- The state is kept but for what the kick is about. -/
theorem Owed.congr (ho : s.Owed h i t fd e k) (hr : RouteInv h s') (hs : ¬s'.Settled i t fd e k) (hn : s.next ≤ s'.next)
    (hp : k ∈ s.pending fd → k ∈ s'.pending fd) (hw : s'.workers t = s.workers t) : s'.Owed h i t fd e k where
  route := hr
  unsettled := hs
  made := ho.made.trans_le hn
  here := by
    rw [hw]
    exact ho.here.imp hp id

/-- A step of another worker leaves the counter alone. -/
theorem Owed.other (ho : s.Owed h i t fd e k) (hw : h.Wired) (ha : a.ofWorker t' = true) (hne : t' ≠ t) :
    (s.step d nonblock a).pending fd = s.pending fd ∧ (s.step d nonblock a).next = s.next := by
  obtain ⟨hown, hserving⟩ := ho.own
  cases a with
  | request r => cases ha
  | control => cases ha
  | kick fd' => cases ha
  | wait t₁ events =>
    obtain heq | ⟨-, -, heq⟩ := wait_cases s t₁ events
    · rw [step, heq]
      exact ⟨rfl, rfl⟩
    · rw [step, heq]
      exact ⟨rfl, rfl⟩
  | dispatch t₁ ok =>
    obtain heq | ⟨events, ev, kicks, lastCall, -, -, heq⟩ := dispatch_cases s t₁ ok
    · rw [step, heq]
      exact ⟨rfl, rfl⟩
    · rw [step, heq]
      exact ⟨rfl, rfl⟩
  | handleEvent t₁ =>
    obtain rfl : t₁ = t' := by simpa [Action.ofWorker] using ha
    have hcase := handled nonblock s t₁
    rw [step]
    generalize s.handleEvent nonblock t₁ = s' at hcase
    cases hcase with
    | unchanged => exact ⟨rfl, rfl⟩
    | stop _ => exact ⟨rfl, rfl⟩
    | listener _ _ => exact ⟨rfl, rfl⟩
    | @read ev rest r v enabled kicks pending _ hnext _ hv hread =>
      refine ⟨?_, rfl⟩
      obtain ⟨-, ⟨-, -, rfl⟩ | ⟨fd', hk, -, rfl⟩⟩ := readKick_ok hread
      · rfl
      · refine Function.update_of_ne ?_ _ _
        rintro rfl
        obtain rfl := hserving.alone r ⟨v, hv, hk⟩
        exact hne (ho.route.reader hw hnext hown).1

/-- A kick that is not on its way to the backend is in the counter. -/
theorem Owed.pending (ho : s.Owed h i t fd e k) (hidle : (s.workers t).holding = none) : k ∈ s.pending fd := by
  obtain hp | ⟨kicks, hheld, -⟩ := ho.here
  · exact hp
  · rw [hidle] at hheld
    cases hheld

/-- The next batch has the event of the ring. -/
theorem Owed.lt_wait (ho : s.Owed h i t fd e k) (hw : h.Wired) {events : List (File × UInt64)}
    (hturn : Turn d nonblock s (.wait t events) s') (hs : ¬s'.Settled i t fd e k) :
    s'.Owed h i t fd e k ∧ (s'.workers t).untilServed e.toUInt16 k < (s.workers t).untilServed e.toUInt16 k := by
  obtain ⟨-, hserving⟩ := ho.own
  have hr' : RouteInv h s' := hturn.step ▸ routeInv_step hw ho.route _
  have hmoves := hturn.moves t (by simp [Action.ofWorker])
  have hsame := hturn.step
  rw [step] at hsame
  obtain heq | ⟨hidle, hsnap, heq⟩ := wait_cases s t events
  · rw [hsame, heq] at hmoves
    exact absurd rfl hmoves
  · rw [heq] at hsame
    have hpending : k ∈ s.pending fd := ho.pending (by rw [hidle])
    obtain ⟨w, hget, hentry⟩ := hserving.entry
    obtain ⟨hmem, hlen⟩ := mem_snapshot hget (hturn.room w (List.mem_of_getElem? hget)) hsnap hentry
      (List.ne_nil_of_mem hpending)
    have hin : e.toUInt16 ∈ events.map fun p => p.2.toUInt16 := List.mem_map.2 ⟨_, hmem, rfl⟩
    have hidx := List.idxOf_lt_length_of_mem hin
    rw [List.length_map] at hidx
    subst hsame
    refine ⟨⟨hr', hs, ho.made, .inl hpending⟩, ?_⟩
    rw [workers_setWorker, if_pos rfl, hidle]
    simp only [WorkerState.untilServed, WorkerState.ahead, if_pos hin]
    simp only [EPOLL_EVENTS_LEN] at hlen ⊢
    simp
    omega

/-- At the event of the ring the worker reads the kick. -/
theorem Owed.lt_read (ho : s.Owed h i t fd e k) (hw : h.Wired) (hturn : Turn d nonblock s (.handleEvent t) s')
    (hs : ¬s'.Settled i t fd e k) {rest : List UInt16} (hworker : s.workers t = ⟨e.toUInt16 :: rest, none, false⟩) :
    s'.Owed h i t fd e k ∧ (s'.workers t).untilServed e.toUInt16 k < (s.workers t).untilServed e.toUInt16 k := by
  obtain ⟨hown, hserving⟩ := ho.own
  have hr' : RouteInv h s' := hturn.step ▸ routeInv_step hw ho.route _
  have hpending : k ∈ s.pending fd := ho.pending (by rw [hworker])
  have hsame := hturn.step
  rw [step] at hsame
  obtain ⟨v, hv, hk, hen⟩ := hserving.ring
  obtain ⟨rest', heq⟩ := @handleEvent_read B M nonblock s t i _ v fd (ho.route.nextRead hw hown hworker) hv hk
    (List.ne_nil_of_mem hpending)
  have hthen : s'.workers t = ⟨rest', some (e.toUInt16, s.pending fd), false⟩ := by
    rw [hsame, heq, workers_setWorker, if_pos rfl, hen]
    rfl
  refine ⟨⟨hr', hs, ?_, .inr ⟨s.pending fd, by rw [hthen], hpending⟩⟩, ?_⟩
  · rw [hsame, heq]
    exact ho.made
  · have hpos := WorkerState.ahead_pos e.toUInt16 (e.toUInt16 :: rest)
    rw [hthen, hworker]
    simp only [WorkerState.untilServed, true_and, if_pos hpending]
    omega

/-- At an event before it the worker leaves the kick in the counter. -/
theorem Owed.lt_pass (ho : s.Owed h i t fd e k) (hw : h.Wired) (hturn : Turn d nonblock s (.handleEvent t) s')
    (hs : ¬s'.Settled i t fd e k) (hno : ¬∃ rest, s.workers t = ⟨e.toUInt16 :: rest, none, false⟩) :
    s'.Owed h i t fd e k ∧ (s'.workers t).untilServed e.toUInt16 k < (s.workers t).untilServed e.toUInt16 k := by
  obtain ⟨hown, hserving⟩ := ho.own
  have hr' : RouteInv h s' := hturn.step ▸ routeInv_step hw ho.route _
  have hmoves := hturn.moves t (by simp [Action.ofWorker])
  have hsame := hturn.step
  rw [step] at hsame
  have hpending {ev : UInt16} {rest : List UInt16} (hworker : s.workers t = ⟨ev :: rest, none, false⟩) :
      k ∈ s.pending fd := ho.pending (by rw [hworker])
  have hpass {ev : UInt16} {rest : List UInt16} (hworker : s.workers t = ⟨ev :: rest, none, false⟩) :
      ev ≠ e.toUInt16 := fun heq => hno ⟨rest, heq ▸ hworker⟩
  have hcase := handled nonblock s t
  rw [← hsame] at hcase
  cases hcase with
  | unchanged => exact absurd rfl hmoves
  | stop _ =>
    refine absurd (.inr (.inl ?_)) hs
    rw [workers_setWorker, if_pos rfl]
  | @listener ev rest hworker _ =>
    refine ⟨⟨hr', hs, ho.made, .inl (hpending hworker)⟩, ?_⟩
    rw [workers_setWorker, if_pos rfl]
    exact WorkerState.untilServed_pass hworker (hpass hworker)
  | @read ev rest r v enabled kicks pending hworker hnext _ hv hread =>
    have hkeep : k ∈ pending fd := by
      obtain ⟨-, ⟨-, -, rfl⟩ | ⟨fd', hk, -, rfl⟩⟩ := readKick_ok hread
      · exact hpending hworker
      · rw [Function.update_of_ne]
        · exact hpending hworker
        · rintro rfl
          obtain rfl := hserving.alone r ⟨v, hv, hk⟩
          exact hpass hworker (ho.route.reader hw hnext hown).2
    refine ⟨⟨hr', hs, ho.made, .inl hkeep⟩, ?_⟩
    rw [workers_setWorker, if_pos rfl]
    exact WorkerState.untilServed_pass hworker (hpass hworker)

/-- A call of the backend that is not for the kick takes the worker on. -/
theorem Owed.lt_dispatch (ho : s.Owed h i t fd e k) (hw : h.Wired) {ok : Bool}
    (hturn : Turn d nonblock s (.dispatch t ok) s') (hs : ¬s'.Settled i t fd e k) :
    s'.Owed h i t fd e k ∧ (s'.workers t).untilServed e.toUInt16 k < (s.workers t).untilServed e.toUInt16 k := by
  obtain ⟨hown, -⟩ := ho.own
  have hr' : RouteInv h s' := hturn.step ▸ routeInv_step hw ho.route _
  have hring : s.ringOf t e.toUInt16 = some i := ho.route.ringOf hw hown
  have hmoves := hturn.moves t (by simp [Action.ofWorker])
  have hsame := hturn.step
  rw [step] at hsame
  obtain heq | ⟨events, ev, kicks, lastCall, hheld, hcall, heq⟩ := dispatch_cases s t ok
  · rw [hsame, heq] at hmoves
    exact absurd rfl hmoves
  · rw [heq] at hsame
    subst hsame
    have hworker : ({ s.setWorker t ⟨if ok then events else [], none, !ok⟩ with lastCall := lastCall } : Sys B M).workers t =
        ⟨if ok then events else [], none, !ok⟩ := (workers_setWorker s t t _).trans (if_pos rfl)
    -- not the kick itself, and no error of the backend
    have hother : ¬(ev = e.toUInt16 ∧ k ∈ kicks) := by
      rintro ⟨rfl, -⟩
      have hlast : lastCall i = s.next := by
        rw [hcall, hring]
        exact Function.update_self i s.next s.lastCall
      exact hs (.inl (hlast.symm ▸ ho.made : k < lastCall i))
    have hok : ok = true := by
      by_contra hfalse
      refine hs (.inr (.inl ?_))
      rw [hworker]
      simpa using hfalse
    subst hok
    refine ⟨⟨hr', hs, ho.made, .inl ?_⟩, ?_⟩
    · obtain hp | ⟨kicks', hheld', hmem⟩ := ho.here
      · exact hp
      · rw [hheld] at hheld'
        cases hheld'
        exact absurd ⟨rfl, hmem⟩ hother
    · rw [hworker, hheld]
      simp [WorkerState.untilServed, hother]

/-- **A step of the worker of the ring brings the kick nearer to the backend.** -/
theorem Owed.lt (ho : s.Owed h i t fd e k) (hw : h.Wired) (hturn : Turn d nonblock s a s') (ha : a.ofWorker t = true)
    (hs : ¬s'.Settled i t fd e k) :
    s'.Owed h i t fd e k ∧ (s'.workers t).untilServed e.toUInt16 k < (s.workers t).untilServed e.toUInt16 k := by
  cases a with
  | request r => cases ha
  | control => cases ha
  | kick fd' => cases ha
  | wait t₁ events =>
    obtain rfl : t₁ = t := by simpa [Action.ofWorker] using ha
    exact ho.lt_wait hw hturn hs
  | handleEvent t₁ =>
    obtain rfl : t₁ = t := by simpa [Action.ofWorker] using ha
    by_cases hev : ∃ rest, s.workers t₁ = ⟨e.toUInt16 :: rest, none, false⟩
    · obtain ⟨rest, hworker⟩ := hev
      exact ho.lt_read hw hturn hs hworker
    · exact ho.lt_pass hw hturn hs hev
  | dispatch t₁ ok =>
    obtain rfl : t₁ = t := by simpa [Action.ofWorker] using ha
    exact ho.lt_dispatch hw hturn hs

/-- A turn before the kick is settled. -/
structure Waits (d : Deps B M) (nonblock : File → Bool) (i t : Nat) (fd : File) (e : UInt64) (k : Nat) (s : Sys B M)
    (a : Action) (s' : Sys B M) : Prop where
  turn : Turn d nonblock s a s'
  before : ¬s.Settled i t fd e k
  after : ¬s'.Settled i t fd e k

/-- What a step does on the way of the kick to the backend. -/
theorem rank_owed (hw : h.Wired) :
    Rank (Waits d nonblock i t fd e k) (Owed h i t fd e k) (Action.ofWorker t)
      fun s => (s.workers t).untilServed e.toUInt16 k := by
  have hother {s s' : Sys B M} {a : Action} (ho : s.Owed h i t fd e k) (hturn : Turn d nonblock s a s')
      (hs : ¬s'.Settled i t fd e k) (ha : a.ofWorker t = false) :
      s'.Owed h i t fd e k ∧ s'.workers t = s.workers t := by
    have hr' : RouteInv h s' := hturn.step ▸ routeInv_step hw ho.route a
    rw [hturn.step] at hr' hs ⊢
    by_cases hown : ∃ t', a.ofWorker t' = true
    · obtain ⟨t', hown⟩ := hown
      have hne : t' ≠ t := by
        rintro rfl
        rw [ha] at hown
        cases hown
      obtain ⟨-, -, hworkers, -⟩ := @step_worker B M d nonblock s t' a hown
      obtain ⟨hp, hnext⟩ := ho.other (d := d) hw hown hne
      have hsame := hworkers t hne.symm
      exact ⟨ho.congr hr' hs hnext.ge (fun hmem => hp.symm ▸ hmem) hsame, hsame⟩
    cases a with
    | request r =>
      obtain heq | ⟨-, heq⟩ := request_cases d s r
      · rw [step, heq]
        exact ⟨ho, rfl⟩
      · rw [step, heq] at hr' hs ⊢
        exact ⟨ho.congr hr' hs le_rfl id rfl, rfl⟩
    | control => exact ⟨ho.congr hr' hs le_rfl id rfl, rfl⟩
    | kick fd' => exact ⟨ho.congr hr' hs (Nat.le_succ _) mem_pending_kick rfl, rfl⟩
    | wait t' events | handleEvent t' | dispatch t' ok => exact absurd ⟨t', beq_self_eq_true t'⟩ hown
  refine ⟨fun {s s' a} ho hstep => ?_, fun {s s' a} ho hstep => ?_, fun ho hstep ha => ?_⟩
  · cases ha : a.ofWorker t with
    | true => exact (ho.lt hw hstep.turn ha hstep.after).1
    | false => exact (hother ho hstep.turn hstep.after ha).1
  · cases ha : a.ofWorker t with
    | true => exact (ho.lt hw hstep.turn ha hstep.after).2.le
    | false => rw [(hother ho hstep.turn hstep.after ha).2]
  · exact (ho.lt hw hstep.turn ha hstep.after).2

/-! ## Every kick -/

/-- The kick `k` of ring `i` is settled. -/
structure Served (d : Deps B M) (nonblock : File → Bool) (i t : Nat) (fd : File) (e : UInt64) (k : Nat) (s : Sys B M) :
    Prop where
  /-- The backend was not called since. -/
  unserved : s.lastCall i ≤ k
  /-- The worker has a bounded number of moves before that, whatever happens in between. -/
  bounded : ∀ as s', Run (Waits d nonblock i t fd e k) s as s' →
    as.countP (Action.ofWorker t) ≤ 2 * ((s.workers t).events.length + EPOLL_EVENTS_LEN + 2) + 2
  /-- It is settled on every run that gives the worker its turn again and again. -/
  fair : ∀ (ρ : ℕ → Sys B M) (lab : ℕ → Action), ρ 0 = s → (∀ n, Turn d nonblock (ρ n) (lab n) (ρ (n + 1))) →
    (∀ n, ¬(ρ n).Settled i t fd e k → ∃ m, n ≤ m ∧ (lab m).ofWorker t = true) → ∃ n, (ρ n).Settled i t fd e k

theorem served_of_owed (hw : h.Wired) (hcall : s.lastCall i ≤ k) (ho : ¬s.Settled i t fd e k → s.Owed h i t fd e k) :
    Served d nonblock i t fd e k s := by
  have hrank := @rank_owed B M d nonblock h i t fd e k hw
  refine ⟨hcall, fun as s' hrun => ?_, fun ρ lab h0 hrun hfair => ?_⟩
  · cases hrun with
    | nil => exact Nat.zero_le _
    | cons hstep hrest =>
      have hle := hrank.count_le (ho hstep.before) (.cons hstep hrest)
      have hbound := (s.workers t).untilServed_le (e := e.toUInt16) (k := k)
      omega
  · by_contra hnever
    rw [not_exists] at hnever
    have hwaits (n : ℕ) : Waits d nonblock i t fd e k (ρ n) (lab n) (ρ (n + 1)) := ⟨hrun n, hnever n, hnever (n + 1)⟩
    obtain ⟨n, hzero⟩ := hrank.eventually hwaits (fun n _ => hfair n (hnever n)) (h0 ▸ ho (h0 ▸ hnever 0))
    exact WorkerState.untilServed_ne_zero hzero

/-- A call of the backend is as old as the kicks made before it. -/
theorem lastCall_step (hs : ∀ i, s.lastCall i ≤ s.next) (a : Action) (i : Nat) :
    (s.step d nonblock a).lastCall i ≤ (s.step d nonblock a).next := by
  cases a with
  | request r =>
    obtain heq | ⟨-, heq⟩ := request_cases d s r
    · rw [step, heq]
      exact hs i
    · rw [step, heq]
      exact hs i
  | control => exact hs i
  | kick fd => exact (hs i).trans (Nat.le_succ _)
  | wait t events =>
    obtain heq | ⟨-, -, heq⟩ := wait_cases s t events
    · rw [step, heq]
      exact hs i
    · rw [step, heq]
      exact hs i
  | handleEvent t =>
    have hcase := handled nonblock s t
    rw [step]
    generalize s.handleEvent nonblock t = s' at hcase
    cases hcase with
    | _ => exact hs i
  | dispatch t ok =>
    obtain heq | ⟨events, ev, kicks, lastCall, -, hcall, heq⟩ := dispatch_cases s t ok
    · rw [step, heq]
      exact hs i
    · have hle : lastCall i ≤ s.next := by
        rw [hcall]
        split
        · rename_i r hring
          by_cases hir : i = r
          · rw [hir, Function.update_self]
          · rw [Function.update_of_ne hir]
            exact hs i
        · exact hs i
      rw [step, heq]
      exact hle

/-- **Every kick is served.** In every state that requests, kicks and the workers lead to: where the descriptor of an
enabled ring is registered, a kick over it leads to a call of the backend for the ring, or the ring is stopped,
disabled or given another descriptor, or its worker ends. -/
theorem kick_served {b : B} {mem : M} {heap : LogHeap} {n : Nat} (hnew : VhostUserHandler.new d b mem heap n = some h)
    (hq : h.numQueues ≤ 64) (as : List Action) (i t : Nat) (fd : File) (e : UInt64) :
    Served d nonblock i t fd e (Trace.run (step d nonblock) (init h) as).next
      ((Trace.run (step d nonblock) (init h) as).kick fd) := by
  have hw : h.Wired := VhostUserHandler.wired_new hnew hq
  have hroute : RouteInv h (Trace.run (step d nonblock) (init h) as) :=
    @Trace.inv_run _ _ (step d nonblock) (RouteInv h) (fun _ a hr => routeInv_step hw hr a) as _ (routeInv_init hnew)
  have hcall : ∀ i, (Trace.run (step d nonblock) (init h) as).lastCall i ≤ (Trace.run (step d nonblock) (init h) as).next :=
    @Trace.inv_run _ _ (step d nonblock) (fun s => ∀ i, s.lastCall i ≤ s.next) (fun _ a hs i => lastCall_step hs a i) as _
      fun _ => le_rfl
  refine served_of_owed hw (hcall i) fun hs => ⟨hroute.congr rfl rfl rfl rfl, hs, Nat.lt_succ_self _, .inl ?_⟩
  simp [kick]

/-! Another kick of the last ring of the second worker. -/

theorem serving_maskedRun :
    (Trace.run (step maskedDeps fun _ => true) (init maskedHandler) maskedRun).Serving 2 1 5 2 := by
  refine ⟨by decide, ⟨⟨⟨256, 256, true, 0, 0, false, 0, 0, 0⟩, some 5, none, none, true⟩, by decide, rfl, rfl⟩, ?_,
    ⟨⟨[(9, 3), (5, 2)], [0, 1, 2], 1, some 9⟩, by decide, by decide⟩⟩
  rintro j ⟨v, hv, hk⟩
  have hall : ∀ p ∈ (Trace.run (step maskedDeps fun _ => true) (init maskedHandler) maskedRun).handler.vrings.zipIdx,
      p.1.kick = some 5 → p.2 = 2 := by decide
  exact hall (v, j) (List.mem_zipIdx_iff_getElem?.2 hv) hk

theorem kick_served_masked :
    (Trace.run (step maskedDeps fun _ => true) (init maskedHandler) maskedRun).Serving 2 1 5 2 ∧
      Served maskedDeps (fun _ => true) 2 1 5 2 1
        ((Trace.run (step maskedDeps fun _ => true) (init maskedHandler) maskedRun).kick 5) :=
  ⟨serving_maskedRun, kick_served new_maskedHandler (by decide) maskedRun 2 1 5 2⟩

end Sys
end VhostUser
