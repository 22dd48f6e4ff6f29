import Mathlib.Tactic.Common
/-!
# Runs of a step function

A machine is a total `step : σ → α → σ`; an action that is not enabled leaves the state as
it is. A run is a list of actions.

* `run` — the state after the run.
* `Visits P` — `P` holds of every state of the run, the first and the last included.
* `Along C` — `C` holds of every pair (state before, action) of the run.

`visits_of_along` is the invariant rule; `visits_iff_along` is the exact form used when the
condition on the steps is not only enough but also needed. A step that may fail is
`σ → α → Option σ`, and its runs are `List.foldlM`.
-/
namespace Trace

variable {σ α : Type*} (step : σ → α → σ)

def run (s : σ) (as : List α) : σ := as.foldl step s

def Visits (P : σ → Prop) : σ → List α → Prop
  | s, [] => P s
  | s, a :: as => P s ∧ Visits P (step s a) as

def Along (C : σ → α → Prop) : σ → List α → Prop
  | _, [] => True
  | s, a :: as => C s a ∧ Along C (step s a) as

variable {step}

@[simp] theorem run_nil (s : σ) : run step s [] = s := rfl

@[simp] theorem run_cons (s : σ) (a : α) (as : List α) :
    run step s (a :: as) = run step (step s a) as := rfl

theorem Visits.first {P : σ → Prop} {as : List α} {s : σ} (h : Visits step P s as) : P s := by
  cases as with
  | nil => exact h
  | cons a as => exact h.1

theorem Visits.last {P : σ → Prop} {as : List α} {s : σ} (h : Visits step P s as) :
    P (run step s as) := by
  induction as generalizing s with
  | nil => exact h
  | cons a as ih => exact ih h.2

theorem Visits.mono {P Q : σ → Prop} (hPQ : ∀ s, P s → Q s) {as : List α} {s : σ}
    (h : Visits step P s as) : Visits step Q s as := by
  induction as generalizing s with
  | nil => exact hPQ s h
  | cons a as ih => exact ⟨hPQ s h.1, ih h.2⟩

theorem Along.mono {C D : σ → α → Prop} (hCD : ∀ s a, C s a → D s a) {as : List α} {s : σ}
    (h : Along step C s as) : Along step D s as := by
  induction as generalizing s with
  | nil => trivial
  | cons a as ih => exact ⟨hCD s a h.1, ih h.2⟩

theorem Along.and {C D : σ → α → Prop} {as : List α} {s : σ} (h : Along step C s as)
    (k : Along step D s as) : Along step (fun s a => C s a ∧ D s a) s as := by
  induction as generalizing s with
  | nil => trivial
  | cons a as ih => exact ⟨⟨h.1, k.1⟩, ih h.2 k.2⟩

/-- A condition on the actions alone. -/
theorem along_iff_forall {C : α → Prop} {as : List α} {s : σ} :
    Along step (fun _ a => C a) s as ↔ ∀ a ∈ as, C a := by
  induction as generalizing s with
  | nil => simp [Along]
  | cons a as ih => simp only [Along, ih, List.mem_cons, forall_eq_or_imp]

theorem along_append {C : σ → α → Prop} {as bs : List α} {s : σ} :
    Along step C s (as ++ bs) ↔ Along step C s as ∧ Along step C (run step s as) bs := by
  induction as generalizing s with
  | nil => simp [Along]
  | cons a as ih => simp only [List.cons_append, Along, ih, run_cons, and_assoc]

/-- The invariant rule: what holds at the start and is kept by every step that meets `C`
holds in every state of a run whose steps all meet `C`. -/
theorem visits_of_along {I : σ → Prop} {C : σ → α → Prop}
    (hstep : ∀ s a, I s → C s a → I (step s a)) (as : List α) (s : σ) (h0 : I s)
    (hc : Along step C s as) : Visits step I s as := by
  induction as generalizing s with
  | nil => exact h0
  | cons a as ih => exact ⟨h0, ih _ (hstep s a h0 hc.1) hc.2⟩

/-- What follows on every step from the invariant and the step's condition holds along the run. -/
theorem along_of_along {I : σ → Prop} {C D : σ → α → Prop}
    (hstep : ∀ s a, I s → C s a → I (step s a)) (hD : ∀ s a, I s → C s a → D s a)
    (as : List α) (s : σ) (h0 : I s) (hc : Along step C s as) : Along step D s as := by
  induction as generalizing s with
  | nil => trivial
  | cons a as ih => exact ⟨hD s a h0 hc.1, ih _ (hstep s a h0 hc.1) hc.2⟩

/-- Where every step keeps the invariant, so does every run. -/
theorem inv_run {I : σ → Prop} (hstep : ∀ s a, I s → I (step s a)) (as : List α) (s : σ) (h0 : I s) :
    I (run step s as) := by
  induction as generalizing s with
  | nil => exact h0
  | cons a as ih => exact ih _ (hstep s a h0)

/-- What follows from an invariant that every step keeps holds along every run. -/
theorem along_of_inv {I : σ → Prop} {D : σ → α → Prop} (hstep : ∀ s a, I s → I (step s a))
    (hD : ∀ s a, I s → D s a) (as : List α) (s : σ) (h0 : I s) : Along step D s as :=
  along_of_along (C := fun _ _ => True) (fun s a hi _ => hstep s a hi) (fun s a hi _ => hD s a hi) as s h0
    (along_iff_forall.2 fun _ _ => trivial)

/-- The exact rule. `J` is a background invariant, `F` what the environment promises of
each step; if under both a step keeps `P` exactly when it meets `C`, then `P` holds along
the whole run exactly when every step meets `C`. -/
theorem visits_iff_along {J P : σ → Prop} {F C : σ → α → Prop}
    (hJ : ∀ s a, J s → P s → F s a → C s a → J (step s a))
    (hP : ∀ s a, J s → P s → F s a → (P (step s a) ↔ C s a)) (as : List α) (s : σ) (hj : J s)
    (h0 : P s) (hf : Along step F s as) : Visits step P s as ↔ Along step C s as := by
  induction as generalizing s with
  | nil => simp [Visits, Along, h0]
  | cons a as ih =>
    have hiff := hP s a hj h0 hf.1
    simp only [Visits, Along, h0, true_and]
    constructor
    · intro hv
      have hc := hiff.1 hv.first
      exact ⟨hc, (ih _ (hJ s a hj h0 hf.1 hc) hv.first hf.2).1 hv⟩
    · rintro ⟨hc, ha⟩
      exact (ih _ (hJ s a hj h0 hf.1 hc) (hiff.2 hc) hf.2).2 ha

/-- Two conditions that agree on every step from a state of `I` agree on every run, when `I` is
kept by the steps that meet the first. -/
theorem along_iff_along {I : σ → Prop} {P C : σ → α → Prop}
    (hI : ∀ s a, I s → P s a → I (step s a)) (hP : ∀ s a, I s → (P s a ↔ C s a)) (as : List α)
    (s : σ) (hi : I s) : Along step P s as ↔ Along step C s as := by
  induction as generalizing s with
  | nil => exact Iff.rfl
  | cons a as ih =>
    simp only [Along, ← hP s a hi]
    constructor
    · rintro ⟨hp, ha⟩
      exact ⟨hp, (ih _ (hI s a hi hp)).1 ha⟩
    · rintro ⟨hp, ha⟩
      exact ⟨hp, (ih _ (hI s a hi hp)).2 ha⟩

/-- The states of a run: the first one, and those its steps lead to. -/
theorem visits_iff_along_next {P : σ → Prop} {as : List α} {s : σ} :
    Visits step P s as ↔ P s ∧ Along step (fun s a => P (step s a)) s as := by
  induction as generalizing s with
  | nil => simp [Visits, Along]
  | cons a as ih => simp only [Visits, Along, ih]

/-! ## Steps that may fail -/

/-- Where every step from a state of `I` goes through and keeps `I`, so does every run. -/
theorem foldlM_of_inv {step : σ → α → Option σ} {I : σ → Prop}
    (hstep : ∀ s a, I s → ∃ s', step s a = some s' ∧ I s') (as : List α) (s : σ) (h0 : I s) :
    ∃ s', as.foldlM step s = some s' ∧ I s' := by
  induction as generalizing s with
  | nil => exact ⟨s, rfl, h0⟩
  | cons a as ih =>
    obtain ⟨s₁, hs₁, h1⟩ := hstep s a h0
    obtain ⟨s', hs', h'⟩ := ih s₁ h1
    refine ⟨s', ?_, h'⟩
    rw [List.foldlM_cons, hs₁]
    exact hs'

end Trace
