import Mathlib.Order.Nat
import Mathlib.Tactic.Common
/-!
# Progress of one party among many

A system moves by labelled steps `step s a t`; some labels are the moves of the party that is watched, the others
come in between in any number. A rank that its own moves lower and nobody raises bounds how often the party can
still move (`Rank.count_le`), and where it is never stuck before the rank is zero it gets there, alone
(`Rank.exists_run`) and on every run that gives it its turn again and again (`Rank.eventually`).
-/
namespace Progress

variable {σ ι : Type*} (step : σ → ι → σ → Prop)

inductive Run : σ → List ι → σ → Prop where
  | nil (s : σ) : Run s [] s
  | cons {s t u : σ} {a : ι} {as : List ι} : step s a t → Run t as u → Run s (a :: as) u

/-- As long as `P` holds, which every step keeps, the moves in `own` lower `m` and no step raises it. -/
structure Rank (P : σ → Prop) (own : ι → Bool) (m : σ → Nat) : Prop where
  keeps : ∀ {s t a}, P s → step s a t → P t
  le : ∀ {s t a}, P s → step s a t → m t ≤ m s
  lt : ∀ {s t a}, P s → step s a t → own a = true → m t < m s

variable {step} {P : σ → Prop} {own : ι → Bool} {m : σ → Nat} {s t : σ} {as : List ι}

theorem Run.mono {step' : σ → ι → σ → Prop} (hsub : ∀ {s a t}, step s a t → step' s a t) (hrun : Run step s as t) :
    Run step' s as t := by
  induction hrun with
  | nil => exact .nil _
  | cons hstep _ ih => exact .cons (hsub hstep) ih

theorem Rank.run (h : Rank step P own m) (hs : P s) (hrun : Run step s as t) : P t := by
  induction hrun with
  | nil => exact hs
  | cons hstep _ ih => exact ih (h.keeps hs hstep)

/-- **The party moves at most as often as the rank says.** -/
theorem Rank.count_le (h : Rank step P own m) (hs : P s) (hrun : Run step s as t) : m t + as.countP own ≤ m s := by
  induction hrun with
  | nil => exact le_rfl
  | @cons s t u a as hstep _ ih =>
    have hrest := ih (h.keeps hs hstep)
    cases ha : own a with
    | true =>
      have hlt := h.lt hs hstep ha
      rw [List.countP_cons_of_pos ha]
      omega
    | false =>
      have hle := h.le hs hstep
      rw [List.countP_cons_of_neg (by simp [ha])]
      omega

/-- Left alone the party comes to the end. -/
theorem Rank.exists_run (h : Rank step P own m) (hgo : ∀ s, P s → m s ≠ 0 → ∃ a t, own a = true ∧ step s a t)
    (hs : P s) : ∃ as t, (∀ a ∈ as, own a = true) ∧ Run step s as t ∧ m t = 0 := by
  induction hn : m s using Nat.strongRecOn generalizing s with
  | _ n ih =>
    by_cases h0 : m s = 0
    · exact ⟨[], s, by simp, .nil s, h0⟩
    · obtain ⟨a, t, ha, hstep⟩ := hgo s hs h0
      obtain ⟨as, u, hown, hrun, hu⟩ := ih (m t) (hn ▸ h.lt hs hstep ha) (h.keeps hs hstep) rfl
      exact ⟨a :: as, u, by simpa using ⟨ha, hown⟩, .cons hstep hrun, hu⟩

section Fair
variable {ρ : ℕ → σ} {lab : ℕ → ι}

theorem Rank.run_le (h : Rank step P own m) (hrun : ∀ n, step (ρ n) (lab n) (ρ (n + 1))) (h0 : P (ρ 0)) {n k : ℕ}
    (hnk : n ≤ k) : m (ρ k) ≤ m (ρ n) ∧ P (ρ k) := by
  have hP (n : ℕ) : P (ρ n) := by
    induction n with
    | zero => exact h0
    | succ n ih => exact h.keeps ih (hrun n)
  refine ⟨?_, hP k⟩
  induction hnk with
  | refl => exact le_rfl
  | step _ ih => exact (h.le (hP _) (hrun _)).trans ih

/-- **The party gets there on every fair run**, whatever the others do. -/
theorem Rank.eventually (h : Rank step P own m) (hrun : ∀ n, step (ρ n) (lab n) (ρ (n + 1)))
    (hfair : ∀ n, m (ρ n) ≠ 0 → ∃ k, n ≤ k ∧ own (lab k) = true) (h0 : P (ρ 0)) : ∃ n, m (ρ n) = 0 := by
  -- each turn lowers the rank
  have hreach (r n : ℕ) (hn : m (ρ n) = r) : ∃ k, m (ρ k) = 0 := by
    induction r using Nat.strongRecOn generalizing n with
    | _ r ih =>
      by_cases hr : m (ρ n) = 0
      · exact ⟨n, hr⟩
      · obtain ⟨k, hnk, hk⟩ := hfair n hr
        obtain ⟨hle, hPk⟩ := h.run_le hrun h0 hnk
        have hlt := h.lt hPk (hrun k) hk
        exact ih _ (by omega) (k + 1) rfl
  exact hreach _ 0 rfl

/-- Any number of parties get there together. -/
theorem eventually_all {κ : Type*} {P : κ → σ → Prop} {own : κ → ι → Bool} {m : κ → σ → ℕ} (is : List κ)
    (h : ∀ i ∈ is, Rank step (P i) (own i) (m i)) (hrun : ∀ n, step (ρ n) (lab n) (ρ (n + 1)))
    (hfair : ∀ i ∈ is, ∀ n, m i (ρ n) ≠ 0 → ∃ k, n ≤ k ∧ own i (lab k) = true) (h0 : ∀ i ∈ is, P i (ρ 0)) :
    ∃ n, ∀ i ∈ is, m i (ρ n) = 0 := by
  induction is with
  | nil => exact ⟨0, by simp⟩
  | cons i is ih =>
    simp only [List.forall_mem_cons] at h hfair h0 ⊢
    obtain ⟨k, hk⟩ := h.1.eventually hrun hfair.1 h0.1
    obtain ⟨n, hn⟩ := ih h.2 hfair.2 h0.2
    refine ⟨max k n, ?_, fun j hj => ?_⟩
    · exact Nat.le_zero.1 (hk ▸ (h.1.run_le hrun h0.1 (le_max_left k n)).1)
    · exact Nat.le_zero.1 (hn j hj ▸ ((h.2 j hj).run_le hrun (h0.2 j hj) (le_max_right k n)).1)

end Fair

end Progress
