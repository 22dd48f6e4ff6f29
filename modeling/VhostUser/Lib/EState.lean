import Mathlib.Tactic.Common
/-!
# Running `EStateM` computations

The equations that run a computation one step, and the frame rule: `Keeps p x` says that `x`
leaves the part `p` of the state alone, whether it succeeds or fails. Frames compose over `>>=`,
so a frame of a long computation follows from the frames of its primitives.
-/
namespace EState

universe u

variable {ε σ α β : Type u} {γ : Type*}

theorem bind_apply (x : EStateM ε σ α) (f : α → EStateM ε σ β) (s : σ) :
    (x >>= f) s = match x s with
      | .ok a s' => f a s'
      | .error e s' => .error e s' := rfl

theorem bind_of_ok {x : EStateM ε σ α} {f : α → EStateM ε σ β} {s s' : σ} {a : α} (h : x s = .ok a s') :
    (x >>= f) s = f a s' := by
  rw [bind_apply, h]

/-- A sequence that went through, at its first step. -/
theorem bind_of_error {x : EStateM ε σ α} {f : α → EStateM ε σ β} {s s' : σ} {e : ε} (h : x s = .error e s') :
    (x >>= f) s = .error e s' := by
  rw [bind_apply, h]

theorem bind_eq_ok {x : EStateM ε σ α} {f : α → EStateM ε σ β} {s s' : σ} {b : β} (h : (x >>= f) s = .ok b s') :
    ∃ a s₁, x s = .ok a s₁ ∧ f a s₁ = .ok b s' := by
  rw [bind_apply] at h
  cases hx : x s with
  | ok a s₁ =>
    rw [hx] at h
    exact ⟨a, s₁, rfl, h⟩
  | error e s₁ =>
    rw [hx] at h
    cases h

theorem pure_apply (a : α) (s : σ) : (pure a : EStateM ε σ α) s = .ok a s := rfl

theorem throw_apply (e : ε) (s : σ) : (throw e : EStateM ε σ α) s = .error e s := rfl

theorem get_apply (s : σ) : (get : EStateM ε σ σ) s = .ok s s := rfl

/-- The same for a computation without state. -/
theorem except_bind_ok {y : Except ε α} {f : α → Except ε β} {b : β} (h : (y >>= f) = .ok b) :
    ∃ a, y = .ok a ∧ f a = .ok b := by
  cases y with
  | ok a => exact ⟨a, rfl, h⟩
  | error e => cases h

/-- A check that stops the computation, as part of what it takes to come back with a value. -/
theorem returns_check {c : Prop} [Decidable c] {e : ε} {y : EStateM ε σ β} {s : σ} :
    (∃ b s', (if c then (MonadExcept.throw e : EStateM ε σ α) >>= fun _ => y else y) s = .ok b s') ↔
      ¬c ∧ ∃ b s', y s = .ok b s' := by
  by_cases hc : c
  · rw [if_pos hc]
    refine iff_of_false ?_ fun h => h.1 hc
    rintro ⟨b, s', h⟩
    cases h
  · rw [if_neg hc]
    simp [hc]

/-- If the computation succeeds, its value has `P`. -/
def Ensures (P : α → Prop) (y : Except ε α) : Prop := ∀ a, y = .ok a → P a

namespace Ensures
variable {P : β → Prop}

theorem pure {b : β} (h : P b) : Ensures P (pure b : Except ε β) := by
  intro b' hb'
  cases hb'
  exact h

theorem throw (e : ε) : Ensures P (throw e : Except ε β) := by
  intro b hb
  cases hb

theorem bind {y : Except ε α} {f : α → Except ε β} (hf : ∀ a, Ensures P (f a)) : Ensures P (y >>= f) := by
  cases y with
  | ok a => exact hf a
  | error e => exact throw e

theorem ite {c : Prop} [Decidable c] {y z : Except ε β} (hy : Ensures P y) (hz : Ensures P z) :
    Ensures P (if c then y else z) := by
  split
  · exact hy
  · exact hz

/-- A check that stops the computation. -/
theorem check {c : Prop} [Decidable c] {e : ε} {y : Except ε β} (hy : Ensures P y) :
    Ensures P (if c then (MonadExcept.throw e : Except ε α) >>= fun _ => y else y) :=
  .ite (.bind fun _ => hy) hy

end Ensures

/-- The state a computation ended in. -/
def final : EStateM.Result ε σ α → σ
  | .ok _ s => s
  | .error _ s => s

/-- The computation does not touch the part `p` of the state. -/
def Keeps (p : σ → γ) (x : EStateM ε σ α) : Prop := ∀ s, p (final (x s)) = p s

section Rules
variable {p : σ → γ}

theorem Keeps.pure (a : α) : Keeps p (pure a : EStateM ε σ α) := fun _ => rfl

theorem Keeps.throw (e : ε) : Keeps p (throw e : EStateM ε σ α) := fun _ => rfl

theorem Keeps.bind {x : EStateM ε σ α} {f : α → EStateM ε σ β} (hx : Keeps p x)
    (hf : ∀ a, Keeps p (f a)) : Keeps p (x >>= f) := by
  intro s
  have h := hx s
  rw [bind_apply]
  cases hr : x s with
  | ok a s' =>
    rw [hr] at h
    exact (hf a s').trans h
  | error e s' =>
    rw [hr] at h
    exact h

/-- A continuation that leaves `p` alone does not show in `p`. -/
theorem final_bind_of_keeps {x : EStateM ε σ α} {f : α → EStateM ε σ β} (hf : ∀ a, Keeps p (f a)) {s : σ} :
    p (final ((x >>= f) s)) = p (final (x s)) := by
  rw [bind_apply]
  cases x s with
  | ok a s' => exact hf a s'
  | error e s' => rfl

/-- What follows may rely on `p` being as it was. -/
theorem Keeps.bind_congr {x : EStateM ε σ α} {f g : α → EStateM ε σ β} (hx : Keeps p x) {s : σ}
    (h : ∀ a s', p s' = p s → f a s' = g a s') : (x >>= f) s = (x >>= g) s := by
  have hp := hx s
  rw [bind_apply, bind_apply]
  cases hr : x s with
  | ok a s' =>
    rw [hr] at hp
    exact h a s' hp
  | error e s' => rfl

theorem Keeps.ite {c : Prop} [Decidable c] {x y : EStateM ε σ α} (hx : Keeps p x) (hy : Keeps p y) :
    Keeps p (if c then x else y) := by
  split
  · exact hx
  · exact hy

/-- A check that stops the computation. -/
theorem Keeps.check {c : Prop} [Decidable c] {e : ε} {y : EStateM ε σ β} (hy : Keeps p y) :
    Keeps p (if c then (MonadExcept.throw e : EStateM ε σ α) >>= fun _ => y else y) :=
  .ite (.bind (.throw _) fun _ => hy) hy

end Rules

/-- The computation takes states with `q` to states with `q`. -/
def Preserves (q : σ → Prop) (x : EStateM ε σ α) : Prop := ∀ s, q s → q (final (x s))

namespace Preserves
variable {q : σ → Prop}

theorem pure (a : α) : Preserves q (pure a : EStateM ε σ α) := fun _ h => h

theorem throw (e : ε) : Preserves q (throw e : EStateM ε σ α) := fun _ h => h

theorem of_keeps {p : σ → γ} {r : γ → Prop} {x : EStateM ε σ α} (h : Keeps p x) : Preserves (fun s => r (p s)) x := by
  intro s hs
  rw [h s]
  exact hs

theorem bind {x : EStateM ε σ α} {f : α → EStateM ε σ β} (hx : Preserves q x) (hf : ∀ a, Preserves q (f a)) :
    Preserves q (x >>= f) := by
  intro s hs
  have h := hx s hs
  rw [bind_apply]
  cases hr : x s with
  | ok a s' =>
    rw [hr] at h
    exact hf a s' h
  | error e s' =>
    rw [hr] at h
    exact h

theorem ite {c : Prop} [Decidable c] {x y : EStateM ε σ α} (hx : c → Preserves q x) (hy : ¬c → Preserves q y) :
    Preserves q (if c then x else y) := by
  split
  · rename_i h
    exact hx h
  · rename_i h
    exact hy h

/-- A check that stops the computation; what follows may rely on it. -/
theorem check {c : Prop} [Decidable c] {e : ε} {y : EStateM ε σ β} (hy : ¬c → Preserves q y) :
    Preserves q (if c then (MonadExcept.throw e : EStateM ε σ α) >>= fun _ => y else y) :=
  .ite (fun _ _ h => h) hy

end Preserves

/-- Where the computation succeeds, the list `p` has grown by `n`. -/
def Grows (p : σ → List γ) (n : ℕ) (x : EStateM ε σ α) : Prop :=
  ∀ s a s', x s = .ok a s' → (p s').length = (p s).length + n

namespace Grows
variable {p : σ → List γ} {n m : ℕ}

theorem of_keeps {x : EStateM ε σ α} (h : Keeps p x) : Grows p 0 x := by
  intro s a s' hx
  have hs := h s
  rw [hx] at hs
  exact congrArg List.length hs

theorem throw (e : ε) : Grows p n (throw e : EStateM ε σ α) := by
  intro s a s' h
  cases h

theorem bind {x : EStateM ε σ α} {f : α → EStateM ε σ β} (hx : Grows p n x) (hf : ∀ a, Grows p m (f a)) :
    Grows p (n + m) (x >>= f) := by
  intro s b s' h
  obtain ⟨a, s₁, h₁, h₂⟩ := bind_eq_ok h
  rw [hf a s₁ b s' h₂, hx s a s₁ h₁, Nat.add_assoc]

/-- What comes before the growth. -/
theorem after {x : EStateM ε σ α} {f : α → EStateM ε σ β} (hx : Keeps p x) (hf : ∀ a, Grows p n (f a)) :
    Grows p n (x >>= f) := by
  have h := (of_keeps hx).bind hf
  rwa [Nat.zero_add] at h

/-- What comes behind it. -/
theorem before {x : EStateM ε σ α} {f : α → EStateM ε σ β} (hx : Grows p n x) (hf : ∀ a, Keeps p (f a)) :
    Grows p n (x >>= f) :=
  hx.bind fun a => of_keeps (hf a)

theorem ite {c : Prop} [Decidable c] {x y : EStateM ε σ α} (hx : Grows p n x) (hy : Grows p n y) :
    Grows p n (if c then x else y) := by
  split
  · exact hx
  · exact hy

/-- A check that stops the computation. -/
theorem check {c : Prop} [Decidable c] {e : ε} {y : EStateM ε σ β} (hy : Grows p n y) :
    Grows p n (if c then (MonadExcept.throw e : EStateM ε σ α) >>= fun _ => y else y) := by
  refine ite ?_ hy
  intro s a s' h
  cases h

end Grows

end EState
