import Mathlib.Tactic.Common
/-!
# Consuming a stream, frame by frame

A server in state `x` reads the frame at the front of what is left of a stream and acts on it. A frame that
cannot be read ends the session, and so does an action that reports an error.

* `Took rs` — the frames `rs` were read and acted on, one after the other.
* `Ends rs e` — the session acted on the frames `rs` and ended with `e`.

What is read is a function of the stream and the state, so there is one session to a stream
(`Ends.unique`), and whoever stopped earlier did the beginning of it (`Took.rest`).
-/
namespace Consume

variable {α ρ σ ε : Type*}

section Sessions
variable (next : σ → List α → Except ε (ρ × List α)) (act : σ → ρ → σ × Option ε)

inductive Took : σ → List α → List ρ → σ → List α → Prop where
  | nil (x : σ) (st : List α) : Took x st [] x st
  | cons {x y z : σ} {st mid rest : List α} {r : ρ} {rs : List ρ} : next x st = .ok (r, mid) → act x r = (y, none) →
      Took y mid rs z rest → Took x st (r :: rs) z rest

inductive Ends : σ → List α → List ρ → σ → ε → Prop where
  | unread {x : σ} {st : List α} {e : ε} : next x st = .error e → Ends x st [] x e
  | failed {x y : σ} {st mid : List α} {r : ρ} {e : ε} : next x st = .ok (r, mid) → act x r = (y, some e) →
      Ends x st [r] y e
  | cons {x y z : σ} {st mid : List α} {r : ρ} {rs : List ρ} {e : ε} : next x st = .ok (r, mid) →
      act x r = (y, none) → Ends y mid rs z e → Ends x st (r :: rs) z e

variable {next act} {x y z : σ} {st mid : List α} {rs rs' : List ρ} {e e' : ε}

/-- A session whose first frame was read and acted on without an error has that frame in it, and goes on
behind it. -/
theorem Ends.tail {r : ρ} (hnext : next x st = .ok (r, mid)) (hact : act x r = (y, none))
    (k : Ends next act x st rs z e) : ∃ rs', rs = r :: rs' ∧ Ends next act y mid rs' z e := by
  cases k with
  | unread hnext' => rw [hnext] at hnext'; cases hnext'
  | failed hnext' hact' =>
    rw [hnext] at hnext'
    cases hnext'
    rw [hact] at hact'
    cases hact'
  | cons hnext' hact' k =>
    rw [hnext] at hnext'
    cases hnext'
    rw [hact] at hact'
    cases hact'
    exact ⟨_, rfl, k⟩

/-- A session goes on from wherever somebody has got to. -/
theorem Took.rest (h : Took next act x st rs y mid) (k : Ends next act x st rs' z e) :
    ∃ rs'', rs' = rs ++ rs'' ∧ Ends next act y mid rs'' z e := by
  induction h generalizing rs' with
  | nil => exact ⟨rs', rfl, k⟩
  | cons hnext hact _ ih =>
    obtain ⟨rs₁, rfl, hrest⟩ := k.tail hnext hact
    obtain ⟨rs'', rfl, hends⟩ := ih hrest
    exact ⟨rs'', rfl, hends⟩

/-- **There is one session to a stream.** -/
theorem Ends.unique {z' : σ} (h : Ends next act x st rs z e) (k : Ends next act x st rs' z' e') :
    rs = rs' ∧ z = z' ∧ e = e' := by
  induction h generalizing rs' with
  | unread hnext =>
    cases k with
    | unread hnext' => rw [hnext] at hnext'; cases hnext'; exact ⟨rfl, rfl, rfl⟩
    | failed hnext' _ | cons hnext' _ _ => rw [hnext] at hnext'; cases hnext'
  | failed hnext hact =>
    cases k with
    | unread hnext' => rw [hnext] at hnext'; cases hnext'
    | failed hnext' hact' =>
      rw [hnext] at hnext'
      cases hnext'
      rw [hact] at hact'
      cases hact'
      exact ⟨rfl, rfl, rfl⟩
    | cons hnext' hact' _ =>
      rw [hnext] at hnext'
      cases hnext'
      rw [hact] at hact'
      cases hact'
  | cons hnext hact _ ih =>
    obtain ⟨rs₁, rfl, hrest⟩ := k.tail hnext hact
    obtain ⟨rfl, hz, he⟩ := ih hrest
    exact ⟨rfl, hz, he⟩

/-- What every action keeps between the state before and the state after holds between the ends of a
session. -/
theorem Took.keeps {R : σ → σ → Prop} (hrefl : ∀ x, R x x) (htrans : ∀ {x y z}, R x y → R y z → R x z)
    (hact : ∀ x r, R x (act x r).1) (h : Took next act x st rs y mid) : R x y := by
  induction h with
  | nil => exact hrefl _
  | @cons x y z st mid _ r rs _ hr _ ih =>
    have hstep := hact x r
    rw [hr] at hstep
    exact htrans hstep ih

theorem Ends.keeps {R : σ → σ → Prop} (hrefl : ∀ x, R x x) (htrans : ∀ {x y z}, R x y → R y z → R x z)
    (hact : ∀ x r, R x (act x r).1) (h : Ends next act x st rs y e) : R x y := by
  induction h with
  | unread => exact hrefl _
  | @failed x y st mid r e _ hr =>
    have hstep := hact x r
    rw [hr] at hstep
    exact hstep
  | @cons x y z st mid r rs e _ hr _ ih =>
    have hstep := hact x r
    rw [hr] at hstep
    exact htrans hstep ih

end Sessions

end Consume
