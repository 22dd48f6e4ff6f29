import Mathlib.Data.List.Pairwise
import Mathlib.Logic.Function.Iterate
/-!
# Segments of a line and their images

An `a : α` stands for the segment of the natural numbers that begins at `lo a` and has `len a` points.
A list of segments that are pairwise apart is sorted in at most one way (`eq_of_perm`), and each
point lies in at most one of them (`eq_of_covers`).

Each segment has an image: its first point goes to `first a`, the next ones follow by `step`. The points
from `x` on go to successive points exactly as long as no segment ends among them without
another that begins there and continues its image (`contiguous_iff`).
-/
namespace Segments

section Order
variable {α : Type*} (lo len : α → Nat)

/-- `a` ends where `b` begins, or earlier. -/
def Precedes (a b : α) : Prop := lo a + len a ≤ lo b

def Apart (a b : α) : Prop := Precedes lo len a b ∨ Precedes lo len b a

def Covers (a : α) (x : Nat) : Prop := lo a ≤ x ∧ x < lo a + len a

instance : DecidableRel (Precedes lo len) := fun a b => inferInstanceAs (Decidable (lo a + len a ≤ lo b))
instance : DecidableRel (Apart lo len) := fun _ _ => inferInstanceAs (Decidable (_ ∨ _))
instance (a : α) (x : Nat) : Decidable (Covers lo len a x) := inferInstanceAs (Decidable (_ ∧ _))

variable {lo len} {a b : α} {l l' : List α} {x y : Nat}

theorem Apart.symm (h : Apart lo len a b) : Apart lo len b a := Or.symm h

instance : Std.Symm (Apart lo len) := ⟨fun _ _ h => h.symm⟩

theorem Precedes.lt (h : Precedes lo len a b) (hx : Covers lo len a x) (hy : Covers lo len b y) : x < y := by
  obtain ⟨-, hx⟩ := hx
  obtain ⟨hy, -⟩ := hy
  unfold Precedes at h
  omega

theorem Apart.not_covers (h : Apart lo len a b) (hx : Covers lo len a x) : ¬ Covers lo len b x := by
  intro hy
  rcases h with h | h
  · exact Nat.lt_irrefl x (h.lt hx hy)
  · exact Nat.lt_irrefl x (h.lt hy hx)

theorem apart_of_sorted (h : l.Pairwise (Precedes lo len)) : l.Pairwise (Apart lo len) := h.imp .inl

theorem pairwise_apart_perm (hp : l.Perm l') : l.Pairwise (Apart lo len) ↔ l'.Pairwise (Apart lo len) :=
  hp.pairwise_iff fun h => h.symm

/-- **There is one way to sort segments.** -/
theorem eq_of_perm (hp : l.Perm l') (hs : l.Pairwise (Precedes lo len)) (hs' : l'.Pairwise (Precedes lo len))
    (hpos : ∀ a ∈ l, 0 < len a) : l = l' := by
  refine hp.eq_of_pairwise (fun a b ha _ hab hba => ?_) hs hs'
  have ha := hpos a ha
  unfold Precedes at hab hba
  omega

theorem sorted_of_apart (hlo : l.Pairwise fun a b => lo a ≤ lo b) (hl : l.Pairwise (Apart lo len))
    (hpos : ∀ a ∈ l, 0 < len a) : l.Pairwise (Precedes lo len) := by
  refine (hlo.and hl).imp_of_mem fun {a b} _ hb h => ?_
  have hb := hpos b hb
  obtain ⟨hle, hab | hba⟩ := h
  · exact hab
  · unfold Precedes at hba
    omega

/-- **A point lies in one segment at most.** -/
theorem eq_of_covers (hl : l.Pairwise (Apart lo len)) (ha : a ∈ l) (hb : b ∈ l) (hax : Covers lo len a x)
    (hbx : Covers lo len b x) : a = b := by
  by_contra hne
  have hab : Apart lo len a b := hl.forall ha hb hne
  exact hab.not_covers hax hbx

/-- A segment with the first point after another begins at this point. -/
theorem lo_eq_of_covers_end (hl : l.Pairwise (Apart lo len)) (ha : a ∈ l) (hb : b ∈ l) (hpos : 0 < len a)
    (hcov : Covers lo len b (lo a + len a)) : lo b = lo a + len a := by
  obtain ⟨hle, hlt⟩ := hcov
  have hne : a ≠ b := by
    rintro rfl
    omega
  have hab : Apart lo len a b := hl.forall ha hb hne
  rcases hab with h | h
  · unfold Precedes at h
    omega
  · unfold Precedes at h
    omega

end Order

/-! ## Images -/

section Images
variable {α τ : Type*} (lo len : α → Nat) (first : α → τ) (step : τ → τ)

/-- The image of the point `x`: by the first segment that has it. -/
def image (l : List α) (x : Nat) : Option τ :=
  (l.find? fun a => Covers lo len a x).map fun a => step^[x - lo a] (first a)

/-- Where a segment ends between `x` and the last of the `n` points from `x` on, another begins and
goes on with its image. -/
def Seamless (l : List α) (x n : Nat) : Prop :=
  ∀ a ∈ l, 0 < len a → x < lo a + len a → lo a + len a < x + n →
    ∃ b ∈ l, 0 < len b ∧ lo b = lo a + len a ∧ first b = step^[len a] (first a)

variable {lo len first step} {a : α} {l : List α} {x n : Nat} {t : τ}

theorem image_of_covers (hl : l.Pairwise (Apart lo len)) (ha : a ∈ l) (hx : Covers lo len a x) :
    image lo len first step l x = some (step^[x - lo a] (first a)) := by
  cases hf : l.find? fun a => Covers lo len a x with
  | none =>
    have := List.find?_eq_none.1 hf a ha
    simp [hx] at this
  | some b =>
    have hb := List.find?_some hf
    have heq : b = a :=
      eq_of_covers hl (List.mem_of_find?_eq_some hf) ha (by simpa using hb) hx
    rw [image, hf, heq]
    rfl

theorem image_eq_some (h : image lo len first step l x = some t) :
    ∃ a ∈ l, Covers lo len a x ∧ t = step^[x - lo a] (first a) := by
  obtain ⟨a, hf, rfl⟩ := Option.map_eq_some_iff.1 h
  have hcov := List.find?_some hf
  exact ⟨a, List.mem_of_find?_eq_some hf, by simpa using hcov, rfl⟩

theorem image_eq_none : image lo len first step l x = none ↔ ∀ a ∈ l, ¬Covers lo len a x := by
  simp [image]

theorem image_cons : image lo len first step (a :: l) x =
    if Covers lo len a x then some (step^[x - lo a] (first a)) else image lo len first step l x := by
  unfold image
  rw [List.find?_cons]
  split
  · rename_i hx
    rw [if_pos (by simpa using hx)]
    rfl
  · rename_i hx
    rw [if_neg (by simpa using hx)]

/-- The order of segments that are apart does not matter. -/
theorem image_perm {l' : List α} (hl : l.Pairwise (Apart lo len)) (hp : l.Perm l') :
    image lo len first step l x = image lo len first step l' x := by
  cases hi : image lo len first step l x with
  | none =>
    rw [image_eq_none] at hi
    exact (image_eq_none.2 fun a ha => hi a (hp.mem_iff.2 ha)).symm
  | some t =>
    obtain ⟨a, ha, hcov, rfl⟩ := image_eq_some hi
    exact (image_of_covers ((pairwise_apart_perm hp).1 hl) (hp.mem_iff.1 ha) hcov).symm

/-- Without one of the segments, its points have no image. -/
theorem image_remove {pre post : List α} (hl : (pre ++ a :: post).Pairwise (Apart lo len)) :
    image lo len first step (pre ++ post) x =
      if Covers lo len a x then none else image lo len first step (pre ++ a :: post) x := by
  have hp : (pre ++ a :: post).Perm (a :: (pre ++ post)) := List.perm_middle
  have hl' := (pairwise_apart_perm hp).1 hl
  rw [image_perm hl hp, image_cons]
  split
  · rename_i hcov
    exact image_eq_none.2 fun b hb => ((List.pairwise_cons.1 hl').1 b hb).not_covers hcov
  · rfl

/-- From a point to the next one. -/
theorem image_succ (hl : l.Pairwise (Apart lo len)) (hs : Seamless lo len first step l x n) {k : Nat} (hk : k + 1 < n)
    (h : image lo len first step l (x + k) = some t) : image lo len first step l (x + (k + 1)) = some (step t) := by
  obtain ⟨a, ha, ⟨hle, hlt⟩, rfl⟩ := image_eq_some h
  by_cases hin : x + (k + 1) < lo a + len a
  · have hcov : Covers lo len a (x + (k + 1)) := ⟨by omega, hin⟩
    rw [image_of_covers hl ha hcov, ← Function.iterate_succ_apply' step]
    congr 2
    omega
  · -- The segment ends here, and its successor takes over.
    obtain ⟨b, hb, hpos, hlo, hto⟩ := hs a ha (by omega) (by omega) (by omega)
    have hcov : Covers lo len b (x + (k + 1)) := ⟨by omega, by omega⟩
    rw [image_of_covers hl hb hcov, ← Function.iterate_succ_apply' step, hto, ← Function.iterate_add_apply]
    congr 2
    omega

/-- **The image of `n` points is in one piece exactly when** the segments they lie in fit together. -/
theorem contiguous_iff (hl : l.Pairwise (Apart lo len)) (h : image lo len first step l x = some t) :
    (∀ k < n, image lo len first step l (x + k) = some (step^[k] t)) ↔ Seamless lo len first step l x n := by
  constructor
  · intro hall a ha hpos hx hn
    -- The last point of `a` and the first one after it.
    obtain ⟨k, hk⟩ : ∃ k, lo a + len a = x + (k + 1) := ⟨lo a + len a - x - 1, by omega⟩
    obtain ⟨m, hm⟩ : ∃ m, len a = m + 1 := ⟨len a - 1, by omega⟩
    have hlast := hall k (by omega)
    have hcov : Covers lo len a (x + k) := ⟨by omega, by omega⟩
    rw [image_of_covers hl ha hcov, Option.some.injEq, show x + k - lo a = m by omega] at hlast
    obtain ⟨b, hb, hcovb, himg⟩ := image_eq_some (hall (k + 1) (by omega))
    rw [← hk] at hcovb himg
    have hlo : lo b = lo a + len a := lo_eq_of_covers_end hl ha hb hpos hcovb
    have hposb : 0 < len b := by
      have := hcovb.2
      omega
    refine ⟨b, hb, hposb, hlo, ?_⟩
    rw [hlo, Nat.sub_self, Function.iterate_zero_apply, Function.iterate_succ_apply', ← hlast] at himg
    rw [← himg, hm, Function.iterate_succ_apply']
  · intro hs k
    induction k with
    | zero => exact fun _ => h
    | succ k ih =>
      intro hk
      rw [Function.iterate_succ_apply']
      exact image_succ hl hs hk (ih (by omega))

end Images

end Segments
