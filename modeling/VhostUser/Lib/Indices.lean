import Mathlib.Data.List.Basic
/-!
# Lists by their indices

* `PointUpdate` — `List.modify` at one index, under `map`, and folded over all indices.
* `Rank` — the members of `p` below `n`, in order, are `(List.range n).filter p`. A member stands there at its
  rank, the number of members below it.
-/
namespace PointUpdate

variable {α γ : Type*}

theorem length_foldl_modify (f : α → α) (is : List Nat) (vs : List α) :
    (is.foldl (fun vs i => vs.modify i f) vs).length = vs.length := by
  induction is generalizing vs with
  | nil => rfl
  | cons i is ih => rw [List.foldl_cons, ih, List.length_modify]

theorem getElem?_foldl_modify (f : α → α) (vs : List α) (j n : Nat) :
    ((List.range n).foldl (fun vs i => vs.modify i f) vs)[j]? = if j < n then vs[j]?.map f else vs[j]? := by
  induction n with
  | zero => simp
  | succ n ih =>
    rw [List.range_succ, List.foldl_append, List.foldl_cons, List.foldl_nil, List.getElem?_modify, ih]
    rcases Nat.lt_trichotomy j n with hlt | rfl | hgt
    · have hne : n ≠ j := by omega
      rw [if_pos hlt, if_pos (by omega)]
      simp [hne]
    · simp
    · have hne : n ≠ j := by omega
      rw [if_neg (by omega), if_neg (by omega)]
      simp [hne]

/-- Changing every entry by its index is changing all of them. -/
theorem foldl_modify_range (f : α → α) (vs : List α) :
    (List.range vs.length).foldl (fun vs i => vs.modify i f) vs = vs.map f := by
  apply List.ext_getElem?
  intro j
  rw [getElem?_foldl_modify, List.getElem?_map]
  split
  · rfl
  · rename_i hj
    rw [List.getElem?_eq_none (by omega), Option.map_none]

/-- Only the entry at the index counts. -/
theorem modify_congr {f g : α → α} {l : List α} {i : Nat} {a : α} (ha : l[i]? = some a)
    (hfg : f a = g a) : l.modify i f = l.modify i g := by
  apply List.ext_getElem?
  intro j
  rw [List.getElem?_modify, List.getElem?_modify]
  by_cases hij : i = j
  · subst hij
    simp [ha, hfg]
  · simp [hij]

theorem map_modify {g : α → γ} {f : α → α} {f' : γ → γ} (h : ∀ a, g (f a) = f' (g a))
    (l : List α) (i : Nat) : (l.modify i f).map g = (l.map g).modify i f' := by
  apply List.ext_getElem?
  intro j
  rw [List.getElem?_map, List.getElem?_modify, List.getElem?_modify, List.getElem?_map]
  cases l[j]? with
  | none => simp
  | some a =>
    by_cases hij : i = j
    · simp [hij, h]
    · simp [hij]

end PointUpdate

namespace Rank

variable {p : Nat → Bool} {i j n : Nat}

/-- The number of members below `i`. -/
def rank (p : Nat → Bool) (i : Nat) : Nat := (List.range i).countP p

theorem rank_add (p : Nat → Bool) (m n : Nat) : rank p (m + n) = rank p m + rank (fun j => p (m + j)) n := by
  rw [rank, List.range_add, List.countP_append, List.countP_map]
  rfl

theorem rank_le (p : Nat → Bool) (i : Nat) : rank p i ≤ i := by
  have hle : (List.range i).countP p ≤ (List.range i).length := List.countP_le_length
  rw [List.length_range] at hle
  exact hle

theorem rank_eq_zero (h : ∀ j, j < n → p j = false) : rank p n = 0 :=
  List.countP_eq_zero.2 fun j hj => by simp [h j (List.mem_range.1 hj)]

/-- **A member stands at its rank.** -/
theorem getElem?_filter_range (hi : i < n) (hp : p i = true) :
    ((List.range n).filter p)[rank p i]? = some i := by
  obtain ⟨k, rfl⟩ : ∃ k, n = (i + 1) + k := ⟨n - (i + 1), by omega⟩
  have hlen : ((List.range i).filter p).length = rank p i := List.countP_eq_length_filter.symm
  rw [List.range_add, List.range_succ, List.append_assoc, List.filter_append,
    List.getElem?_append_right (Nat.le_of_eq hlen), hlen, Nat.sub_self, List.filter_append]
  simp [hp]

end Rank
