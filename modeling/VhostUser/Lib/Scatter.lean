import Mathlib.Algebra.Order.Ring.Nat
/-!
# Scatter/gather lists

A list of buffers is one flat byte string cut into pieces. `locate lens skip` walks the
lengths to the buffer that holds byte number `skip`; `IoVec` names a window of one buffer and
`fill` writes a byte string into a list of windows, front to back, as `readv` does.

* `locate_spec` — while bytes are left, the walk ends inside a buffer, at the right byte.
* `flatten_from` — the buffers from that place on, concatenated, are the bytes from `skip` on.
* `fill_from` — filling the windows from that place on overwrites the flat string from `skip`.
-/
namespace Scatter

variable {α : Type*}

/-- `nr` counts the buffers already passed. -/
def locateFrom : List Nat → Nat → Nat → Nat × Nat
  | [], size, nr => (nr, size)
  | len :: lens, size, nr => if size ≥ len then locateFrom lens (size - len) (nr + 1) else (nr, size)

def locate (lens : List Nat) (skip : Nat) : Nat × Nat := locateFrom lens skip 0

theorem locateFrom_spec (bufs : List (List α)) (skip nr : Nat) (h : skip < bufs.flatten.length) :
    ∃ k off b, locateFrom (bufs.map List.length) skip nr = (nr + k, off) ∧ bufs[k]? = some b ∧
      off < b.length ∧ ((bufs.map List.length).take k).sum + off = skip := by
  induction bufs generalizing skip nr with
  | nil => simp at h
  | cons b bufs ih =>
    by_cases hle : b.length ≤ skip
    · -- the whole first buffer is passed
      have hrest : skip - b.length < bufs.flatten.length := by
        rw [List.flatten_cons, List.length_append] at h; omega
      obtain ⟨k, off, c, he, hk, hoff, hsum⟩ := ih _ (nr + 1) hrest
      refine ⟨k + 1, off, c, ?_, by simpa using hk, hoff, ?_⟩
      · simp only [List.map_cons, locateFrom, ge_iff_le, hle, if_true, he]
        rw [Nat.add_assoc, Nat.add_comm 1 k]
      · simp only [List.map_cons, List.take_succ_cons, List.sum_cons]; omega
    · exact ⟨0, skip, b, by simp [locateFrom, hle], by simp, by omega, by simp⟩

theorem locate_spec {bufs : List (List α)} {skip : Nat} (h : skip < bufs.flatten.length) :
    ∃ k off b, locate (bufs.map List.length) skip = (k, off) ∧ bufs[k]? = some b ∧
      off < b.length ∧ ((bufs.map List.length).take k).sum + off = skip := by
  obtain ⟨k, off, b, he, hk, hoff, hsum⟩ := locateFrom_spec bufs skip 0 h
  rw [Nat.zero_add] at he
  exact ⟨k, off, b, he, hk, hoff, hsum⟩

/-- The buffers from buffer `k`, byte `off` on are the flat string from there on. -/
theorem flatten_from (bufs : List (List α)) (k off : Nat) (b : List α) (hb : bufs[k]? = some b)
    (hoff : off ≤ b.length) :
    (b.drop off :: bufs.drop (k + 1)).flatten =
      bufs.flatten.drop (((bufs.map List.length).take k).sum + off) := by
  induction bufs generalizing k with
  | nil => simp at hb
  | cons x xs ih =>
    cases k with
    | zero =>
      obtain rfl : x = b := by simpa using hb
      simp [List.drop_append_of_le_length hoff]
    | succ k =>
      have ih := ih k (by simpa using hb)
      simp only [List.drop_succ_cons, List.map_cons, List.take_succ_cons, List.sum_cons,
        List.flatten_cons] at ih ⊢
      have hskip : x.length ≤ x.length + ((xs.map List.length).take k).sum + off := by omega
      rw [ih, List.drop_append, List.drop_eq_nil_of_le hskip, List.nil_append]
      congr 1
      omega

/-! ## Windows -/

/-- A window: `len` bytes of buffer `base`, from byte `offset` on. -/
structure IoVec where
  base : Nat
  offset : Nat
  len : Nat
deriving DecidableEq, Repr

/-- Replace the bytes of `xs` from position `i` on by `bs`. -/
def overwrite (xs : List α) (i : Nat) (bs : List α) : List α :=
  xs.take i ++ bs ++ xs.drop (i + bs.length)

def fill : List (List α) → List IoVec → List α → List (List α)
  | mem, [], _ => mem
  | mem, v :: vs, bs =>
    fill (mem.modify v.base fun b => overwrite b v.offset (bs.take v.len)) vs (bs.drop v.len)

/-- One window per buffer, each the whole buffer; the first is buffer number `k`. -/
def windows (k : Nat) : List (List α) → List IoVec
  | [] => []
  | b :: bs => ⟨k, 0, b.length⟩ :: windows (k + 1) bs

theorem map_len_windows (bufs : List (List α)) (k : Nat) :
    (windows k bufs).map IoVec.len = bufs.map List.length := by
  induction bufs generalizing k with
  | nil => rfl
  | cons b bs ih => simp [windows, ih]

/-- The windows depend on the lengths only. -/
theorem windows_congr (xs ys : List (List α)) (k : Nat)
    (h : xs.map List.length = ys.map List.length) : windows k xs = windows k ys := by
  induction xs generalizing ys k with
  | nil =>
    obtain rfl : ys = [] := by simpa using h.symm
    rfl
  | cons x xs ih =>
    cases ys with
    | nil => simp at h
    | cons y ys =>
      simp only [List.map_cons, List.cons.injEq] at h
      simp only [windows, h.1, ih ys (k + 1) h.2]

theorem getElem?_windows (bufs : List (List α)) (k i : Nat) :
    (windows k bufs)[i]? = bufs[i]?.map fun b => ⟨k + i, 0, b.length⟩ := by
  induction bufs generalizing k i with
  | nil => simp [windows]
  | cons b bs ih =>
    cases i with
    | zero => simp [windows]
    | succ i =>
      simp only [windows, List.getElem?_cons_succ, ih]
      rw [Nat.add_right_comm, Nat.add_assoc]

theorem drop_windows (bufs : List (List α)) (k i : Nat) :
    (windows k bufs).drop i = windows (k + i) (bufs.drop i) := by
  induction bufs generalizing k i with
  | nil => simp [windows]
  | cons b bs ih =>
    cases i with
    | zero => simp
    | succ i =>
      simp only [windows, List.drop_succ_cons, ih]
      rw [Nat.add_right_comm, Nat.add_assoc]

theorem length_overwrite {xs : List α} {i : Nat} {bs : List α} (h : i + bs.length ≤ xs.length) :
    (overwrite xs i bs).length = xs.length := by
  simp only [overwrite, List.length_append, List.length_take, List.length_drop]
  omega

theorem take_overwrite {xs bs : List α} {i : Nat} (h : i ≤ xs.length) :
    (overwrite xs i bs).take (i + bs.length) = xs.take i ++ bs := by
  have hi : (xs.take i).length = i := by rw [List.length_take]; omega
  rw [overwrite, List.take_append_of_le_length (by simp [hi])]
  exact List.take_of_length_le (by simp [hi])

/-- Overwriting across the border of two strings is overwriting both sides. -/
theorem overwrite_append {xs ys bs : List α} {i : Nat} (hi : i ≤ xs.length) :
    overwrite (xs ++ ys) i bs =
      overwrite xs i (bs.take (xs.length - i)) ++ overwrite ys 0 (bs.drop (xs.length - i)) := by
  simp only [overwrite, List.length_take, List.length_drop, List.take_zero, List.nil_append,
    Nat.zero_add]
  rw [List.take_append_of_le_length hi]
  by_cases hs : bs.length ≤ xs.length - i
  · rw [List.take_of_length_le hs, List.drop_eq_nil_of_le hs, Nat.min_eq_right hs,
      List.drop_append_of_le_length (by omega)]
    simp [Nat.sub_eq_zero_of_le hs]
  · have hx : xs.drop (i + min (xs.length - i) bs.length) = [] :=
      List.drop_eq_nil_of_le (by omega)
    have hd : (xs ++ ys).drop (i + bs.length) = ys.drop (bs.length - (xs.length - i)) := by
      rw [List.drop_append, List.drop_eq_nil_of_le (by omega), List.nil_append]
      congr 1
      omega
    rw [hx, hd, List.append_nil]
    simp only [List.append_assoc]
    rw [← List.append_assoc (bs.take _), List.take_append_drop]

theorem overwrite_append_right (xs ys bs : List α) (i : Nat) :
    overwrite (xs ++ ys) (xs.length + i) bs = xs ++ overwrite ys i bs := by
  have ht : (xs ++ ys).take (xs.length + i) = xs ++ ys.take i := by
    rw [List.take_append, List.take_of_length_le (by omega), Nat.add_sub_cancel_left]
  have hd : (xs ++ ys).drop (xs.length + i + bs.length) = ys.drop (i + bs.length) := by
    rw [List.drop_append, List.drop_eq_nil_of_le (by omega), List.nil_append, Nat.add_assoc,
      Nat.add_sub_cancel_left]
  simp only [overwrite, ht, hd, List.append_assoc]

theorem modify_length (f : List α → List α) (b : List α) (post pre : List (List α)) :
    (pre ++ b :: post).modify pre.length f = pre ++ f b :: post := by
  induction pre with
  | nil => rfl
  | cons p pre ih => simp [ih]

/-- Filling whole windows, after the buffers `pre`. -/
theorem fill_windows (bufs pre : List (List α)) (bs : List α)
    (h : bs.length ≤ bufs.flatten.length) :
    ∃ bufs', fill (pre ++ bufs) (windows pre.length bufs) bs = pre ++ bufs' ∧
      bufs'.map List.length = bufs.map List.length ∧ bufs'.flatten = overwrite bufs.flatten 0 bs := by
  induction bufs generalizing pre bs with
  | nil =>
    obtain rfl : bs = [] := by simpa using h
    exact ⟨[], by simp [fill, windows], rfl, by simp [overwrite]⟩
  | cons b bufs ih =>
    simp only [List.flatten_cons, List.length_append] at h
    obtain ⟨bufs', he, hl, hf⟩ :=
      ih (pre ++ [overwrite b 0 (bs.take b.length)]) (bs.drop b.length)
        (by rw [List.length_drop]; omega)
    have hb : (overwrite b 0 (bs.take b.length)).length = b.length :=
      length_overwrite (by rw [List.length_take]; omega)
    refine ⟨overwrite b 0 (bs.take b.length) :: bufs', ?_, ?_, ?_⟩
    · simp only [windows, fill, modify_length]
      simpa using he
    · simp only [List.map_cons, hl, hb]
    · rw [List.flatten_cons, hf, List.flatten_cons, overwrite_append (Nat.zero_le _), Nat.sub_zero]

/-- Filling from byte `off` of buffer `k` on overwrites the flat string from that byte on and
leaves every buffer's length as it was. -/
theorem fill_from {bufs : List (List α)} {k off : Nat} {b bs : List α} (hb : bufs[k]? = some b)
    (hoff : off ≤ b.length)
    (hbs : ((bufs.map List.length).take k).sum + off + bs.length ≤ bufs.flatten.length) :
    ∃ bufs', fill bufs (⟨k, off, b.length - off⟩ :: windows (k + 1) (bufs.drop (k + 1))) bs = bufs' ∧
      bufs'.map List.length = bufs.map List.length ∧
      bufs'.flatten = overwrite bufs.flatten (((bufs.map List.length).take k).sum + off) bs := by
  obtain ⟨hk, hget⟩ := List.getElem?_eq_some_iff.1 hb
  have hsplit : bufs = bufs.take k ++ b :: bufs.drop (k + 1) := by
    rw [← hget, ← List.drop_eq_getElem_cons hk, List.take_append_drop]
  have hpre : (bufs.take k).length = k := by rw [List.length_take]; omega
  have hsum : ((bufs.map List.length).take k).sum = (bufs.take k).flatten.length := by
    rw [← List.map_take, List.length_flatten]
  generalize hpre' : bufs.take k = pre at *
  generalize hpost' : bufs.drop (k + 1) = post at *
  subst hsplit
  simp only [List.flatten_append, List.flatten_cons, List.length_append, hsum] at hbs
  have hb' : (overwrite b off (bs.take (b.length - off))).length = b.length :=
    length_overwrite (by rw [List.length_take]; omega)
  obtain ⟨post', he, hl, hf⟩ := fill_windows post (pre ++ [overwrite b off (bs.take (b.length - off))])
    (bs.drop (b.length - off)) (by rw [List.length_drop]; omega)
  refine ⟨pre ++ overwrite b off (bs.take (b.length - off)) :: post', ?_, ?_, ?_⟩
  · subst hpre
    simp only [fill, modify_length]
    simpa using he
  · simp [hl, hb']
  · rw [hsum, List.flatten_append, List.flatten_append, overwrite_append_right, List.flatten_cons,
      List.flatten_cons, hf, overwrite_append hoff]

end Scatter
