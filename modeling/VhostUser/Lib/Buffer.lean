import Mathlib.Data.List.Basic
import Mathlib.Logic.Function.Basic
/-!
# A flat buffer and the records in it

A buffer is a list of fixed length. `load` and `store` give `none` where they would leave it, so
that an access that is carried out is one within bounds. `Table base size n f buf` says that `n`
records of `size` entries each lie one after the other from `base` on, record `i` being `f i`.
-/
namespace Buffer
variable {α : Type*} {buf buf' xs : List α} {off off' n size base i : Nat}

def load (off n : Nat) (buf : List α) : Option (List α) :=
  if off + n ≤ buf.length then some ((buf.drop off).take n) else none

def store (off : Nat) (xs buf : List α) : Option (List α) :=
  if off + xs.length ≤ buf.length then some (buf.take off ++ (xs ++ buf.drop (off + xs.length))) else none

theorem load_some (h : off + n ≤ buf.length) : ∃ ys, load off n buf = some ys ∧ ys.length = n := by
  refine ⟨_, if_pos h, ?_⟩
  rw [List.length_take, List.length_drop]
  omega

theorem store_some (h : off + xs.length ≤ buf.length) : ∃ buf', store off xs buf = some buf' :=
  ⟨_, if_pos h⟩

/-- An access that is carried out stays within the buffer. -/
theorem le_of_store (h : store off xs buf = some buf') : off + xs.length ≤ buf.length := by
  by_contra hout
  rw [store, if_neg hout] at h
  cases h

theorem length_store (h : store off xs buf = some buf') : buf'.length = buf.length := by
  have hle := le_of_store h
  rw [store, if_pos hle] at h
  cases h
  simp only [List.length_append, List.length_take, List.length_drop]
  omega

/-- What was written is read back. -/
theorem load_store (h : store off xs buf = some buf') : load off xs.length buf' = some xs := by
  have hle := le_of_store h
  rw [load, length_store h, if_pos hle]
  rw [store, if_pos hle] at h
  cases h
  have htake : (buf.take off).length = off := by
    rw [List.length_take]
    omega
  rw [List.drop_append_of_le_length (by omega), List.drop_of_length_le (by omega), List.nil_append,
    List.take_append_of_le_length (Nat.le_refl _), List.take_length]

/-- A write leaves alone what lies before it and after it. -/
theorem load_store_of_apart (h : store off xs buf = some buf') (hap : off' + n ≤ off ∨ off + xs.length ≤ off') :
    load off' n buf' = load off' n buf := by
  have hle := le_of_store h
  rw [load, load, length_store h]
  rw [store, if_pos hle] at h
  cases h
  have hentry : ∀ k, off' ≤ k → k < off' + n → (buf.take off ++ (xs ++ buf.drop (off + xs.length)))[k]? = buf[k]? := by
    intro k hk hkn
    rcases hap with hbefore | hafter
    · rw [List.getElem?_append_left (by rw [List.length_take]; omega), List.getElem?_take_of_lt (by omega)]
    · rw [List.getElem?_append_right (by rw [List.length_take]; omega), List.length_take,
        List.getElem?_append_right (by omega), List.getElem?_drop]
      congr 1
      omega
  split
  · congr 1
    refine List.ext_getElem? fun k => ?_
    rw [List.getElem?_take, List.getElem?_take]
    split
    · rename_i hk
      rw [List.getElem?_drop, List.getElem?_drop, hentry (off' + k) (by omega) (by omega)]
    · rfl
  · rfl

theorem le_of_load (h : load off n buf = some xs) : off + n ≤ buf.length := by
  by_contra hout
  rw [load, if_neg hout] at h
  cases h

/-- Two reads next to each other are one. -/
theorem load_add {k : Nat} {ys : List α} (hx : load off n buf = some xs) (hy : load (off + n) k buf = some ys) :
    load off (n + k) buf = some (xs ++ ys) := by
  have hn := le_of_load hx
  have hk := le_of_load hy
  rw [load, if_pos hn] at hx
  rw [load, if_pos hk, ← List.drop_drop] at hy
  cases hx
  cases hy
  rw [load, if_pos (by omega), List.take_add]

/-- Reading inside a slice. -/
theorem load_load {mid : List α} (h : load off n buf = some mid) (hle : off' + size ≤ n) :
    load off' size mid = load (off + off') size buf := by
  have hin := le_of_load h
  rw [load, if_pos hin] at h
  cases h
  rw [load, load, if_pos (by rw [List.length_take, List.length_drop]; omega), if_pos (by omega)]
  rw [List.drop_take, List.take_take, List.drop_drop, Nat.min_eq_left (by omega)]

/-! ## Records -/

/-- Record `i` of `n` lies within the space for `n` records. -/
theorem slot_le (hi : i < n) : size * i + size ≤ size * n := by
  rw [← Nat.mul_succ]
  exact Nat.mul_le_mul_left size hi

theorem slot_apart {j : Nat} (hij : i ≠ j) :
    base + size * i + size ≤ base + size * j ∨ base + size * j + size ≤ base + size * i := by
  rcases Nat.lt_or_gt_of_ne hij with hlt | hgt
  · have hslot : size * i + size ≤ size * j := slot_le hlt
    omega
  · have hslot : size * j + size ≤ size * i := slot_le hgt
    omega

structure Table (base size n : Nat) (f : Nat → List α) (buf : List α) : Prop where
  room : base + size * n ≤ buf.length
  entry : ∀ i < n, load (base + size * i) size buf = some (f i)

variable {f g : Nat → List α}

theorem Table.congr (ht : Table base size n f buf) (hfg : ∀ i < n, f i = g i) : Table base size n g buf where
  room := ht.room
  entry i hi := by
    rw [← hfg i hi]
    exact ht.entry i hi

theorem Table.writable (ht : Table base size n f buf) (hi : i < n) (hlen : xs.length = size) :
    ∃ buf', store (base + size * i) xs buf = some buf' := by
  refine store_some ?_
  have hroom := ht.room
  have hslot : size * i + size ≤ size * n := slot_le hi
  omega

/-- **A record that is written is the only one that changes.** -/
theorem Table.write (ht : Table base size n f buf) (hlen : xs.length = size)
    (hw : store (base + size * i) xs buf = some buf') : Table base size n (Function.update f i xs) buf' where
  room := by
    rw [length_store hw]
    exact ht.room
  entry j hj := by
    by_cases hij : j = i
    · subst hij
      rw [Function.update_self, ← hlen]
      rw [← hlen] at hw
      exact load_store hw
    · rw [Function.update_of_ne hij, ← ht.entry j hj]
      refine load_store_of_apart hw ?_
      rw [hlen]
      exact slot_apart hij

/-- The space of the records, as a whole. -/
theorem Table.load (ht : Table base size n f buf) (k : Nat) (hk : k ≤ n) :
    Buffer.load base (size * k) buf = some ((List.range k).flatMap f) := by
  induction k with
  | zero =>
    have hroom := ht.room
    rw [Buffer.load, if_pos (by omega)]
    rfl
  | succ k ih =>
    rw [List.range_succ, List.flatMap_append, List.flatMap_singleton, Nat.mul_succ]
    exact load_add (ih (by omega)) (ht.entry k hk)

end Buffer
