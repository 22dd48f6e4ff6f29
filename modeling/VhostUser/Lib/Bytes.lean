import Mathlib.Algebra.Order.Ring.Nat
/-!
# Little-endian byte strings

`toLE w n` is the `w`-byte little-endian image of `n`, `ofLE` reads one back. A fixed-layout
type is a `ByteValued`: its size, its bytes, and the read of a value from the front of a
longer byte string (`ptr::read_unaligned`).
-/
namespace Bytes

def toLE : Nat → Nat → List UInt8
  | 0, _ => []
  | w + 1, n => UInt8.ofNat n :: toLE w (n / 256)

def ofLE : List UInt8 → Nat
  | [] => 0
  | b :: bs => b.toNat + 256 * ofLE bs

@[simp] theorem length_toLE (w n : Nat) : (toLE w n).length = w := by
  induction w generalizing n with
  | zero => rfl
  | succ w ih => simp [toLE, ih]

theorem ofLE_toLE {w n : Nat} (h : n < 256 ^ w) : ofLE (toLE w n) = n := by
  induction w generalizing n with
  | zero =>
    simp only [Nat.pow_zero, Nat.lt_one_iff] at h
    simp [toLE, ofLE, h]
  | succ w ih =>
    have hd : n / 256 < 256 ^ w := by
      rw [Nat.div_lt_iff_lt_mul (by decide)]; rw [Nat.pow_succ] at h; exact h
    simp only [toLE, ofLE, ih hd, UInt8.toNat_ofNat']
    omega

/-- The unsigned integer in the first `w` bytes. -/
def readLE (w : Nat) (bs : List UInt8) : Nat := ofLE (bs.take w)

theorem readLE_toLE {w n : Nat} (h : n < 256 ^ w) (rest : List UInt8) :
    readLE w (toLE w n ++ rest) = n := by
  have ht : (toLE w n ++ rest).take w = toLE w n := by
    rw [List.take_append_of_le_length (by simp), List.take_of_length_le (by simp)]
  rw [readLE, ht, ofLE_toLE h]

def u8le (x : UInt8) : List UInt8 := toLE 1 x.toNat
def u16le (x : UInt16) : List UInt8 := toLE 2 x.toNat
def u32le (x : UInt32) : List UInt8 := toLE 4 x.toNat
def u64le (x : UInt64) : List UInt8 := toLE 8 x.toNat

def u8At (off : Nat) (bs : List UInt8) : UInt8 := UInt8.ofNat (readLE 1 (bs.drop off))
def u16At (off : Nat) (bs : List UInt8) : UInt16 := UInt16.ofNat (readLE 2 (bs.drop off))
def u32At (off : Nat) (bs : List UInt8) : UInt32 := UInt32.ofNat (readLE 4 (bs.drop off))
def u64At (off : Nat) (bs : List UInt8) : UInt64 := UInt64.ofNat (readLE 8 (bs.drop off))

@[simp] theorem length_u8le (x : UInt8) : (u8le x).length = 1 := length_toLE _ _
@[simp] theorem length_u16le (x : UInt16) : (u16le x).length = 2 := length_toLE _ _
@[simp] theorem length_u32le (x : UInt32) : (u32le x).length = 4 := length_toLE _ _
@[simp] theorem length_u64le (x : UInt64) : (u64le x).length = 8 := length_toLE _ _

/-- Bytes before the field are skipped. -/
theorem drop_skip {off : Nat} {xs ys : List UInt8} (h : xs.length ≤ off) :
    (xs ++ ys).drop off = ys.drop (off - xs.length) := by
  rw [List.drop_append, List.drop_eq_nil_of_le h, List.nil_append]

@[simp] theorem u8At_here (x : UInt8) (rest : List UInt8) : u8At 0 (u8le x ++ rest) = x := by
  rw [u8At, List.drop_zero, u8le, readLE_toLE (by have := x.toNat_lt; omega), UInt8.ofNat_toNat]

@[simp] theorem u16At_here (x : UInt16) (rest : List UInt8) : u16At 0 (u16le x ++ rest) = x := by
  rw [u16At, List.drop_zero, u16le, readLE_toLE (by have := x.toNat_lt; omega), UInt16.ofNat_toNat]

@[simp] theorem u32At_here (x : UInt32) (rest : List UInt8) : u32At 0 (u32le x ++ rest) = x := by
  rw [u32At, List.drop_zero, u32le, readLE_toLE (by have := x.toNat_lt; omega), UInt32.ofNat_toNat]

@[simp] theorem u64At_here (x : UInt64) (rest : List UInt8) : u64At 0 (u64le x ++ rest) = x := by
  rw [u64At, List.drop_zero, u64le, readLE_toLE (by have := x.toNat_lt; omega), UInt64.ofNat_toNat]

theorem u8At_skip {off : Nat} {xs ys : List UInt8} (h : xs.length ≤ off) :
    u8At off (xs ++ ys) = u8At (off - xs.length) ys := by rw [u8At, u8At, drop_skip h]

theorem u16At_skip {off : Nat} {xs ys : List UInt8} (h : xs.length ≤ off) :
    u16At off (xs ++ ys) = u16At (off - xs.length) ys := by rw [u16At, u16At, drop_skip h]

theorem u32At_skip {off : Nat} {xs ys : List UInt8} (h : xs.length ≤ off) :
    u32At off (xs ++ ys) = u32At (off - xs.length) ys := by rw [u32At, u32At, drop_skip h]

theorem u64At_skip {off : Nat} {xs ys : List UInt8} (h : xs.length ≤ off) :
    u64At off (xs ++ ys) = u64At (off - xs.length) ys := by rw [u64At, u64At, drop_skip h]

theorem length_flatMap_u64le (xs : List UInt64) : (xs.flatMap u64le).length = 8 * xs.length := by
  induction xs with
  | nil => rfl
  | cons x xs ih =>
    simp only [List.flatMap_cons, List.length_append, length_u64le, ih, List.length_cons]
    omega

/-- Indexing an array of `u64` laid out one after the other. -/
theorem u64At_flatMap (xs : List UInt64) (rest : List UInt8) (i : Nat) (hi : i < xs.length) :
    u64At (8 * i) (xs.flatMap u64le ++ rest) = xs[i] := by
  induction xs generalizing i with
  | nil => simp at hi
  | cons x xs ih =>
    cases i with
    | zero => simp
    | succ i =>
      have hoff : 8 * (i + 1) - (u64le x).length = 8 * i := by rw [length_u64le]; omega
      rw [List.flatMap_cons, List.append_assoc, u64At_skip (by rw [length_u64le]; omega), hoff,
        ih i (by simpa using hi)]
      rfl

/-- A plain-old-data type: `size` bytes, written by `asSlice`, read back by `fromSlice` from
the front of any byte string that starts with them. -/
class ByteValued (T : Type) where
  size : Nat
  asSlice : T → List UInt8
  fromSlice : List UInt8 → T
  length_asSlice : ∀ t, (asSlice t).length = size
  fromSlice_asSlice : ∀ t rest, fromSlice (asSlice t ++ rest) = t

attribute [simp] ByteValued.length_asSlice ByteValued.fromSlice_asSlice

theorem fromSlice_asSlice_nil {T : Type} [ByteValued T] (t : T) :
    ByteValued.fromSlice (ByteValued.asSlice t) = t := by
  have h := ByteValued.fromSlice_asSlice t []
  rwa [List.append_nil] at h

/-! Arrays of plain-old-data. -/

section Array
variable {T : Type} [ByteValued T]

theorem length_flatMap_asSlice {α : Type} (f : α → T) (xs : List α) :
    (xs.flatMap fun a => ByteValued.asSlice (f a)).length = xs.length * ByteValued.size T := by
  induction xs with
  | nil => simp
  | cons a xs ih =>
    rw [List.flatMap_cons, List.length_append, ih, ByteValued.length_asSlice, List.length_cons, Nat.succ_mul]
    exact Nat.add_comm _ _

theorem fromSlice_drop_flatMap (xs : List T) (rest : List UInt8) (i : Nat) (hi : i < xs.length) :
    ByteValued.fromSlice ((xs.flatMap ByteValued.asSlice ++ rest).drop (i * ByteValued.size T)) = xs[i] := by
  induction xs generalizing i with
  | nil => simp at hi
  | cons x xs ih =>
    cases i with
    | zero => simp
    | succ i =>
      have hoff : (i + 1) * ByteValued.size T - (ByteValued.asSlice x).length = i * ByteValued.size T := by
        rw [ByteValued.length_asSlice, Nat.succ_mul, Nat.add_sub_cancel]
      have hle : (ByteValued.asSlice x).length ≤ (i + 1) * ByteValued.size T := by
        rw [ByteValued.length_asSlice, Nat.succ_mul]
        exact Nat.le_add_left _ _
      rw [List.flatMap_cons, List.append_assoc, drop_skip hle, hoff, ih i (by simpa using hi)]
      rfl

instance (n : Nat) : ByteValued (Vector T n) where
  size := n * ByteValued.size T
  asSlice v := v.toList.flatMap ByteValued.asSlice
  fromSlice bs := Vector.ofFn fun i => ByteValued.fromSlice (bs.drop (i * ByteValued.size T))
  length_asSlice v := by rw [length_flatMap_asSlice (fun t => t), Vector.length_toList]
  fromSlice_asSlice v rest := by
    apply Vector.ext
    intro i hi
    rw [Vector.getElem_ofFn, fromSlice_drop_flatMap _ _ _ (by simpa using hi), Vector.getElem_toList]

end Array

instance : ByteValued UInt8 where
  size := 1
  asSlice := u8le
  fromSlice := u8At 0
  length_asSlice x := by simp
  fromSlice_asSlice x rest := by simp

end Bytes
