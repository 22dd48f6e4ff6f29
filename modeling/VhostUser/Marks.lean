import VhostUser.Bitmap
import VhostUser.Lib.Trace
/-!
# What a mark touches

`AtomicBitmapMmap::new` checks the log once, at the last byte of the region (`bitmap.rs:149-156`);
`mark_dirty` and `dirty_at` (`:171-207`) then index it by pages counted from the region's first page,
with the start and the length rounded down apart from each other, and with saturating additions.

The first half shows that no index and no sum goes wrong for any `usize` arguments, and that a mark
stays on pages of the region: regions without a common page do not see each other's marks, also where
their pages share a byte. The second half is about slices (`:65-117`): a chain of `slice_at` is a view
at the sum of its offsets, and all views share one replaceable bitmap.

| here | there |
| --- | --- |
| `Intersects`   | a guest page with a byte of the region |
| `Marked`       | the pages `mark_dirty(offset, len)` visits before it stops |
| `Mark`         | a call of `mark_dirty` on one of two regions |
| `Views`        | a bitmap with its slices and clones, in the order they were taken |
| `Offsets`      | what they are for: an offset each into one bitmap that can be replaced |
-/
namespace VhostUser
open Trace

/-- A guest page with a byte of the region. -/
def Intersects (startAddr len : UInt64) (page : Nat) : Prop :=
  ∃ a, startAddr.toNat ≤ a ∧ a < startAddr.toNat + len.toNat ∧ pageNumber a = page

/-- The test of one bit of a byte of the log. -/
theorem and_bit_ne_zero (w : BitVec 8) {k : Nat} (hk : k < 8) : ((w &&& 1#8 <<< k) != 0#8) = w.getLsbD k := by
  have hone : (BitVec.twoPow 8 k).getLsbD k = true := by simp [hk]
  have hne : BitVec.twoPow 8 k ≠ 0#8 := by
    intro h
    rw [h, BitVec.getLsbD_zero] at hone
    cases hone
  rw [← BitVec.twoPow_eq, BitVec.and_twoPow]
  cases hw : w.getLsbD k with
  | true => simpa using hne
  | false => rfl

namespace AtomicBitmapMmap
variable {startAddr regionLen : UInt64} {logmem : MmapLogReg} {b : AtomicBitmapMmap} {log : List (BitVec 8)}

/-- A page that is counted for the region has a byte of it. -/
theorem intersects_of_page (hnew : new startAddr regionLen logmem = .ok b) {q : Nat}
    (hlo : b.pagesBeforeRegion ≤ q) (hhi : q < b.pagesBeforeRegion + b.numberOfPages) :
    Intersects startAddr regionLen q := by
  obtain ⟨-, -, -, rfl⟩ := new_ok hnew
  simp only [pageNumber, LOG_PAGE_SIZE] at hlo hhi
  by_cases hstart : startAddr.toNat ≤ q * 4096
  · refine ⟨q * 4096, hstart, by omega, ?_⟩
    rw [pageNumber, LOG_PAGE_SIZE]
    omega
  · refine ⟨startAddr.toNat, Nat.le_refl _, by omega, ?_⟩
    rw [pageNumber, LOG_PAGE_SIZE]
    omega

/-- The pages a mark of `len` bytes from `offset` on sets. -/
def Marked (b : AtomicBitmapMmap) (offset len q : Nat) : Prop :=
  0 < len ∧ b.pagesBeforeRegion + pageNumber offset ≤ q ∧
    q < b.pagesBeforeRegion + min (pageNumber (saturatingAdd offset (len - 1)) + 1) b.numberOfPages

theorem Marked.intersects (hnew : new startAddr regionLen logmem = .ok b) {offset len q : Nat}
    (h : b.Marked offset len q) : Intersects startAddr regionLen q := by
  obtain ⟨-, hlo, hhi⟩ := h
  exact intersects_of_page hnew (by omega) (by omega)

theorem markDirty_marked (hb : b.InBounds) (hlog : log.length = b.logmem.len) (offset len : UInt64) :
    ∃ log', b.markDirty log offset.toNat len.toNat = some log' ∧ log'.length = log.length ∧
      ∀ q, logBit log' q = true ↔ logBit log q = true ∨ b.Marked offset.toNat len.toNat q := by
  by_cases hlen : len.toNat = 0
  · refine ⟨log, by rw [markDirty, if_pos hlen], rfl, fun q => ?_⟩
    exact (or_iff_left fun h => by have := h.1; omega).symm
  · have hle : pageNumber offset.toNat ≤ pageNumber (saturatingAdd offset.toNat (len.toNat - 1)) := by
      have hlt := offset.toNat_lt
      refine Nat.div_le_div_right ?_
      unfold saturatingAdd
      omega
    obtain ⟨log', he, hl, hq⟩ := markPages_spec hb
      (pageNumber (saturatingAdd offset.toNat (len.toNat - 1)) + 1 - pageNumber offset.toNat) (pageNumber offset.toNat)
      log hlog
    refine ⟨log', by rw [markDirty, if_neg hlen]; exact he, hl, fun q => ?_⟩
    have hsum : pageNumber offset.toNat + (pageNumber (saturatingAdd offset.toNat (len.toNat - 1)) + 1 -
        pageNumber offset.toNat) = pageNumber (saturatingAdd offset.toNat (len.toNat - 1)) + 1 := by omega
    rw [hq, hsum, Marked, and_iff_right (Nat.pos_of_ne_zero hlen)]

/-- No index leaves the log, whatever the log holds. -/
theorem markDirty_isSome (hb : b.InBounds) (log : List (BitVec 8)) (offset len : Nat) :
    ∃ log', b.markDirty log offset len = some log' := by
  have hpages : ∀ n page log, ∃ log', b.markPages page n log = some log' := by
    intro n
    induction n with
    | zero => exact fun page log => ⟨log, rfl⟩
    | succ n ih =>
      intro page log
      by_cases hpage : page ≥ b.numberOfPages
      · exact ⟨log, by simp only [markPages, if_pos hpage]⟩
      · simp only [markPages, if_neg hpage, MmapLogReg.fetchOr, if_pos (hb page (by omega))]
        exact ih _ _
  unfold markDirty
  split
  · exact ⟨log, rfl⟩
  · exact hpages _ _ _

/-- The bit of the page, for a page of the region. -/
theorem dirtyAt_eq (hb : b.InBounds) (log : List (BitVec 8)) (offset : Nat) :
    b.dirtyAt log offset = some (decide (pageNumber offset < b.numberOfPages) &&
      logBit log (b.pagesBeforeRegion + pageNumber offset)) := by
  unfold dirtyAt
  by_cases hpage : pageNumber offset < b.numberOfPages
  · have hbit : pageBit (b.pagesBeforeRegion + pageNumber offset) < 8 := Nat.mod_lt _ (by decide)
    dsimp only
    rw [if_neg (by omega), MmapLogReg.load, if_pos (hb _ hpage)]
    simp only [hpage, decide_true, Bool.true_and, Option.map_some, and_bit_ne_zero _ hbit]
    rfl
  · dsimp only
    rw [if_pos (by omega)]
    simp [hpage]

end AtomicBitmapMmap

/-! ## Two regions, one log -/

/-- A call of `mark_dirty` on the first or on the second of two regions. -/
structure Mark where
  second : Bool
  offset : UInt64
  len : UInt64
deriving DecidableEq, Repr

/-- The two bitmaps over the bytes of one log. -/
def mark (b₁ b₂ : AtomicBitmapMmap) (log : List (BitVec 8)) (m : Mark) : Option (List (BitVec 8)) :=
  (if m.second then b₂ else b₁).markDirty log m.offset.toNat m.len.toNat

section Isolation
variable {start₁ len₁ start₂ len₂ : UInt64} {logmem : MmapLogReg} {b₁ b₂ : AtomicBitmapMmap}

/-- Two logs that agree on the pages of a region. -/
def SameOn (startAddr len : UInt64) (n : Nat) (log own : List (BitVec 8)) : Prop :=
  log.length = n ∧ own.length = n ∧ ∀ q, Intersects startAddr len q → (logBit log q = true ↔ logBit own q = true)

/-- A mark of the first region does not show in the second one's pages. -/
theorem SameOn.first (hnew₁ : AtomicBitmapMmap.new start₁ len₁ logmem = .ok b₁)
    (hdisj : ∀ q, Intersects start₁ len₁ q → ¬Intersects start₂ len₂ q) {log own : List (BitVec 8)}
    (h : SameOn start₂ len₂ logmem.len log own) (offset len : UInt64) :
    ∃ log', b₁.markDirty log offset.toNat len.toNat = some log' ∧ SameOn start₂ len₂ logmem.len log' own := by
  have hlogmem : b₁.logmem = logmem := by rw [(AtomicBitmapMmap.new_ok hnew₁).2.2.2]
  obtain ⟨hlog, hown, hsame⟩ := h
  obtain ⟨log', he, hl, hq⟩ := AtomicBitmapMmap.markDirty_marked (AtomicBitmapMmap.new_inBounds hnew₁)
    (hlog.trans (congrArg MmapLogReg.len hlogmem).symm) offset len
  refine ⟨log', he, hl.trans hlog, hown, fun q hin => ?_⟩
  rw [hq, ← hsame q hin]
  exact or_iff_left fun hmarked => hdisj q (hmarked.intersects hnew₁) hin

/-- A mark of the second region shows in both logs. -/
theorem SameOn.second (hnew₂ : AtomicBitmapMmap.new start₂ len₂ logmem = .ok b₂) {log own : List (BitVec 8)}
    (h : SameOn start₂ len₂ logmem.len log own) (offset len : UInt64) :
    ∃ log' own', b₂.markDirty log offset.toNat len.toNat = some log' ∧
      b₂.markDirty own offset.toNat len.toNat = some own' ∧ SameOn start₂ len₂ logmem.len log' own' := by
  have hlogmem : b₂.logmem = logmem := by rw [(AtomicBitmapMmap.new_ok hnew₂).2.2.2]
  have hb := AtomicBitmapMmap.new_inBounds hnew₂
  obtain ⟨hlog, hown, hsame⟩ := h
  obtain ⟨log', he, hl, hq⟩ := AtomicBitmapMmap.markDirty_marked hb
    (hlog.trans (congrArg MmapLogReg.len hlogmem).symm) offset len
  obtain ⟨own', he', hl', hq'⟩ := AtomicBitmapMmap.markDirty_marked hb
    (hown.trans (congrArg MmapLogReg.len hlogmem).symm) offset len
  refine ⟨log', own', he, he', hl.trans hlog, hl'.trans hown, fun q hin => ?_⟩
  rw [hq, hq', hsame q hin]

/-- Of a run of marks, the second region's pages show its own marks. -/
theorem SameOn.run (hnew₁ : AtomicBitmapMmap.new start₁ len₁ logmem = .ok b₁)
    (hnew₂ : AtomicBitmapMmap.new start₂ len₂ logmem = .ok b₂)
    (hdisj : ∀ q, Intersects start₁ len₁ q → ¬Intersects start₂ len₂ q) (ms : List Mark) :
    ∀ {log own : List (BitVec 8)}, SameOn start₂ len₂ logmem.len log own →
      ∃ log' own', ms.foldlM (mark b₁ b₂) log = some log' ∧
        (ms.filter Mark.second).foldlM (mark b₁ b₂) own = some own' ∧ SameOn start₂ len₂ logmem.len log' own' := by
  induction ms with
  | nil => exact fun h => ⟨_, _, rfl, rfl, h⟩
  | cons m ms ih =>
    intro log own h
    by_cases hsecond : m.second = true
    · obtain ⟨log₁, own₁, hlog₁, hown₁, h₁⟩ := h.second hnew₂ m.offset m.len
      obtain ⟨log', own', hlog', hown', h'⟩ := ih h₁
      have hfirst : ∀ l, mark b₁ b₂ l m = b₂.markDirty l m.offset.toNat m.len.toNat := fun l => by
        rw [mark, if_pos hsecond]
      refine ⟨log', own', ?_, ?_, h'⟩
      · rw [List.foldlM_cons, hfirst, hlog₁]
        exact hlog'
      · rw [List.filter_cons_of_pos hsecond, List.foldlM_cons, hfirst, hown₁]
        exact hown'
    · obtain ⟨log₁, hlog₁, h₁⟩ := h.first hnew₁ hdisj m.offset m.len
      obtain ⟨log', own', hlog', hown', h'⟩ := ih h₁
      refine ⟨log', own', ?_, ?_, h'⟩
      · rw [List.foldlM_cons, mark, if_neg hsecond, hlog₁]
        exact hlog'
      · rw [List.filter_cons_of_neg hsecond]
        exact hown'

/-- Agreeing logs answer alike. -/
theorem SameOn.dirtyAt (hnew₂ : AtomicBitmapMmap.new start₂ len₂ logmem = .ok b₂) {log own : List (BitVec 8)} {n : Nat}
    (h : SameOn start₂ len₂ n log own) (offset : Nat) : b₂.dirtyAt log offset = b₂.dirtyAt own offset := by
  have hb := AtomicBitmapMmap.new_inBounds hnew₂
  rw [AtomicBitmapMmap.dirtyAt_eq hb, AtomicBitmapMmap.dirtyAt_eq hb]
  by_cases hpage : pageNumber offset < b₂.numberOfPages
  · have hin : Intersects start₂ len₂ (b₂.pagesBeforeRegion + pageNumber offset) :=
      AtomicBitmapMmap.intersects_of_page hnew₂ (Nat.le_add_right _ _) (by omega)
    rw [Bool.eq_iff_iff.2 (h.2.2 _ hin)]
  · simp [hpage]

end Isolation

/-- **Marks stay on the pages of their region.** For all `usize` arguments no index leaves the log, no sum
overflows, bits are only set, and only those of pages of the region; so what a region without a common page
answers does not depend on which marks came in between its own. -/
theorem marks_stay_on_own_pages {startAddr regionLen : UInt64} {logmem : MmapLogReg} {b : AtomicBitmapMmap}
    (hnew : AtomicBitmapMmap.new startAddr regionLen logmem = .ok b) {log : List (BitVec 8)}
    (hlog : log.length = logmem.len) :
    (∀ offset len : UInt64, ∃ log', b.markDirty log offset.toNat len.toNat = some log' ∧ log'.length = log.length ∧
      (∀ q, logBit log q = true → logBit log' q = true) ∧
      ∀ q, logBit log' q ≠ logBit log q → Intersects startAddr regionLen q) ∧
    (∀ offset : UInt64, ∃ dirty, b.dirtyAt log offset.toNat = some dirty) ∧
    (∀ page < b.numberOfPages, b.pagesBeforeRegion + page < 2 ^ 64 ∧ pageBit (b.pagesBeforeRegion + page) < 8) ∧
    ∀ (start₂ len₂ : UInt64) (b₂ : AtomicBitmapMmap), AtomicBitmapMmap.new start₂ len₂ logmem = .ok b₂ →
      (∀ q, Intersects startAddr regionLen q → ¬Intersects start₂ len₂ q) →
      ∀ ms : List Mark, ∃ log' own, ms.foldlM (mark b b₂) log = some log' ∧
        (ms.filter Mark.second).foldlM (mark b b₂) log = some own ∧
        ∀ offset : UInt64, b₂.dirtyAt log' offset.toNat = b₂.dirtyAt own offset.toNat := by
  have hb := AtomicBitmapMmap.new_inBounds hnew
  have hlogmem : b.logmem = logmem := by rw [(AtomicBitmapMmap.new_ok hnew).2.2.2]
  refine ⟨fun offset len => ?_, fun offset => ?_, fun page hpage => ?_, fun start₂ len₂ b₂ hnew₂ hdisj ms => ?_⟩
  · obtain ⟨log', he, hl, hq⟩ := AtomicBitmapMmap.markDirty_marked hb
      (hlog.trans (congrArg MmapLogReg.len hlogmem).symm) offset len
    refine ⟨log', he, hl, fun q hset => (hq q).2 (.inl hset), fun q hne => ?_⟩
    by_cases hmarked : b.Marked offset.toNat len.toNat q
    · exact hmarked.intersects hnew
    · exact absurd (Bool.eq_iff_iff.2 ((hq q).trans (or_iff_left hmarked))) hne
  · exact ⟨_, AtomicBitmapMmap.dirtyAt_eq hb log offset.toNat⟩
  · refine ⟨?_, Nat.mod_lt _ (by decide)⟩
    have hstart := startAddr.toNat_lt
    have hlen := regionLen.toNat_lt
    obtain ⟨-, -, -, rfl⟩ := AtomicBitmapMmap.new_ok hnew
    simp only [pageNumber, LOG_PAGE_SIZE] at hpage ⊢
    omega
  · have hsame : SameOn start₂ len₂ logmem.len log log := ⟨hlog, hlog, fun _ _ => Iff.rfl⟩
    obtain ⟨log', own, hlog', hown, h'⟩ := SameOn.run hnew hnew₂ hdisj ms hsame
    exact ⟨log', own, hlog', hown, fun offset => h'.dirtyAt hnew₂ offset.toNat⟩

/-- Two pages in one byte of the log. -/
theorem neighbours_in_a_byte :
    ∃ log' own, [⟨false, 0, 0xffffffffffffffff⟩, ⟨true, 0, 1⟩].foldlM (mark ⟨⟨0, 1⟩, 0, 1⟩ ⟨⟨0, 1⟩, 1, 1⟩) [0#8] = some log' ∧
      [⟨true, 0, 1⟩].foldlM (mark ⟨⟨0, 1⟩, 0, 1⟩ ⟨⟨0, 1⟩, 1, 1⟩) [0#8] = some own ∧
      ∀ offset : UInt64, AtomicBitmapMmap.dirtyAt ⟨⟨0, 1⟩, 1, 1⟩ log' offset.toNat =
        AtomicBitmapMmap.dirtyAt ⟨⟨0, 1⟩, 1, 1⟩ own offset.toNat := by
  refine (@marks_stay_on_own_pages 0 0x1000 ⟨0, 1⟩ ⟨⟨0, 1⟩, 0, 1⟩ rfl [0#8] rfl).2.2.2 0x1000 0x1000 ⟨⟨0, 1⟩, 1, 1⟩
    rfl ?_ [⟨false, 0, 0xffffffffffffffff⟩, ⟨true, 0, 1⟩]
  rintro q ⟨a, -, ha, rfl⟩ ⟨a', ha', -, heq⟩
  have hlt : a < 4096 := ha
  have hle : 4096 ≤ a' := ha'
  simp only [pageNumber, LOG_PAGE_SIZE] at heq
  omega

/-! ## Slices -/

/-- The bitmap came from `AtomicBitmapMmap::new`; its fields are private, there is no other way to one. -/
def AtomicBitmapMmap.Made (b : AtomicBitmapMmap) : Prop :=
  ∃ startAddr len logmem, AtomicBitmapMmap.new startAddr len logmem = .ok b

namespace AtomicBitmapMmap.Made
variable {b : AtomicBitmapMmap}

theorem inBounds (h : b.Made) : b.InBounds := by
  obtain ⟨startAddr, len, logmem, hnew⟩ := h
  exact new_inBounds hnew

/-- The last address is past the end of every region. -/
theorem numberOfPages_le (h : b.Made) : b.numberOfPages ≤ pageNumber (2 ^ 64 - 1) := by
  obtain ⟨startAddr, len, logmem, hnew⟩ := h
  have hlt := len.toNat_lt
  obtain ⟨-, -, -, rfl⟩ := new_ok hnew
  exact Nat.div_le_div_right (by omega)

theorem markDirty_last (h : b.Made) (log : List (BitVec 8)) (len : Nat) : b.markDirty log (2 ^ 64 - 1) len = some log := by
  have hend := h.numberOfPages_le
  unfold markDirty
  split
  · rfl
  · cases hn : pageNumber (saturatingAdd (2 ^ 64 - 1) (len - 1)) + 1 - pageNumber (2 ^ 64 - 1) with
    | zero => simp only [hn, markPages]
    | succ n => simp only [hn, markPages, hend, if_true]

theorem dirtyAt_last (h : b.Made) (log : List (BitVec 8)) : b.dirtyAt log (2 ^ 64 - 1) = some false :=
  if_pos h.numberOfPages_le

end AtomicBitmapMmap.Made

namespace BitmapMmapRegion
variable {root : BitmapMmapRegion} {heap : LogHeap}

/-- The view of `root` at the offset `k`. -/
def viewAt (root : BitmapMmapRegion) (k : Nat) : BitmapMmapRegion :=
  ⟨root.inner, saturatingAdd root.baseAddress k⟩

theorem viewAt_sliceAt (k offset : Nat) : (root.viewAt k).sliceAt offset = root.viewAt (k + offset) := by
  simp only [viewAt, sliceAt, saturatingAdd, BitmapMmapRegion.mk.injEq, true_and]
  omega

theorem viewAt_zero (h : root.baseAddress < 2 ^ 64) : root.viewAt 0 = root := by
  have hsat : saturatingAdd root.baseAddress 0 = root.baseAddress := by
    unfold saturatingAdd
    omega
  rw [viewAt, hsat]

theorem markDirty_none (r : BitmapMmapRegion) (h : heap.inner r.inner = none) (offset len : Nat) :
    r.markDirty heap offset len = some heap := by
  simp only [markDirty, h]

theorem markDirty_some (r : BitmapMmapRegion) {b : AtomicBitmapMmap} (h : heap.inner r.inner = some b)
    {offset : Nat} (hfit : r.baseAddress + offset < 2 ^ 64) (len : Nat) :
    r.markDirty heap offset len = (b.markDirty (heap.logmem b.logmem.addr) (r.baseAddress + offset) len).map fun log =>
      { heap with logmem := Function.update heap.logmem b.logmem.addr log } := by
  simp only [markDirty, h, hfit, if_true]

theorem markDirty_overflow (r : BitmapMmapRegion) {offset : Nat} (h : ¬r.baseAddress + offset < 2 ^ 64) (len : Nat) :
    r.markDirty heap offset len = some heap := by
  simp only [markDirty, h, if_false]
  split
  · rfl
  · rfl

/-- A mark goes through and leaves the cells alone. -/
theorem markDirty_inBounds (r : BitmapMmapRegion) (h : ∀ b, heap.inner r.inner = some b → b.InBounds)
    (offset len : Nat) : ∃ logmem, r.markDirty heap offset len = some { heap with logmem := logmem } := by
  cases hinner : heap.inner r.inner with
  | none => exact ⟨heap.logmem, markDirty_none r hinner _ _⟩
  | some b =>
    by_cases hfit : r.baseAddress + offset < 2 ^ 64
    · obtain ⟨log', hlog'⟩ := AtomicBitmapMmap.markDirty_isSome (h b hinner) (heap.logmem b.logmem.addr)
        (r.baseAddress + offset) len
      exact ⟨_, by rw [markDirty_some r hinner hfit, hlog', Option.map_some]⟩
    · exact ⟨heap.logmem, markDirty_overflow r hfit _⟩

theorem dirtyAt_inBounds (r : BitmapMmapRegion) (h : ∀ b, heap.inner r.inner = some b → b.InBounds) (offset : Nat) :
    ∃ dirty, r.dirtyAt heap offset = some dirty := by
  unfold dirtyAt
  split
  · exact ⟨false, rfl⟩
  · rename_i b hinner
    exact ⟨_, AtomicBitmapMmap.dirtyAt_eq (h b hinner) _ _⟩

/-- A mark on a view is a mark at the sum, and nothing when there is no such address. -/
theorem viewAt_markDirty (hmade : ∀ b, heap.inner root.inner = some b → b.Made) (k : Nat) (offset len : UInt64) :
    (root.viewAt k).markDirty heap offset.toNat len.toNat =
      if k + offset.toNat < 2 ^ 64 then root.markDirty heap (k + offset.toNat) len.toNat else some heap := by
  by_cases hbase : root.baseAddress + k < 2 ^ 64
  · have hview : root.viewAt k = ⟨root.inner, root.baseAddress + k⟩ := by
      unfold viewAt saturatingAdd
      congr 1
      omega
    split
    · rw [hview]
      simp only [markDirty, Nat.add_assoc]
    · exact markDirty_overflow _ (by rw [hview]; simp only; omega) _
  · -- the base is stuck at the last address, where a mark has no page to set
    have hview : root.viewAt k = ⟨root.inner, 2 ^ 64 - 1⟩ := by
      unfold viewAt saturatingAdd
      congr 1
      omega
    have hroot : (if k + offset.toNat < 2 ^ 64 then root.markDirty heap (k + offset.toNat) len.toNat else some heap) =
        some heap := by
      split
      · exact markDirty_overflow _ (by omega) _
      · rfl
    rw [hroot, hview]
    by_cases hzero : offset.toNat = 0
    · cases hinner : heap.inner root.inner with
      | none => exact markDirty_none ⟨root.inner, 2 ^ 64 - 1⟩ hinner _ _
      | some b =>
        rw [hzero, markDirty_some ⟨root.inner, 2 ^ 64 - 1⟩ hinner (by simp), Nat.add_zero, (hmade b hinner).markDirty_last, Option.map_some,
          Function.update_eq_self]
    · exact markDirty_overflow _ (by simp only; omega) _

theorem viewAt_dirtyAt (hmade : ∀ b, heap.inner root.inner = some b → b.Made) (k : Nat) (offset : UInt64) :
    (root.viewAt k).dirtyAt heap offset.toNat =
      if k + offset.toNat < 2 ^ 64 then root.dirtyAt heap (k + offset.toNat) else some false := by
  have hsat : saturatingAdd (saturatingAdd root.baseAddress k) offset.toNat =
      saturatingAdd root.baseAddress (k + offset.toNat) := by
    simp only [saturatingAdd]
    omega
  have hview : (root.viewAt k).dirtyAt heap offset.toNat = root.dirtyAt heap (k + offset.toNat) := by
    simp only [dirtyAt, viewAt, hsat]
  rw [hview]
  split
  · rfl
  · have hlast : saturatingAdd root.baseAddress (k + offset.toNat) = 2 ^ 64 - 1 := by
      unfold saturatingAdd
      omega
    simp only [dirtyAt, hlast]
    cases hinner : heap.inner root.inner with
    | none => rfl
    | some b => exact (hmade b hinner).dirtyAt_last _

/-- A chain of `slice_at`. -/
def slices (root : BitmapMmapRegion) (chain : List UInt64) : BitmapMmapRegion :=
  chain.foldl (fun r offset => r.sliceAt offset.toNat) root

theorem slices_viewAt (chain : List UInt64) (k : Nat) :
    (root.viewAt k).slices chain = root.viewAt (k + (chain.map UInt64.toNat).sum) := by
  induction chain generalizing k with
  | nil => rfl
  | cons offset chain ih =>
    have hcons : (root.viewAt k).slices (offset :: chain) = ((root.viewAt k).sliceAt offset.toNat).slices chain := rfl
    rw [hcons, viewAt_sliceAt, ih, List.map_cons, List.sum_cons, Nat.add_assoc]

/-- The handle behaves as the root at the offset `k`. -/
def IsViewAt (root : BitmapMmapRegion) (heap : LogHeap) (r : BitmapMmapRegion) (k : Nat) : Prop :=
  ∀ offset len : UInt64,
    r.markDirty heap offset.toNat len.toNat =
      (if k + offset.toNat < 2 ^ 64 then root.markDirty heap (k + offset.toNat) len.toNat else some heap) ∧
    r.dirtyAt heap offset.toNat =
      (if k + offset.toNat < 2 ^ 64 then root.dirtyAt heap (k + offset.toNat) else some false)

theorem isViewAt_viewAt (hmade : ∀ b, heap.inner root.inner = some b → b.Made) (k : Nat) :
    IsViewAt root heap (root.viewAt k) k :=
  fun offset len => ⟨viewAt_markDirty hmade k offset len, viewAt_dirtyAt hmade k offset⟩

end BitmapMmapRegion

/-- A call on the `i`-th handle of a bitmap; a slice or a clone is a new handle. -/
inductive ViewOp where
  | sliceAt (i : Nat) (offset : UInt64)
  | clone (i : Nat)
  | replace (i : Nat) (bitmap : { b : AtomicBitmapMmap // b.Made })
  | markDirty (i : Nat) (offset len : UInt64)

structure Views where
  handles : List BitmapMmapRegion
  heap : LogHeap

/-- A call on a handle that does not exist is none; a mark may fail an assertion. -/
def Views.step (s : Views) : ViewOp → Option Views
  | .sliceAt i offset =>
    some { s with handles := s.handles ++ (s.handles[i]?.map (·.sliceAt offset.toNat)).toList }
  | .clone i => some { s with handles := s.handles ++ s.handles[i]?.toList }
  | .replace i bitmap =>
    match s.handles[i]? with
    | some r => some { s with heap := r.replace s.heap bitmap.1 }
    | none => some s
  | .markDirty i offset len =>
    match s.handles[i]? with
    | some r => (r.markDirty s.heap offset.toNat len.toNat).map fun heap => { s with heap := heap }
    | none => some s

/-- The purpose of the handles: each is an offset, as large as it gets, into one bitmap. -/
structure Offsets where
  offsets : List Nat
  bitmap : Option AtomicBitmapMmap

def Offsets.step (t : Offsets) : ViewOp → Offsets
  | .sliceAt i offset => { t with offsets := t.offsets ++ (t.offsets[i]?.map (· + offset.toNat)).toList }
  | .clone i => { t with offsets := t.offsets ++ t.offsets[i]?.toList }
  | .replace i bitmap => if i < t.offsets.length then { t with bitmap := some bitmap.1 } else t
  | .markDirty .. => t

/-- The handles are the views of `root` at their offsets, and they share the one bitmap. -/
structure Views.Represents (root : BitmapMmapRegion) (s : Views) (t : Offsets) : Prop where
  handles : s.handles = t.offsets.map root.viewAt
  bitmap : s.heap.inner root.inner = t.bitmap
  made : ∀ b, t.bitmap = some b → b.Made

namespace Views.Represents
variable {root : BitmapMmapRegion} {s : Views} {t : Offsets}

theorem getElem? (h : s.Represents root t) (i : Nat) : s.handles[i]? = t.offsets[i]?.map root.viewAt := by
  rw [h.handles, List.getElem?_map]

/-- The bitmap in the cell of every handle. -/
theorem made_cell (h : s.Represents root t) : ∀ b, s.heap.inner root.inner = some b → b.Made := by
  rw [h.bitmap]
  exact h.made

theorem step (h : s.Represents root t) (op : ViewOp) :
    ∃ s', s.step op = some s' ∧ s'.Represents root (t.step op) := by
  cases op with
  | sliceAt i offset =>
    refine ⟨_, rfl, ?_, h.bitmap, h.made⟩
    rw [h.getElem?, h.handles]
    simp only [Offsets.step, List.map_append]
    cases t.offsets[i]? with
    | none => rfl
    | some k => simp [BitmapMmapRegion.viewAt_sliceAt]
  | clone i =>
    refine ⟨_, rfl, ?_, h.bitmap, h.made⟩
    rw [h.getElem?, h.handles]
    simp only [Offsets.step, List.map_append]
    cases t.offsets[i]? with
    | none => rfl
    | some k => rfl
  | replace i bitmap =>
    simp only [Views.step, Offsets.step, h.getElem?]
    by_cases hi : i < t.offsets.length
    · rw [List.getElem?_eq_getElem hi, Option.map_some, if_pos hi]
      refine ⟨_, rfl, h.handles, Function.update_self .., fun b hb => ?_⟩
      cases hb
      exact bitmap.2
    · rw [List.getElem?_eq_none (by omega), Option.map_none, if_neg hi]
      exact ⟨s, rfl, h⟩
  | markDirty i offset len =>
    simp only [Views.step, Offsets.step, h.getElem?]
    cases t.offsets[i]? with
    | none => exact ⟨s, rfl, h⟩
    | some k =>
      obtain ⟨logmem, hmark⟩ := BitmapMmapRegion.markDirty_inBounds (root.viewAt k)
        (fun b hb => (h.made_cell b hb).inBounds) offset.toNat len.toNat
      simp only [Option.map_some, hmark]
      exact ⟨_, rfl, h.handles, h.bitmap, h.made⟩

/-- A run on the handles is a run on the offsets. -/
theorem run (ops : List ViewOp) : ∀ {s : Views} {t : Offsets}, s.Represents root t →
    ∃ s', ops.foldlM Views.step s = some s' ∧ s'.Represents root (ops.foldl Offsets.step t) := by
  induction ops with
  | nil => exact fun h => ⟨_, rfl, h⟩
  | cons op ops ih =>
    intro s t h
    obtain ⟨s₁, hs₁, h₁⟩ := h.step op
    obtain ⟨s', hs', h'⟩ := ih h₁
    refine ⟨s', ?_, h'⟩
    rw [List.foldlM_cons, hs₁]
    exact hs'

end Views.Represents

/-- **Slices are views at the summed offset**, of whatever bitmap was last installed through any of them.
Beyond `usize::MAX` there is nothing to mark and nothing dirty. -/
theorem slices_are_views {root : BitmapMmapRegion} (hroot : root.baseAddress < 2 ^ 64) {heap : LogHeap}
    (hmade : ∀ b, heap.inner root.inner = some b → b.Made) :
    (∀ chain : List UInt64,
      BitmapMmapRegion.IsViewAt root heap (root.slices chain) (chain.map UInt64.toNat).sum) ∧
    ∀ ops : List ViewOp, ∃ s, ops.foldlM Views.step ⟨[root], heap⟩ = some s ∧
      s.handles.length = (ops.foldl Offsets.step ⟨[0], heap.inner root.inner⟩).offsets.length ∧
      ∀ (i : Nat) r k, s.handles[i]? = some r → (ops.foldl Offsets.step ⟨[0], heap.inner root.inner⟩).offsets[i]? = some k →
        s.heap.inner r.inner = (ops.foldl Offsets.step ⟨[0], heap.inner root.inner⟩).bitmap ∧
          BitmapMmapRegion.IsViewAt root s.heap r k := by
  refine ⟨fun chain => ?_, fun ops => ?_⟩
  · have hslices : root.slices chain = root.viewAt (chain.map UInt64.toNat).sum := by
      have hchain := @BitmapMmapRegion.slices_viewAt root chain 0
      rwa [BitmapMmapRegion.viewAt_zero hroot, Nat.zero_add] at hchain
    rw [hslices]
    exact BitmapMmapRegion.isViewAt_viewAt hmade _
  · have hstart : Views.Represents root ⟨[root], heap⟩ ⟨[0], heap.inner root.inner⟩ :=
      ⟨by rw [List.map_singleton, BitmapMmapRegion.viewAt_zero hroot], rfl, hmade⟩
    obtain ⟨s, hs, h⟩ := Views.Represents.run ops hstart
    refine ⟨s, hs, by rw [h.handles, List.length_map], fun i r k hr hk => ?_⟩
    rw [h.getElem?, hk, Option.map_some] at hr
    cases hr
    exact ⟨h.bitmap, BitmapMmapRegion.isViewAt_viewAt h.made_cell k⟩

/-- The bitmap of one page over a log of one byte. -/
theorem made_onePage : AtomicBitmapMmap.Made ⟨⟨0, 1⟩, 0, 1⟩ := ⟨0, 0x1000, ⟨0, 1⟩, rfl⟩

/-- A slice taken at the last address, a bitmap installed through it, a slice of the slice. -/
theorem slice_of_slice_sees_replace :
    ∃ s, [.sliceAt 0 0xffffffffffffffff, .replace 1 ⟨_, made_onePage⟩, .sliceAt 1 1].foldlM Views.step
        ⟨[⟨0, 0⟩], ⟨fun _ => none, fun _ => [0#8]⟩⟩ = some s ∧
      s.handles.length = 3 ∧ ∀ (i : Nat) r k, s.handles[i]? = some r → [0, 2 ^ 64 - 1, 2 ^ 64][i]? = some k →
        s.heap.inner r.inner = some ⟨⟨0, 1⟩, 0, 1⟩ ∧ BitmapMmapRegion.IsViewAt ⟨0, 0⟩ s.heap r k :=
  (@slices_are_views ⟨0, 0⟩ (by decide) ⟨fun _ => none, fun _ => [0#8]⟩ nofun).2
    [.sliceAt 0 0xffffffffffffffff, .replace 1 ⟨_, made_onePage⟩, .sliceAt 1 1]

end VhostUser
