import Mathlib.Data.List.TakeDrop
import VhostUser.Message
/-!
# Dirty-page log of a memory region (`vhost-user-backend/src/bitmap.rs`)

| here | there |
| --- | --- |
| `pageNumber` `pageWord` `pageBit` | the three helpers (`:304-323`) |
| `MmapLogReg`, `fromFile`          | the mapped log and its bounds check (`:219-290`); `mmap` is a parameter |
| `LogHeap`, `mapped`               | the cells of the region bitmaps and the bytes of the mappings |
| `AtomicBitmapMmap` (`new`, `markDirty`, `dirtyAt`) | the bitmap relative to a region (`:119-217`) |
| `BitmapMmapRegion`                | the replaceable bitmap (`:65-117`); `inner` names the shared `RwLock` cell |

`usize` is 64 bits. A byte of the log is a `BitVec 8`, a failed `assert!(index < self.len)` of
`Index` is `none`.

`markDirty` works in pages relative to the region: page `off / 4096` of a region whose first page
is `start / 4096`, cut off at `len / 4096` pages. That is the page of the byte only when the
remainders of start and offset do not carry, and it is within the cut only when the byte is not
on a last, partial page (`markDirty_logs_iff`).
-/
namespace VhostUser

def LOG_PAGE_SIZE : Nat := 0x1000
def LOG_WORD_SIZE : Nat := 8

def pageNumber (addr : Nat) : Nat := addr / LOG_PAGE_SIZE
def pageWord (page : Nat) : Nat := page / LOG_WORD_SIZE
def pageBit (page : Nat) : Nat := page % LOG_WORD_SIZE

/-- `usize::saturating_add`. -/
def saturatingAdd (a b : Nat) : Nat := min (a + b) (2 ^ 64 - 1)

/-- A mapped log: where it is mapped and how long it is. Its bytes are kept apart. -/
structure MmapLogReg where
  addr : Nat
  len : Nat
deriving DecidableEq, Repr

namespace MmapLogReg

/-- `offset` has to fit an `isize`, `len` too; `mmap` is the system call. -/
def fromFile (mmap : File → Nat → Nat → Except IoError Nat) (fd : File) (offset len : UInt64) :
    Except IoError MmapLogReg :=
  if offset.toNat ≥ 2 ^ 63 then .error (.ofKind .invalidData)
  else if len.toNat > 2 ^ 63 - 1 then .error (.ofKind .invalidData)
  else match mmap fd offset.toNat len.toNat with
    | .error e => .error e
    | .ok addr => .ok ⟨addr, len.toNat⟩

/-- `self[index].fetch_or(v)` on the bytes `log`. -/
def fetchOr (l : MmapLogReg) (log : List (BitVec 8)) (index : Nat) (v : BitVec 8) :
    Option (List (BitVec 8)) :=
  if index < l.len then some (log.modify index (· ||| v)) else none

/-- `self[index].load()`. -/
def load (l : MmapLogReg) (log : List (BitVec 8)) (index : Nat) : Option (BitVec 8) :=
  if index < l.len then some (log.getD index 0) else none

end MmapLogReg

structure AtomicBitmapMmap where
  logmem : MmapLogReg
  pagesBeforeRegion : Nat
  numberOfPages : Nat
deriving DecidableEq, Repr

namespace AtomicBitmapMmap

/-- The region enters through its start address and its length. -/
def new (startAddr len : UInt64) (logmem : MmapLogReg) : Except IoError AtomicBitmapMmap :=
  if len.toNat = 0 then .error (.ofKind .invalidData)
  -- `region_start_addr.checked_add(region_len - 1)`
  else if startAddr.toNat + (len.toNat - 1) ≥ 2 ^ 64 then .error (.ofKind .invalidData)
  else if pageWord (pageNumber (startAddr.toNat + (len.toNat - 1))) ≥ logmem.len then
    .error (.ofKind .invalidData)
  else .ok ⟨logmem, pageNumber startAddr.toNat, pageNumber len.toNat⟩

/-- The `for` over the pages from `page` on, `n` of them; the first page past the region ends it. -/
def markPages (b : AtomicBitmapMmap) : Nat → Nat → List (BitVec 8) → Option (List (BitVec 8))
  | _, 0, log => some log
  | page, n + 1, log =>
    if page ≥ b.numberOfPages then some log
    else
      match b.logmem.fetchOr log (pageWord (b.pagesBeforeRegion + page))
        (1#8 <<< pageBit (b.pagesBeforeRegion + page)) with
      | none => none
      | some log => markPages b (page + 1) n log

def markDirty (b : AtomicBitmapMmap) (log : List (BitVec 8)) (offset len : Nat) :
    Option (List (BitVec 8)) :=
  if len = 0 then some log
  else
    let firstPage := pageNumber offset
    let lastPage := pageNumber (saturatingAdd offset (len - 1))
    markPages b firstPage (lastPage + 1 - firstPage) log

def dirtyAt (b : AtomicBitmapMmap) (log : List (BitVec 8)) (offset : Nat) : Option Bool :=
  let page := pageNumber offset
  if page ≥ b.numberOfPages then some false
  else
    let page := b.pagesBeforeRegion + page
    (b.logmem.load log (pageWord page)).map fun w => (w &&& (1#8 <<< pageBit page)) != 0#8

end AtomicBitmapMmap

/-- `inner` is the identity of the `Arc<RwLock<Option<AtomicBitmapMmap>>>`: slices share it. -/
structure BitmapMmapRegion where
  inner : Nat
  baseAddress : Nat
deriving DecidableEq, Repr

/-- What the cells and the log mappings hold. -/
structure LogHeap where
  inner : Nat → Option AtomicBitmapMmap
  logmem : Nat → List (BitVec 8)

/-- `mmap` shows `len` bytes at the address: what the file holds, which `logmem` has from before, and zeros
behind its end. -/
def LogHeap.mapped (h : LogHeap) (logmem : MmapLogReg) : LogHeap :=
  { h with logmem := Function.update h.logmem logmem.addr ((h.logmem logmem.addr).takeD logmem.len 0) }

theorem LogHeap.length_mapped (h : LogHeap) (logmem : MmapLogReg) :
    ((h.mapped logmem).logmem logmem.addr).length = logmem.len := by
  simp [mapped, List.takeD_length]

namespace BitmapMmapRegion

def markDirty (r : BitmapMmapRegion) (h : LogHeap) (offset len : Nat) : Option LogHeap :=
  match h.inner r.inner with
  | none => some h
  | some bitmap =>
    if r.baseAddress + offset < 2 ^ 64 then
      (bitmap.markDirty (h.logmem bitmap.logmem.addr) (r.baseAddress + offset) len).map fun log =>
        { h with logmem := Function.update h.logmem bitmap.logmem.addr log }
    else some h

def dirtyAt (r : BitmapMmapRegion) (h : LogHeap) (offset : Nat) : Option Bool :=
  match h.inner r.inner with
  | none => some false
  | some bitmap =>
    bitmap.dirtyAt (h.logmem bitmap.logmem.addr) (saturatingAdd r.baseAddress offset)

def sliceAt (r : BitmapMmapRegion) (offset : Nat) : BitmapMmapRegion :=
  ⟨r.inner, saturatingAdd r.baseAddress offset⟩

def replace (r : BitmapMmapRegion) (h : LogHeap) (bitmap : AtomicBitmapMmap) : LogHeap :=
  { h with inner := Function.update h.inner r.inner (some bitmap) }

end BitmapMmapRegion

/-! ## What a mark sets -/

/-- Bit `p % 8` of log byte `p / 8`. -/
def logBit (log : List (BitVec 8)) (p : Nat) : Bool := (log.getD (p / 8) 0).getLsbD (p % 8)

theorem logBit_modify {log : List (BitVec 8)} {p : Nat} (h : pageWord p < log.length) (q : Nat) :
    logBit (log.modify (pageWord p) (· ||| 1#8 <<< pageBit p)) q = true ↔ logBit log q = true ∨ q = p := by
  have hbit : pageBit p < 8 := Nat.mod_lt _ (by decide)
  unfold logBit
  by_cases hw : q / 8 = pageWord p
  · have hlt : q / 8 < log.length := hw ▸ h
    have hget : log[q / 8]? = some log[q / 8] := List.getElem?_eq_getElem hlt
    have heq : q % 8 = pageBit p ↔ q = p := by
      rw [pageWord, LOG_WORD_SIZE] at hw
      rw [pageBit, LOG_WORD_SIZE]
      omega
    simp only [List.getD_eq_getElem?_getD, hw, List.getElem?_modify_eq]
    rw [← hw, hget]
    simp only [Option.map_eq_map, Option.map_some, Option.getD_some, BitVec.getLsbD_or, ← BitVec.twoPow_eq,
      BitVec.getLsbD_twoPow, Bool.or_eq_true, Bool.and_eq_true, decide_eq_true_eq, hbit, true_and]
    rw [← heq, eq_comm (a := pageBit p)]
  · have hne : q ≠ p := fun he => hw (by rw [he]; rfl)
    simp only [List.getD_eq_getElem?_getD, List.getElem?_modify_ne _ _ (Ne.symm hw), hne, or_false]

namespace AtomicBitmapMmap

/-- Every page of the bitmap lies in the log. -/
def InBounds (b : AtomicBitmapMmap) : Prop :=
  ∀ page < b.numberOfPages, pageWord (b.pagesBeforeRegion + page) < b.logmem.len

theorem new_ok {startAddr len : UInt64} {logmem : MmapLogReg} {b : AtomicBitmapMmap}
    (h : new startAddr len logmem = .ok b) :
    len.toNat ≠ 0 ∧ startAddr.toNat + (len.toNat - 1) < 2 ^ 64 ∧
      pageWord (pageNumber (startAddr.toNat + (len.toNat - 1))) < logmem.len ∧
      b = ⟨logmem, pageNumber startAddr.toNat, pageNumber len.toNat⟩ := by
  unfold new at h
  split at h
  · cases h
  split at h
  · cases h
  split at h
  · cases h
  injection h with h
  exact ⟨by assumption, by omega, by omega, h.symm⟩

theorem new_inBounds {startAddr len : UInt64} {logmem : MmapLogReg} {b : AtomicBitmapMmap}
    (h : new startAddr len logmem = .ok b) : b.InBounds := by
  obtain ⟨hlen, -, hlog, rfl⟩ := new_ok h
  intro page hpage
  simp only [pageWord, pageNumber, LOG_WORD_SIZE, LOG_PAGE_SIZE] at *
  omega

/-- The loop sets the pages it visits, up to the end of the region, and no others. -/
theorem markPages_spec {b : AtomicBitmapMmap} (hb : b.InBounds) (n page : Nat)
    (log : List (BitVec 8)) (hlog : log.length = b.logmem.len) :
    ∃ log', b.markPages page n log = some log' ∧ log'.length = log.length ∧
      ∀ q, logBit log' q = true ↔ logBit log q = true ∨
        (b.pagesBeforeRegion + page ≤ q ∧ q < b.pagesBeforeRegion + min (page + n) b.numberOfPages) := by
  induction n generalizing page log with
  | zero => exact ⟨log, rfl, rfl, fun q => (or_iff_left (by omega)).symm⟩
  | succ n ih =>
    by_cases hp : page ≥ b.numberOfPages
    · refine ⟨log, by simp only [markPages, if_pos hp], rfl, fun q => ?_⟩
      exact (or_iff_left (by omega)).symm
    · have hin := hb page (by omega)
      obtain ⟨log', he, hl, hq⟩ := ih (page + 1)
        (log.modify (pageWord (b.pagesBeforeRegion + page)) (· ||| 1#8 <<< pageBit (b.pagesBeforeRegion + page)))
        (by rw [List.length_modify, hlog])
      refine ⟨log', ?_, by rw [hl, List.length_modify], fun q => ?_⟩
      · simp only [markPages, if_neg hp, MmapLogReg.fetchOr, if_pos hin, he]
      · rw [hq, logBit_modify (by omega), or_assoc]
        exact or_congr_right (by omega)

theorem markDirty_spec {b : AtomicBitmapMmap} (hb : b.InBounds) {log : List (BitVec 8)}
    (hlog : log.length = b.logmem.len) (offset len : Nat) (hlen : 0 < len)
    (hfit : offset + len ≤ 2 ^ 64) :
    ∃ log', b.markDirty log offset len = some log' ∧ log'.length = log.length ∧
      ∀ q, logBit log' q = true ↔ logBit log q = true ∨
        (b.pagesBeforeRegion + pageNumber offset ≤ q ∧
          q < b.pagesBeforeRegion + min (pageNumber (offset + len - 1) + 1) b.numberOfPages) := by
  have hsat : saturatingAdd offset (len - 1) = offset + len - 1 := by unfold saturatingAdd; omega
  have hle : pageNumber offset ≤ pageNumber (offset + len - 1) :=
    Nat.div_le_div_right (by omega)
  obtain ⟨log', he, hl, hq⟩ := markPages_spec hb (pageNumber (offset + len - 1) + 1 - pageNumber offset)
    (pageNumber offset) log hlog
  refine ⟨log', ?_, hl, fun q => ?_⟩
  · simp only [markDirty, if_neg (Nat.ne_of_gt hlen), hsat, he]
  · rw [hq]
    have hadd : pageNumber offset + (pageNumber (offset + len - 1) + 1 - pageNumber offset) =
        pageNumber (offset + len - 1) + 1 := by omega
    rw [hadd]

end AtomicBitmapMmap

/-- After the mark, the bit of every guest page with a byte of the range is set. -/
def LogsRange (b : AtomicBitmapMmap) (startAddr : Nat) (log : List (BitVec 8)) (offset len : Nat) : Prop :=
  ∃ log', b.markDirty log offset len = some log' ∧
    ∀ x, offset ≤ x → x < offset + len → logBit log' ((startAddr + x) / 4096) = true

/-- The last byte of the range neither carries into the next page nor lies on a partial page. -/
def NoPageMissed (startAddr regionLen offset len : Nat) : Prop :=
  startAddr % 4096 + (offset + len - 1) % 4096 < 4096 ∧
    (offset + len - 1) / 4096 < regionLen / 4096

instance (startAddr regionLen offset len : Nat) : Decidable (NoPageMissed startAddr regionLen offset len) :=
  inferInstanceAs (Decidable (_ ∧ _))

/-- A clear log has no bit set. -/
theorem logBit_replicate (n q : Nat) : logBit (List.replicate n 0) q = false := by
  have h : (List.replicate n (0 : BitVec 8)).getD (q / 8) 0 = 0 := by
    rw [List.getD_eq_getElem?_getD, List.getElem?_replicate]
    split <;> rfl
  rw [logBit, h]
  simp

/-- Whatever the log held before, a range is logged exactly when no page of it is missed. -/
theorem logsRange_iff {startAddr regionLen : UInt64} {logmem : MmapLogReg} {b : AtomicBitmapMmap}
    (hnew : AtomicBitmapMmap.new startAddr regionLen logmem = .ok b) (offset len : Nat) (hlen : 0 < len)
    (hfit : offset + len ≤ regionLen.toNat) :
    (∀ log, log.length = logmem.len → LogsRange b startAddr.toNat log offset len) ↔
      NoPageMissed startAddr.toNat regionLen.toNat offset len := by
  have hb := AtomicBitmapMmap.new_inBounds hnew
  have hlt := regionLen.toNat_lt
  obtain ⟨-, -, -, rfl⟩ := AtomicBitmapMmap.new_ok hnew
  constructor
  · -- on a clear log the bit of the last byte's page can only come from this mark
    intro h
    have hclear : (List.replicate logmem.len (0 : BitVec 8)).length = logmem.len := by simp
    obtain ⟨log', he, hset⟩ := h _ hclear
    obtain ⟨log₁, he₁, -, hq⟩ := AtomicBitmapMmap.markDirty_spec hb hclear offset len hlen (by omega)
    obtain rfl : log' = log₁ := by rw [he] at he₁; injection he₁
    have hlast := (hq _).1 (hset (offset + len - 1) (by omega) (by omega))
    rw [logBit_replicate] at hlast
    simp only [Bool.false_eq_true, false_or, pageNumber, LOG_PAGE_SIZE] at hlast
    unfold NoPageMissed
    omega
  · rintro ⟨hcarry, hcut⟩ log hlog
    obtain ⟨log', he, -, hq⟩ := AtomicBitmapMmap.markDirty_spec hb hlog offset len hlen (by omega)
    refine ⟨log', he, fun x hx hx' => (hq _).2 (.inr ?_)⟩
    simp only [pageNumber, LOG_PAGE_SIZE]
    omega

/-- **A mark misses no page exactly when** the page arithmetic neither carries nor is cut; a
bitmap serves every range of its region exactly when the region is made of whole pages. -/
theorem markDirty_logs_iff {startAddr regionLen : UInt64} {logmem : MmapLogReg} {b : AtomicBitmapMmap}
    (hnew : AtomicBitmapMmap.new startAddr regionLen logmem = .ok b) :
    (∀ offset len, 0 < len → offset + len ≤ regionLen.toNat →
      ((∀ log, log.length = logmem.len → LogsRange b startAddr.toNat log offset len) ↔
        NoPageMissed startAddr.toNat regionLen.toNat offset len)) ∧
    ((∀ offset len log, 0 < len → offset + len ≤ regionLen.toNat → log.length = logmem.len →
        LogsRange b startAddr.toNat log offset len) ↔
      startAddr.toNat % 4096 = 0 ∧ regionLen.toNat % 4096 = 0) := by
  have hlen0 := (AtomicBitmapMmap.new_ok hnew).1
  refine ⟨logsRange_iff hnew, ?_, ?_⟩
  · intro h
    -- the last byte of the region, then the last byte of its first page
    obtain ⟨-, hcut⟩ := (logsRange_iff hnew (regionLen.toNat - 1) 1 (by omega) (by omega)).1
      fun log hl => h _ _ log (by omega) (by omega) hl
    have hwhole : regionLen.toNat % 4096 = 0 := by omega
    obtain ⟨hcarry, -⟩ := (logsRange_iff hnew 4095 1 (by omega) (by omega)).1
      fun log hl => h _ _ log (by omega) (by omega) hl
    omega
  · rintro ⟨hs, hl⟩ offset len log hpos hfit hlog
    refine (logsRange_iff hnew offset len hpos hfit).2 ⟨?_, ?_⟩ log hlog <;> omega

theorem markDirty_logs_two_pages :
    AtomicBitmapMmap.new 0x1000 0x2000 ⟨0, 1⟩ = .ok ⟨⟨0, 1⟩, 1, 2⟩ ∧
      LogsRange ⟨⟨0, 1⟩, 1, 2⟩ 0x1000 [0#8] 0x800 0x1000 :=
  ⟨rfl, ((@markDirty_logs_iff 0x1000 0x2000 ⟨0, 1⟩ _ rfl).1 0x800 0x1000 (by decide) (by decide)).2
    (by decide) [0#8] rfl⟩

/-- A region of 4097 bytes: the byte on its second, partial page is never logged. -/
theorem markDirty_misses_partial_page :
    AtomicBitmapMmap.new 0 0x1001 ⟨0, 1⟩ = .ok ⟨⟨0, 1⟩, 0, 1⟩ ∧
      AtomicBitmapMmap.markDirty ⟨⟨0, 1⟩, 0, 1⟩ [0#8] 0x1000 1 = some [0#8] ∧
      ¬ LogsRange ⟨⟨0, 1⟩, 0, 1⟩ 0 [0#8] 0x1000 1 := by
  have hmark : AtomicBitmapMmap.markDirty ⟨⟨0, 1⟩, 0, 1⟩ [0#8] 0x1000 1 = some [0#8] := by decide
  refine ⟨rfl, hmark, ?_⟩
  rintro ⟨log', he, hset⟩
  obtain rfl : log' = [0#8] := by rw [hmark] at he; injection he with he; exact he.symm
  exact absurd (hset 0x1000 (by decide) (by decide)) (by decide)

end VhostUser
