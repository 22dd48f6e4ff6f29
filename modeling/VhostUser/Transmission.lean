import Mathlib.Data.List.TakeWhile
import VhostUser.Connection
/-!
# Transmission is faithful under any segmentation

Both loops of `Endpoint` keep a byte count and recompute a (buffer, offset) position from it
at every turn. The invariants tie the count to what is on the wire and in the buffers:

* `Sent` — after `n` bytes the writes so far spell the first `n` bytes of the buffers, and the
  descriptors ride on the first write and on no other.
* `Received` — after `n` bytes the buffers hold the first `n` bytes of the message, the socket
  the rest, and the descriptors have been taken with the first chunk.

`Io.Good` is a socket that makes progress or asks to retry; `supplies` counts the bytes a
schedule lets through, so a loop is still waiting exactly when its schedule supplies too few.
-/
namespace VhostUser
open Bytes Scatter

/-- Some bytes, or an error the loops retry on. -/
def Io.Good : Io → Prop
  | .bytes n => 0 < n
  | .errno e => (Error.fromErrno e).isSocketRetry = true

instance : DecidablePred Io.Good
  | .bytes n => inferInstanceAs (Decidable (0 < n))
  | .errno e => inferInstanceAs (Decidable ((Error.fromErrno e).isSocketRetry = true))

def supplies : List Io → Nat
  | [] => 0
  | .bytes n :: sched => n + supplies sched
  | .errno _ :: sched => supplies sched

/-- What is left of a schedule once `n` bytes have come through. -/
def afterBytes : Nat → List Io → List Io
  | _, [] => []
  | n, r :: sched =>
    if n = 0 then r :: sched
    else match r with
      | .bytes k => afterBytes (n - k) sched
      | .errno _ => afterBytes n sched

@[simp] theorem afterBytes_zero (sched : List Io) : afterBytes 0 sched = sched := by
  cases sched <;> simp [afterBytes]

/-! ## Sending -/

theorem sendHead_finished {iovs : List (List UInt8)} {n : Nat} (h : iovs.flatten.length = n) :
    sendHead iovs n = .finished := by
  simp only [sendHead, ← List.length_flatten]
  rw [if_neg (by omega), if_neg (by omega)]

/-- While bytes are left, the loop hands over exactly the bytes not yet sent. -/
theorem sendHead_data {iovs : List (List UInt8)} {n : Nat} (h : n < iovs.flatten.length) :
    ∃ bufs, sendHead iovs n = .data bufs ∧ bufs.flatten = iovs.flatten.drop n := by
  obtain ⟨k, off, b, hloc, hk, hoff, hsum⟩ := locate_spec h
  refine ⟨b.drop off :: iovs.drop (k + 1), ?_, ?_⟩
  · simp only [sendHead, ← List.length_flatten, getSubIovsOffset, hloc, hk]
    rw [if_neg (by omega), if_pos (by omega), if_pos (Nat.le_of_lt hoff)]
  · rw [flatten_from iovs k off b hk (Nat.le_of_lt hoff), hsum]

/-- The writes `ws` carry the first `n` bytes of `bytes`; `fds` went with the first of them. -/
structure Sent (bytes : List UInt8) (fds : List File) (n : Nat) (ws : List Write) : Prop where
  le : n ≤ bytes.length
  bytes_eq : ws.flatMap Write.bytes = bytes.take n
  nonempty : ∀ w ∈ ws, w.bytes ≠ []
  first : ∀ w ∈ ws.head?, w.fds = fds
  others : ∀ w ∈ ws.tail, w.fds = []

theorem Sent.nil (bytes : List UInt8) (fds : List File) : Sent bytes fds 0 [] := by
  constructor <;> simp

theorem Sent.ne_nil {bytes : List UInt8} {fds : List File} {n : Nat} {ws : List Write}
    (h : Sent bytes fds n ws) (hn : n ≠ 0) : ws ≠ [] := by
  rintro rfl
  have hlen := congrArg List.length h.bytes_eq
  have hle := h.le
  simp only [List.flatMap_nil, List.length_nil, List.length_take] at hlen
  omega

/-- One accepted `sendmsg` keeps the invariant. -/
theorem Sent.push {bytes : List UInt8} {fds : List File} {n k : Nat} {ws : List Write}
    (h : Sent bytes fds n ws) (hz : n = 0 → ws = []) (hk : ((bytes.drop n).take k).length ≠ 0) :
    Sent bytes fds (n + ((bytes.drop n).take k).length)
      (ws ++ [⟨(bytes.drop n).take k, if n = 0 then fds else []⟩]) where
  le := by have := h.le; simp only [List.length_take, List.length_drop]; omega
  bytes_eq := by
    rw [List.flatMap_append, h.bytes_eq, List.take_add]
    simp only [List.flatMap_cons, List.flatMap_nil, List.append_nil, List.append_cancel_left_eq]
    rw [List.take_eq_take_iff]
    simp
  nonempty := by
    intro w hw
    rcases List.mem_append.1 hw with hw | hw
    · exact h.nonempty w hw
    · obtain rfl := List.mem_singleton.1 hw
      intro he
      simp only at he
      rw [he] at hk
      exact hk rfl
  first := by
    intro w hw
    cases ws with
    | nil =>
      by_cases hn : n = 0
      · simp only [hn] at hw; simp at hw; rw [← hw]
      · exact absurd rfl (h.ne_nil hn)
    | cons x xs => exact h.first w (by simpa using hw)
  others := by
    intro w hw
    cases ws with
    | nil => simp at hw
    | cons x xs =>
      have hn : n ≠ 0 := fun hn => by simp at hz; exact hz hn
      simp only [List.cons_append, List.tail_cons] at hw
      rcases List.mem_append.1 hw with hw | hw
      · exact h.others w hw
      · obtain rfl := List.mem_singleton.1 hw
        simp [hn]

theorem sendLoop_finished {iovs : List (List UInt8)} {fds : List File} {sched : List Io} {n : Nat}
    {ws : List Write} (h : iovs.flatten.length = n) :
    sendLoop iovs fds sched n ws = .ret (.ok n, ws) := by
  rw [sendLoop.eq_def, sendHead_finished h]

/-- While bytes are owed, the next `sendmsg` is offered all of them. -/
theorem sendLoop_unfinished {iovs : List (List UInt8)} {fds : List File} {sched : List Io} {n : Nat}
    {ws : List Write} (h : n < iovs.flatten.length) :
    sendLoop iovs fds sched n ws = match sched with
      | [] => .blocked
      | .bytes k :: sched =>
        if ((iovs.flatten.drop n).take k).length = 0 then .ret (.ok n, ws)
        else sendLoop iovs fds sched (n + ((iovs.flatten.drop n).take k).length)
          (ws ++ [⟨(iovs.flatten.drop n).take k, if n = 0 then fds else []⟩])
      | .errno e :: sched =>
        if (Error.fromErrno e).isSocketRetry then sendLoop iovs fds sched n ws
        else .ret (.error (Error.fromErrno e), ws) := by
  obtain ⟨bufs, hhead, hbufs⟩ := sendHead_data h
  rw [sendLoop.eq_def, hhead]
  cases sched with
  | nil => rfl
  | cons r sched => cases r <;> simp only [hbufs]

/-- **The send loop.** On a schedule that makes progress it never leaves the buffer list; it
sends everything once the schedule supplies the bytes still owed, and waits otherwise. -/
theorem sendLoop_spec {iovs : List (List UInt8)} {fds : List File} (sched : List Io) (n : Nat)
    (ws : List Write) (hg : ∀ r ∈ sched, r.Good) (hs : Sent iovs.flatten fds n ws)
    (hz : n = 0 → ws = []) :
    if iovs.flatten.length - n ≤ supplies sched then
      ∃ ws', sendLoop iovs fds sched n ws = .ret (.ok iovs.flatten.length, ws') ∧
        Sent iovs.flatten fds iovs.flatten.length ws'
    else sendLoop iovs fds sched n ws = .blocked := by
  induction sched generalizing n ws with
  | nil =>
    by_cases hn : n = iovs.flatten.length
    · subst hn
      rw [if_pos (by omega)]
      exact ⟨ws, sendLoop_finished rfl, hs⟩
    · have hlt : n < iovs.flatten.length := by have := hs.le; omega
      rw [if_neg (by simp only [supplies]; omega), sendLoop_unfinished hlt]
  | cons r sched ih =>
    by_cases hn : n = iovs.flatten.length
    · subst hn
      rw [if_pos (by omega)]
      exact ⟨ws, sendLoop_finished rfl, hs⟩
    · have hlt : n < iovs.flatten.length := by have := hs.le; omega
      have hg' : ∀ r ∈ sched, r.Good := fun x hx => hg x (List.mem_cons_of_mem _ hx)
      cases r with
      | bytes k =>
        have hk : 0 < k := hg (.bytes k) (by simp)
        have hlen : ((iovs.flatten.drop n).take k).length = min k (iovs.flatten.length - n) := by
          simp
        have hne : ((iovs.flatten.drop n).take k).length ≠ 0 := by rw [hlen]; omega
        have ih := ih _ _ hg' (hs.push hz hne) (by omega)
        have hcond : (iovs.flatten.length - (n + ((iovs.flatten.drop n).take k).length)
            ≤ supplies sched) ↔ (iovs.flatten.length - n ≤ supplies (.bytes k :: sched)) := by
          rw [hlen]; simp only [supplies]; omega
        rw [sendLoop_unfinished hlt]
        simp only [hne, if_false]
        simpa only [hcond] using ih
      | errno e =>
        have hr : (Error.fromErrno e).isSocketRetry = true := hg (.errno e) (by simp)
        have ih := ih n ws hg' hs hz
        rw [sendLoop_unfinished hlt]
        simpa only [hr, if_true, supplies] using ih

/-- The send loop on any schedule: the bytes it reports are out. -/
theorem sendLoop_ok {iovs : List (List UInt8)} {fds : List File} {sched : List Io} {n k : Nat}
    {ws ws' : List Write} (hs : Sent iovs.flatten fds n ws) (hz : n = 0 → ws = [])
    (h : sendLoop iovs fds sched n ws = .ret (.ok k, ws')) : Sent iovs.flatten fds k ws' := by
  induction sched generalizing n ws with
  | nil =>
    by_cases hn : n = iovs.flatten.length
    · rw [sendLoop_finished hn.symm] at h
      cases h
      exact hs
    · have hlt : n < iovs.flatten.length := by have := hs.le; omega
      rw [sendLoop_unfinished hlt] at h
      cases h
  | cons r sched ih =>
    by_cases hn : n = iovs.flatten.length
    · rw [sendLoop_finished hn.symm] at h
      cases h
      exact hs
    · have hlt : n < iovs.flatten.length := by have := hs.le; omega
      rw [sendLoop_unfinished hlt] at h
      cases r with
      | bytes k =>
        dsimp only at h
        split at h
        · cases h
          exact hs
        · rename_i hne
          exact ih (hs.push hz hne) (by omega) h
      | errno e =>
        dsimp only at h
        split at h
        · exact ih hs hz h
        · cases h

/-! ## The wire -/

theorem tail_cells (bs : List UInt8) (fds : List File) : ∀ c ∈ (cells bs fds).tail, c.fds = [] := by
  cases bs with
  | nil => simp [cells]
  | cons b bs => simp [cells]

/-- Writes that carry no descriptors. -/
theorem flatMap_cells_plain (ws : List Write) (h : ∀ w ∈ ws, w.fds = []) :
    ws.flatMap Write.cells = (ws.flatMap Write.bytes).map fun b => ⟨b, []⟩ := by
  induction ws with
  | nil => rfl
  | cons w ws ih =>
    obtain ⟨bs, fds⟩ := w
    obtain rfl : fds = [] := h ⟨bs, fds⟩ (by simp)
    have hc : Write.cells ⟨bs, []⟩ = bs.map fun b => ⟨b, []⟩ := by
      cases bs <;> simp [Write.cells, cells]
    rw [List.flatMap_cons, List.flatMap_cons, List.map_append, hc,
      ih fun w hw => h w (List.mem_cons_of_mem _ hw)]

/-- What a complete send puts on the wire: the bytes once and in order, the descriptors on
the first of them. -/
theorem Sent.stream {bytes : List UInt8} {fds : List File} {ws : List Write}
    (h : Sent bytes fds bytes.length ws) (hpos : bytes ≠ []) :
    ws.flatMap Write.cells = cells bytes fds := by
  have hlen : bytes.length ≠ 0 := fun h0 => hpos (List.length_eq_zero_iff.1 h0)
  cases ws with
  | nil => exact absurd rfl (h.ne_nil hlen)
  | cons w ws =>
    obtain ⟨bs, fds'⟩ := w
    obtain rfl : fds' = fds := h.first ⟨bs, fds'⟩ (by simp)
    have hb := h.bytes_eq
    rw [List.take_length, List.flatMap_cons] at hb
    cases bs with
    | nil => exact absurd rfl (h.nonempty ⟨[], fds'⟩ (by simp))
    | cons b bs =>
      rw [List.flatMap_cons, flatMap_cells_plain ws (by simpa using h.others), ← hb]
      simp [Write.cells, cells]

/-! ## Receiving -/

/-- A chunk stops only at the end of what was asked for when no later byte of it carries
descriptors. -/
theorem takeChunk_eq_take {k : Nat} {stream : List Cell}
    (h : ∀ c ∈ (stream.take k).tail, c.fds = []) : takeChunk k stream = stream.take k := by
  cases k with
  | zero => simp [takeChunk]
  | succ k =>
    cases stream with
    | nil => simp [takeChunk]
    | cons c cs =>
      simp only [takeChunk, List.take_succ_cons, List.cons.injEq, true_and]
      rw [List.takeWhile_eq_self_iff]
      intro c hc
      simp [h c (by simpa using hc)]

theorem recvHead_finished {mem : Mem} {n : Nat} (h : mem.flatten.length = n) :
    recvHead (windows 0 mem) n = .finished := by
  simp only [recvHead, map_len_windows, ← List.length_flatten]
  rw [if_neg (by omega), if_neg (by omega)]

/-- While bytes are left, the loop receives into the window that starts at byte `n`. -/
theorem recvHead_data {mem : Mem} {n : Nat} (h : n < mem.flatten.length) :
    ∃ data, recvHead (windows 0 mem) n = .data data ∧
      (data.map IoVec.len).sum = mem.flatten.length - n ∧
      ∀ bs : List UInt8, n + bs.length ≤ mem.flatten.length →
        (fill mem data bs).map List.length = mem.map List.length ∧
        (fill mem data bs).flatten = overwrite mem.flatten n bs := by
  obtain ⟨k, off, b, hloc, hk, hoff, hsum⟩ := locate_spec h
  refine ⟨⟨k, off, b.length - off⟩ :: windows (k + 1) (mem.drop (k + 1)), ?_, ?_, ?_⟩
  · simp only [recvHead, map_len_windows, ← List.length_flatten, getSubIovsOffset, hloc, getElem?_windows,
      hk, Option.map_some, drop_windows, Nat.zero_add]
    rw [if_neg (by omega), if_pos (by omega), if_pos (Nat.le_of_lt hoff)]
  · have hfrom := congrArg List.length (flatten_from mem k off b hk (Nat.le_of_lt hoff))
    rw [List.flatten_cons, List.length_append, List.length_drop, List.length_drop, hsum,
      List.length_flatten (L := mem.drop (k + 1))] at hfrom
    simpa [map_len_windows] using hfrom
  · intro bs hbs
    obtain ⟨mem', he, hl, hf⟩ := fill_from hk (Nat.le_of_lt hoff) (by rw [hsum]; exact hbs)
    rw [he]
    exact ⟨hl, by rw [hf, hsum]⟩

/-- `n` bytes of the message `bytes` (descriptors `fds`) have been received into `mem`; what
follows the message on the stream is `rest`. -/
structure Received (bytes : List UInt8) (fds : List File) (rest : List Cell) (lens : List Nat)
    (n : Nat) (s : RxSock) (mem : Mem) (rfds : Option (List File)) : Prop where
  lens_eq : mem.map List.length = lens
  le : n ≤ mem.flatten.length
  total_le : mem.flatten.length ≤ bytes.length
  stream_eq : s.stream = (cells bytes fds).drop n ++ rest
  filled : mem.flatten.take n = bytes.take n
  files : rfds = if n = 0 then none else toFiles fds

/-- The descriptors come with the first receive. -/
theorem Received.files_next {bytes : List UInt8} {fds : List File} {rest : List Cell} {lens : List Nat} {n : Nat}
    {s : RxSock} {mem : Mem} {rfds : Option (List File)} (h : Received bytes fds rest lens n s mem rfds) :
    (if n = 0 then toFiles (if n = 0 then fds else []) else rfds) = toFiles fds := by
  by_cases h0 : n = 0
  · simp [h0]
  · rw [if_neg h0, h.files, if_neg h0]

/-- A receive when the schedule is at its end. -/
theorem recvIntoIovec_nil {s : RxSock} (hs : s.sched = []) (mem : Mem) (data : List IoVec) :
    recvIntoIovec s mem data = .blocked := by
  simp only [recvIntoIovec, recvWithFds, hs, Outcome.map]

/-- A receive that fails takes nothing. -/
theorem recvIntoIovec_errno {s : RxSock} {e : Errno} {sched : List Io} (hs : s.sched = .errno e :: sched) (mem : Mem)
    (data : List IoVec) :
    recvIntoIovec s mem data = .ret (.error (Error.fromErrno e), { s with sched := sched }, mem) := by
  simp only [recvIntoIovec, recvWithFds, hs, Outcome.map]

theorem drop_cells_fds {bytes : List UInt8} {fds : List File} {n : Nat} (hn : n ≠ 0) :
    ∀ c ∈ (cells bytes fds).drop n, c.fds = [] := by
  intro c hc
  obtain ⟨m, rfl⟩ := Nat.exists_eq_succ_of_ne_zero hn
  rw [← List.drop_tail] at hc
  exact tail_cells bytes fds c (List.mem_of_mem_drop hc)

/-- The bytes and descriptors the next receive takes from a message in transit. -/
theorem takeChunk_message {bytes : List UInt8} {fds : List File} {rest : List Cell} {n k : Nat}
    (hk : 0 < k) (hle : n + k ≤ bytes.length) :
    takeChunk k ((cells bytes fds).drop n ++ rest) = ((cells bytes fds).drop n).take k ∧
      chunkFds (((cells bytes fds).drop n).take k) = if n = 0 then fds else [] := by
  have hlen : k ≤ ((cells bytes fds).drop n).length := by
    rw [List.length_drop, length_cells]; omega
  have htake : ((cells bytes fds).drop n ++ rest).take k = ((cells bytes fds).drop n).take k :=
    List.take_append_of_le_length hlen
  have htail : ∀ c ∈ ((cells bytes fds).drop n).tail, c.fds = [] := by
    intro c hc
    rw [List.tail_drop] at hc
    exact drop_cells_fds (Nat.succ_ne_zero n) c hc
  refine ⟨?_, ?_⟩
  · rw [takeChunk_eq_take, htake]
    rw [htake]
    intro c hc
    rw [← List.drop_one, List.drop_take, List.drop_one] at hc
    exact htail c (List.mem_of_mem_take hc)
  · obtain ⟨j, rfl⟩ := Nat.exists_eq_succ_of_ne_zero (Nat.pos_iff_ne_zero.1 hk)
    cases hd : (cells bytes fds).drop n with
    | nil => rw [hd] at hlen; simp at hlen
    | cons c cs =>
      simp only [List.take_succ_cons, chunkFds]
      split
      · subst n
        cases bytes with
        | nil => simp [cells] at hd
        | cons b bs =>
          simp only [cells, List.drop_zero, List.cons.injEq] at hd
          rw [← hd.1]
      · rename_i hn
        exact drop_cells_fds hn c (by rw [hd]; simp)

/-- One receive into the window at byte `n`: its bytes go where the message has them. -/
theorem Received.step {bytes : List UInt8} {fds : List File} {rest : List Cell} {lens : List Nat}
    {n k : Nat} {s : RxSock} {sched : List Io} {mem : Mem} {rfds : Option (List File)}
    {data : List IoVec} (h : Received bytes fds rest lens n s mem rfds)
    (hs : s.sched = .bytes k :: sched) (hk : 0 < k) (hlt : n < mem.flatten.length)
    (hfds : fds.length ≤ maxAttachedFdEntries)
    (hsum : (data.map IoVec.len).sum = mem.flatten.length - n)
    (hfill : ∀ bs : List UInt8, n + bs.length ≤ mem.flatten.length →
      (fill mem data bs).map List.length = mem.map List.length ∧
      (fill mem data bs).flatten = overwrite mem.flatten n bs) :
    ∃ m s' mem', m = min k (mem.flatten.length - n) ∧ s'.sched = sched ∧
      recvIntoIovec s mem data =
        .ret (.ok (m, toFiles (if n = 0 then fds else [])), s', mem') ∧
      Received bytes fds rest lens (n + m) s' mem' (toFiles fds) := by
  have hle := h.total_le
  have hm : 0 < min k (mem.flatten.length - n) := by omega
  generalize hmd : min k (mem.flatten.length - n) = m at hm
  obtain ⟨hchunk, hcfds⟩ := @takeChunk_message bytes fds rest n m hm (by omega)
  have hcb : (((cells bytes fds).drop n).take m).map Cell.byte = (bytes.drop n).take m := by
    rw [List.map_take, List.map_drop, map_byte_cells]
  have hcl : (((cells bytes fds).drop n).take m).length = m := by
    rw [List.length_take, List.length_drop, length_cells]; omega
  have hbl : ((bytes.drop n).take m).length = m := by
    rw [List.length_take, List.length_drop]; omega
  have hcap : ¬ (if n = 0 then fds else []).length > maxAttachedFdEntries := by
    split <;> simp [hfds]
  obtain ⟨hlens, hflat⟩ := hfill ((bytes.drop n).take m) (by omega)
  have hflen : (fill mem data ((bytes.drop n).take m)).flatten.length = mem.flatten.length := by
    rw [hflat]; exact length_overwrite (by omega)
  refine ⟨m, { s with sched := sched, stream := s.stream.drop m },
    fill mem data ((bytes.drop n).take m), rfl, rfl, ?_, ?_⟩
  · simp only [recvIntoIovec, recvWithFds, hs, hsum, hmd, h.stream_eq, hchunk, hcfds, hcap, if_false,
      Outcome.map, hcb, hbl, hcl]
  · exact
    { lens_eq := by rw [hlens, h.lens_eq]
      le := by rw [hflen]; omega
      total_le := by rw [hflen]; exact hle
      stream_eq := by
        rw [h.stream_eq, List.drop_append_of_le_length (by rw [List.length_drop, length_cells]; omega),
          List.drop_drop]
      filled := by
        have ht : (overwrite mem.flatten n ((bytes.drop n).take m)).take
            (n + ((bytes.drop n).take m).length) = _ := take_overwrite h.le
        rw [hbl] at ht
        rw [hflat, ht, h.filled, List.take_add]
      files := by rw [if_neg (by omega)] }

theorem Received.flatten_length {bytes : List UInt8} {fds : List File} {rest : List Cell}
    {mem₀ : Mem} {n : Nat} {s : RxSock} {mem : Mem} {rfds : Option (List File)}
    (h : Received bytes fds rest (mem₀.map List.length) n s mem rfds) :
    mem.flatten.length = mem₀.flatten.length := by
  rw [List.length_flatten, h.lens_eq, ← List.length_flatten]

/-- **The receive loop.** On a schedule that makes progress it never leaves the buffer list; it
fills the buffers from the message once the schedule supplies the bytes still missing, and
waits otherwise. -/
theorem recvLoop_spec {bytes : List UInt8} {fds : List File} {rest : List Cell} {mem₀ : Mem}
    (hfds : fds.length ≤ maxAttachedFdEntries) (fuel n : Nat) (s : RxSock) (mem : Mem)
    (rfds : Option (List File)) (hfuel : s.sched.length < fuel) (hg : ∀ r ∈ s.sched, r.Good)
    (h : Received bytes fds rest (mem₀.map List.length) n s mem rfds) :
    if mem₀.flatten.length - n ≤ supplies s.sched then
      ∃ s' mem' rfds', recvLoop (windows 0 mem₀) fuel s mem n rfds =
          .ret (.ok (mem₀.flatten.length, rfds'), s', mem') ∧
        s'.sched = afterBytes (mem₀.flatten.length - n) s.sched ∧
        Received bytes fds rest (mem₀.map List.length) mem₀.flatten.length s' mem' rfds'
    else recvLoop (windows 0 mem₀) fuel s mem n rfds = .blocked := by
  induction fuel generalizing n s mem rfds with
  | zero => omega
  | succ fuel ih =>
    have hlen := h.flatten_length
    have hle := h.le
    by_cases hn : n = mem₀.flatten.length
    · have hfin : recvHead (windows 0 mem₀) n = .finished := recvHead_finished (by omega)
      rw [if_pos (by omega)]
      refine ⟨s, mem, rfds, ?_, ?_, hn ▸ h⟩
      · simp only [recvLoop, hfin]
        rw [hn]
      · rw [hn, Nat.sub_self, afterBytes_zero]
    · have hlt : n < mem.flatten.length := by omega
      obtain ⟨data, hhead, hsum, hfill⟩ := recvHead_data hlt
      rw [windows_congr mem mem₀ 0 h.lens_eq] at hhead
      cases hs : s.sched with
      | nil =>
        have hrecv : recvIntoIovec s mem data = .blocked := recvIntoIovec_nil hs mem data
        rw [if_neg (by simp only [supplies]; omega)]
        simp only [recvLoop, hhead, hrecv]
      | cons r sched =>
        have hg' : ∀ x ∈ sched, x.Good := fun x hx => hg x (by rw [hs]; exact List.mem_cons_of_mem _ hx)
        have hfuel' : sched.length < fuel := by rw [hs, List.length_cons] at hfuel; omega
        cases r with
        | bytes k =>
          have hk : 0 < k := hg (.bytes k) (by simp [hs])
          obtain ⟨m, s', mem', hm, hs', hrecv, h'⟩ := h.step hs hk hlt hfds hsum hfill
          have hpos : m ≠ 0 := by omega
          have hfiles := h.files_next
          have ih := ih (n + m) s' mem' (toFiles fds) (hs' ▸ hfuel') (hs' ▸ hg') h'
          have hcond : (mem₀.flatten.length - (n + m) ≤ supplies s'.sched) ↔
              (mem₀.flatten.length - n ≤ supplies (.bytes k :: sched)) := by
            rw [hs']; simp only [supplies]; omega
          have hafter : afterBytes (mem₀.flatten.length - (n + m)) s'.sched =
              afterBytes (mem₀.flatten.length - n) (.bytes k :: sched) := by
            have hsub : mem₀.flatten.length - (n + m) = mem₀.flatten.length - n - k := by omega
            rw [hs', hsub]
            simp only [afterBytes]
            rw [if_neg (by omega)]
          simp only [recvLoop, hhead, hrecv, hfiles]
          simpa only [hcond, hafter] using ih
        | errno e =>
          have hr : (Error.fromErrno e).isSocketRetry = true := hg (.errno e) (by simp [hs])
          have hrecv := recvIntoIovec_errno hs mem data
          have hstep : Received bytes fds rest (mem₀.map List.length) n { s with sched := sched } mem rfds :=
            { h with }
          have ih := ih n { s with sched := sched } mem rfds hfuel' hg' hstep
          have hafter : afterBytes (mem₀.flatten.length - n) sched =
              afterBytes (mem₀.flatten.length - n) (.errno e :: sched) := by
            simp only [afterBytes]
            rw [if_neg (by omega)]
          simp only [recvLoop, hhead, hrecv, hr, if_true]
          rw [hafter] at ih
          exact ih

/-- A receive at the end of the stream. -/
theorem recvIntoIovec_eof {s : RxSock} {sched : List Io} (hs : s.sched = .bytes 0 :: sched) (mem : Mem)
    (data : List IoVec) :
    ∃ s' mem', recvIntoIovec s mem data = .ret (.ok (0, none), s', mem') := by
  simp only [recvIntoIovec, recvWithFds, hs, Nat.zero_min, takeChunk, chunkFds, List.length_nil, Nat.not_lt_zero,
    gt_iff_lt, if_false, Outcome.map, List.map_nil, toFiles]
  exact ⟨_, _, rfl⟩

theorem recvIntoIovec_empty {s : RxSock} (hs : s.stream = []) (mem : Mem) (data : List IoVec) :
    recvIntoIovec s mem data = .blocked ∨
      ∃ r s' mem', recvIntoIovec s mem data = .ret (r, s', mem') ∧ s'.stream = [] ∧
        (r = .ok (0, none) ∨ ∃ e, r = .error e) := by
  have hchunk (n : Nat) : takeChunk n [] = [] := by
    cases n with
    | zero => rfl
    | succ n => rfl
  unfold recvIntoIovec recvWithFds
  obtain _ | ⟨k | e, sched⟩ := s.sched
  · exact .inl rfl
  · simp only [hs, hchunk]
    exact .inr ⟨_, _, _, rfl, rfl, .inl rfl⟩
  · exact .inr ⟨_, _, _, rfl, hs, .inr ⟨_, rfl⟩⟩

/-- Nothing comes out of an empty stream. -/
theorem recvLoop_empty {iovs : List IoVec} {fuel n k : Nat} {s s' : RxSock} {mem mem' : Mem}
    {rfds rfds' : Option (List File)} (hs : s.stream = [])
    (hret : recvLoop iovs fuel s mem n rfds = .ret (.ok (k, rfds'), s', mem')) : k = n := by
  induction fuel generalizing s mem with
  | zero => cases hret
  | succ fuel ih =>
    rw [recvLoop] at hret
    split at hret
    · cases hret
      rfl
    · cases hret
    · rename_i data _
      obtain hblocked | ⟨r, s₁, mem₁, hr, hs₁, rfl | ⟨e, rfl⟩⟩ := recvIntoIovec_empty hs mem data
      · rw [hblocked] at hret
        cases hret
      · rw [hr] at hret
        cases hret
        rfl
      · rw [hr] at hret
        dsimp only at hret
        split at hret
        · exact ih hs₁ hret
        · cases hret

/-- The receive loop on any schedule: if it has filled the buffers, it has filled them from the message. -/
theorem recvLoop_filled {bytes : List UInt8} {fds : List File} {rest : List Cell} {mem₀ : Mem}
    (hfds : fds.length ≤ maxAttachedFdEntries) {fuel n : Nat} {s s' : RxSock} {mem mem' : Mem}
    {rfds rfds' : Option (List File)} (h : Received bytes fds rest (mem₀.map List.length) n s mem rfds)
    (hret : recvLoop (windows 0 mem₀) fuel s mem n rfds = .ret (.ok (mem₀.flatten.length, rfds'), s', mem')) :
    Received bytes fds rest (mem₀.map List.length) mem₀.flatten.length s' mem' rfds' := by
  induction fuel generalizing n s mem rfds with
  | zero => cases hret
  | succ fuel ih =>
    have hlen := h.flatten_length
    have hle := h.le
    by_cases hn : n = mem₀.flatten.length
    · have hfin : recvHead (windows 0 mem₀) n = .finished := recvHead_finished (by omega)
      simp only [recvLoop, hfin] at hret
      cases hret
      exact h
    · have hlt : n < mem.flatten.length := by omega
      obtain ⟨data, hhead, hsum, hfill⟩ := recvHead_data hlt
      rw [windows_congr mem mem₀ 0 h.lens_eq] at hhead
      cases hs : s.sched with
      | nil =>
        have hrecv : recvIntoIovec s mem data = .blocked := recvIntoIovec_nil hs mem data
        simp only [recvLoop, hhead, hrecv] at hret
        cases hret
      | cons r sched =>
        cases r with
        | bytes k =>
          obtain rfl | hk := Nat.eq_zero_or_pos k
          · -- the end of the stream: the buffers are not full
            obtain ⟨s₁, mem₁, hrecv⟩ := recvIntoIovec_eof hs mem data
            simp only [recvLoop, hhead, hrecv] at hret
            cases hret
            exact absurd rfl hn
          · obtain ⟨m, s₁, mem₁, hm, hs₁, hrecv, h₁⟩ := h.step hs hk hlt hfds hsum hfill
            have hfiles := h.files_next
            obtain ⟨m, rfl⟩ := Nat.exists_eq_succ_of_ne_zero (n := m) (by omega)
            simp only [recvLoop, hhead, hrecv, hfiles] at hret
            exact ih h₁ hret
        | errno e =>
          have hrecv := recvIntoIovec_errno hs mem data
          simp only [recvLoop, hhead, hrecv] at hret
          split at hret
          · exact ih (s := { s with sched := sched }) { h with } hret
          · cases hret

/-! ## Whole messages -/

/-- The call waits until its schedule has supplied `need` bytes, then returns a value with `P`;
in particular it never panics. -/
structure Outcome.ReturnsAt {α : Type} (o : Outcome α) (need : Nat) (sched : List Io) (P : α → Prop) :
    Prop where
  returns : need ≤ supplies sched → ∃ a, o = .ret a ∧ P a
  waits : supplies sched < need → o = .blocked

namespace Outcome.ReturnsAt
variable {α β : Type} {o : Outcome α} {need : Nat} {sched : List Io} {P : α → Prop}

theorem mono {Q : α → Prop} (h : o.ReturnsAt need sched P) (hPQ : ∀ a, P a → Q a) :
    o.ReturnsAt need sched Q where
  returns hle := by
    obtain ⟨a, ho, ha⟩ := h.returns hle
    exact ⟨a, ho, hPQ a ha⟩
  waits := h.waits

theorem map {Q : β → Prop} {f : α → β} (h : o.ReturnsAt need sched P) (hPQ : ∀ a, P a → Q (f a)) :
    (o.map f).ReturnsAt need sched Q where
  returns hle := by
    obtain ⟨a, rfl, ha⟩ := h.returns hle
    exact ⟨f a, rfl, hPQ a ha⟩
  waits hlt := by rw [h.waits hlt]; rfl

theorem of_ret {a : α} (h : o.ReturnsAt need sched P) (ha : o = .ret a) : P a := by
  by_cases hle : need ≤ supplies sched
  · obtain ⟨b, hb, hP⟩ := h.returns hle
    rw [ha] at hb
    injection hb with hab
    exact hab ▸ hP
  · have := h.waits (by omega)
    rw [ha] at this
    cases this

end Outcome.ReturnsAt

theorem sendIovecAll_spec {iovs : List (List UInt8)} {fds : List File} {sched : List Io}
    (hg : ∀ r ∈ sched, r.Good) :
    (sendIovecAll iovs fds sched).ReturnsAt iovs.flatten.length sched fun (r, ws) =>
      r = .ok iovs.flatten.length ∧ Sent iovs.flatten fds iovs.flatten.length ws := by
  have h := sendLoop_spec sched 0 [] hg (Sent.nil iovs.flatten fds) (fun _ => rfl)
  simp only [Nat.sub_zero] at h
  refine ⟨fun hle => ?_, fun hlt => ?_⟩
  · rw [if_pos hle] at h
    obtain ⟨ws, he, hs⟩ := h
    exact ⟨(.ok iovs.flatten.length, ws), he, rfl, hs⟩
  · rwa [if_neg (by omega)] at h

theorem recvMem_spec {bytes : List UInt8} {fds : List File} {rest : List Cell} {s : RxSock} {mem : Mem}
    (hfds : fds.length ≤ maxAttachedFdEntries) (hg : ∀ r ∈ s.sched, r.Good)
    (hstream : s.stream = cells bytes fds ++ rest) (hpos : 0 < mem.flatten.length)
    (hle : mem.flatten.length ≤ bytes.length) :
    (recvMem s mem).ReturnsAt mem.flatten.length s.sched fun (r, s', mem') =>
      r = .ok (mem.flatten.length, toFiles fds) ∧ mem'.map List.length = mem.map List.length ∧
      mem'.flatten = bytes.take mem.flatten.length ∧
      s'.stream = (cells bytes fds).drop mem.flatten.length ++ rest ∧
      s'.sched = afterBytes mem.flatten.length s.sched := by
  have h0 : Received bytes fds rest (mem.map List.length) 0 s mem none :=
    { lens_eq := rfl, le := Nat.zero_le _, total_le := hle, stream_eq := hstream
      filled := rfl, files := rfl }
  have h := recvLoop_spec hfds (s.sched.length + 1) 0 s mem none (Nat.lt_succ_self _) hg h0
  simp only [Nat.sub_zero] at h
  refine ⟨fun hle => ?_, fun hlt => ?_⟩
  · rw [if_pos hle] at h
    obtain ⟨s', mem', rfds, he, hsched, hr⟩ := h
    refine ⟨(.ok (mem.flatten.length, rfds), s', mem'), he, ?_, hr.lens_eq, ?_, hr.stream_eq, hsched⟩
    · rw [hr.files, if_neg (by omega)]
    · have hfull : mem'.flatten.take mem.flatten.length = mem'.flatten :=
        List.take_of_length_le (by rw [hr.flatten_length])
      rw [← hfull]
      exact hr.filled
  · rwa [if_neg (by omega)] at h

/-- A message made of `parts`, received into buffers of the lengths of the parts. -/
theorem recvMem_parts {parts : List (List UInt8)} {fds : List File} {rest : List Cell} {s : RxSock}
    {mem : Mem} (hfds : fds.length ≤ maxAttachedFdEntries) (hg : ∀ r ∈ s.sched, r.Good)
    (hstream : s.stream = cells parts.flatten fds ++ rest)
    (hlens : mem.map List.length = parts.map List.length) (hpos : 0 < parts.flatten.length) :
    (recvMem s mem).ReturnsAt parts.flatten.length s.sched fun (r, s', mem') =>
      r = .ok (parts.flatten.length, toFiles fds) ∧ mem' = parts ∧ s'.stream = rest := by
  have hlen : mem.flatten.length = parts.flatten.length := by
    rw [List.length_flatten, hlens, ← List.length_flatten]
  have h := @recvMem_spec _ _ _ _ mem hfds hg hstream (by omega) (by omega)
  rw [hlen] at h
  refine h.mono ?_
  rintro ⟨r, s', mem'⟩ ⟨hr, hl, hf, hst, -⟩
  rw [List.take_length] at hf
  refine ⟨hr, List.eq_iff_flatten_eq.2 ⟨hf, hl.trans hlens⟩, ?_⟩
  rw [hst, List.drop_eq_nil_of_le (by rw [length_cells]), List.nil_append]

/-- A sender that reported success has put the concatenation of its buffers on the wire. -/
theorem checkSent_ok {iovs : List (List UInt8)} {fds : List File} {sched : List Io} {total : Nat}
    {ws : List Write} (hg : ∀ r ∈ sched, r.Good) (hpos : iovs.flatten ≠ [])
    (h : (sendIovecAll iovs fds sched).map (checkSent total) = .ret (.ok (), ws)) :
    ws.flatMap Write.cells = cells iovs.flatten fds := by
  have hq : ((sendIovecAll iovs fds sched).map (checkSent total)).ReturnsAt iovs.flatten.length sched
      fun p => p.2.flatMap Write.cells = cells iovs.flatten fds := by
    refine (sendIovecAll_spec hg).map ?_
    rintro ⟨r, ws'⟩ ⟨rfl, hs⟩
    exact hs.stream hpos
  exact hq.of_ret h

/-- On any schedule, a sender that reported success has all its buffers out. -/
theorem checkSent_bytes {iovs : List (List UInt8)} {fds : List File} {sched : List Io} {ws : List Write}
    (h : (sendIovecAll iovs fds sched).map (checkSent iovs.flatten.length) = .ret (.ok (), ws)) :
    ws.flatMap Write.bytes = iovs.flatten := by
  cases hr : sendIovecAll iovs fds sched with
  | blocked => rw [hr] at h; cases h
  | panic => rw [hr] at h; cases h
  | ret r =>
    rw [hr] at h
    obtain ⟨e | n, ws'⟩ := r
    · cases h
    · simp only [Outcome.map, checkSent] at h
      split at h
      · cases h
      · rename_i hn
        cases h
        have hsent := sendLoop_ok (Sent.nil _ _) (fun _ => rfl) hr
        rw [hsent.bytes_eq, not_not.1 hn, List.take_length]

section Messages
variable {H : Type} [MsgHeader H] [Inhabited H] {T : Type} [ByteValued T] [VhostUserMsgValidator T]
  [Inhabited T] {hdr : H} {body : T} {payload : List UInt8} {fds : List File} {rest : List Cell}
  {s : RxSock}

/-- The header at the front of a longer message: what follows it stays on the stream. -/
theorem recvHeader_front {tail : List UInt8} (hH : 0 < ByteValued.size H)
    (hhdr : VhostUserMsgValidator.isValid hdr = true) (hfds : fds.length ≤ maxAttachedFdEntries)
    (hg : ∀ r ∈ s.sched, r.Good) (hstream : s.stream = cells (ByteValued.asSlice hdr ++ tail) fds ++ rest) :
    (recvHeader s).ReturnsAt (ByteValued.size H) s.sched fun (r, s') =>
      r = .ok (hdr, toFiles fds) ∧
      s'.stream = (cells (ByteValued.asSlice hdr ++ tail) fds).drop (ByteValued.size H) ++ rest ∧
      s'.sched = afterBytes (ByteValued.size H) s.sched := by
  have hlen : [ByteValued.asSlice (default : H)].flatten.length = ByteValued.size H := by simp
  have h := @recvMem_spec _ _ _ s [ByteValued.asSlice (default : H)] hfds hg hstream
    (by rw [hlen]; exact hH) (by rw [hlen]; simp)
  rw [hlen] at h
  refine h.map ?_
  rintro ⟨r, s', mem'⟩ ⟨rfl, hl, hf, hst, hsc⟩
  have hmem : mem' = [ByteValued.asSlice hdr] := by
    refine List.eq_iff_flatten_eq.2 ⟨?_, ?_⟩
    · rw [hf, List.take_append_of_le_length (by simp), List.take_of_length_le (by simp)]
      simp
    · rw [hl]; simp
  have hne : ByteValued.size H ≠ 0 := by omega
  simp [hmem, hne, fromSlice_asSlice_nil, hhdr, hst, hsc]

/-- On any schedule a header that is passed on is the one on the stream. -/
theorem recvHeader_filled {hdr' : H} {tail : List UInt8} {s' : RxSock} {files : Option (List File)}
    (hH : 0 < ByteValued.size H) (hfds : fds.length ≤ maxAttachedFdEntries)
    (hstream : s.stream = cells (ByteValued.asSlice hdr ++ tail) fds ++ rest)
    (hret : recvHeader s = .ret (.ok (hdr', files), s')) :
    hdr' = hdr ∧ files = toFiles fds ∧
      s'.stream = (cells (ByteValued.asSlice hdr ++ tail) fds).drop (ByteValued.size H) ++ rest := by
  have hlen : [ByteValued.asSlice (default : H)].flatten.length = ByteValued.size H := by simp
  unfold recvHeader at hret
  cases hr : recvMem s [ByteValued.asSlice (default : H)] with
  | blocked => rw [hr] at hret; cases hret
  | panic => rw [hr] at hret; cases hret
  | ret r =>
    rw [hr] at hret
    obtain ⟨e | ⟨bytes, files₁⟩, s₁, mem⟩ := r
    · cases hret
    · simp only [Outcome.map] at hret
      split at hret
      · cases hret
      · split at hret
        · cases hret
        · split at hret
          · cases hret
          · rename_i _ hbytes _
            cases hret
            have hstart : Received (ByteValued.asSlice hdr ++ tail) fds rest
                ([ByteValued.asSlice (default : H)].map List.length) 0 s [ByteValued.asSlice (default : H)] none :=
              { lens_eq := rfl, le := Nat.zero_le _, total_le := by simp, stream_eq := hstream
                filled := rfl, files := rfl }
            rw [not_not.1 hbytes, ← hlen] at hr
            have h := recvLoop_filled hfds hstart hr
            rw [hlen] at h
            have hmem : mem = [ByteValued.asSlice hdr] := by
              refine List.eq_iff_flatten_eq.2 ⟨?_, ?_⟩
              · have hfull : mem.flatten.length = ByteValued.size H := h.flatten_length.trans hlen
                have hfilled := h.filled
                rw [List.take_of_length_le (by omega), List.take_append_of_le_length (by simp),
                  List.take_of_length_le (by simp)] at hfilled
                rw [hfilled]
                simp
              · rw [h.lens_eq]; simp
            refine ⟨?_, ?_, h.stream_eq⟩
            · rw [hmem]
              exact fromSlice_asSlice_nil hdr
            · rw [h.files, if_neg (by omega)]

theorem recvHeader_message (hH : 0 < ByteValued.size H) (hhdr : VhostUserMsgValidator.isValid hdr = true)
    (hfds : fds.length ≤ maxAttachedFdEntries) (hg : ∀ r ∈ s.sched, r.Good)
    (hstream : s.stream = cells (ByteValued.asSlice hdr) fds ++ rest) :
    (recvHeader s).ReturnsAt (ByteValued.size H) s.sched fun (r, s') =>
      r = .ok (hdr, toFiles fds) ∧ s'.stream = rest := by
  refine (@recvHeader_front _ _ _ hdr fds rest s [] hH hhdr hfds hg (by simpa using hstream)).mono ?_
  rintro ⟨r, s'⟩ ⟨hr, hst, -⟩
  refine ⟨hr, ?_⟩
  rw [hst, List.drop_eq_nil_of_le (by rw [length_cells]; simp), List.nil_append]

theorem recvBody_message (hH : 0 < ByteValued.size H) (hhdr : VhostUserMsgValidator.isValid hdr = true)
    (hbody : VhostUserMsgValidator.isValid body = true)
    (hfds : fds.length ≤ maxAttachedFdEntries) (hg : ∀ r ∈ s.sched, r.Good)
    (hstream : s.stream = cells (ByteValued.asSlice hdr ++ ByteValued.asSlice body) fds ++ rest) :
    (recvBody s).ReturnsAt (ByteValued.size H + ByteValued.size T) s.sched fun (r, s') =>
      r = .ok (hdr, body, toFiles fds) ∧ s'.stream = rest := by
  have h := @recvMem_parts [ByteValued.asSlice hdr, ByteValued.asSlice body] fds rest s
    [ByteValued.asSlice (default : H), ByteValued.asSlice (default : T)]
    hfds hg (by simpa using hstream) (by simp) (by simp; omega)
  have hlen : [ByteValued.asSlice hdr, ByteValued.asSlice body].flatten.length =
      ByteValued.size H + ByteValued.size T := by simp
  rw [hlen] at h
  refine h.map ?_
  rintro ⟨r, s', mem'⟩ ⟨rfl, rfl, hst⟩
  simp [fromSlice_asSlice_nil, hhdr, hbody, hst]

theorem recvPayloadIntoBuf_message {buf : List UInt8} (hH : 0 < ByteValued.size H)
    (hhdr : VhostUserMsgValidator.isValid hdr = true) (hbody : VhostUserMsgValidator.isValid body = true)
    (hfds : fds.length ≤ maxAttachedFdEntries) (hg : ∀ r ∈ s.sched, r.Good)
    (hstream : s.stream =
      cells (ByteValued.asSlice hdr ++ (ByteValued.asSlice body ++ payload)) fds ++ rest)
    (hbuf : buf.length = payload.length) :
    (recvPayloadIntoBuf s buf).ReturnsAt (ByteValued.size H + ByteValued.size T + payload.length) s.sched
      fun (r, s', buf') =>
        r = .ok (hdr, body, payload.length, toFiles fds) ∧ buf' = payload ∧ s'.stream = rest := by
  have h := @recvMem_parts [ByteValued.asSlice hdr, ByteValued.asSlice body, payload] fds rest s
    [ByteValued.asSlice (default : H), ByteValued.asSlice (default : T), buf]
    hfds hg (by simpa using hstream) (by simp [hbuf]) (by simp; omega)
  have hlen : [ByteValued.asSlice hdr, ByteValued.asSlice body, payload].flatten.length =
      ByteValued.size H + ByteValued.size T + payload.length := by simp; omega
  rw [hlen] at h
  refine h.map ?_
  rintro ⟨r, s', mem'⟩ ⟨rfl, rfl, hst⟩
  have hge : ¬ ByteValued.size H + ByteValued.size T + payload.length <
      ByteValued.size H + ByteValued.size T := by omega
  simp [fromSlice_asSlice_nil, hhdr, hbody, hst, hge]

/-- **Transmission is faithful under any segmentation**, of the sends and of the receives. -/
theorem transmission_faithful (hH : 0 < ByteValued.size H)
    (hhdr : VhostUserMsgValidator.isValid hdr = true) (hbody : VhostUserMsgValidator.isValid body = true)
    (hfds : fds.length ≤ maxAttachedFdEntries) {tx : List Io} (htx : ∀ r ∈ tx, r.Good)
    (hg : ∀ r ∈ s.sched, r.Good) :
    (∀ iovs : List (List UInt8), 0 < iovs.flatten.length →
      (sendIovecAll iovs fds tx).ReturnsAt iovs.flatten.length tx fun (r, ws) =>
        r = .ok iovs.flatten.length ∧ ws.flatMap Write.bytes = iovs.flatten ∧
        (∃ w ws', ws = w :: ws' ∧ w.fds = fds ∧ ∀ w' ∈ ws', w'.fds = []) ∧
        ∀ mem : Mem, mem.flatten.length = iovs.flatten.length →
          s.stream = ws.flatMap Write.cells ++ rest →
          (recvMem s mem).ReturnsAt iovs.flatten.length s.sched fun (r, s', mem') =>
            r = .ok (iovs.flatten.length, toFiles fds) ∧ mem'.flatten = iovs.flatten ∧
            mem'.map List.length = mem.map List.length ∧ s'.stream = rest) ∧
    (∀ ws, sendHeader hdr fds tx = .ret (.ok (), ws) → s.stream = ws.flatMap Write.cells ++ rest →
      (recvHeader s).ReturnsAt (ByteValued.size H) s.sched fun (r, s') =>
        r = .ok (hdr, toFiles fds) ∧ s'.stream = rest) ∧
    (∀ ws, sendMessage hdr body fds tx = .ret (.ok (), ws) →
      s.stream = ws.flatMap Write.cells ++ rest →
      (recvBody s).ReturnsAt (ByteValued.size H + ByteValued.size T) s.sched fun (r, s') =>
        r = .ok (hdr, body, toFiles fds) ∧ s'.stream = rest) ∧
    (∀ ws buf, sendMessageWithPayload hdr body payload fds tx = .ret (.ok (), ws) →
      s.stream = ws.flatMap Write.cells ++ rest → buf.length = payload.length →
      (recvPayloadIntoBuf s buf).ReturnsAt (ByteValued.size H + ByteValued.size T + payload.length)
        s.sched fun (r, s', buf') =>
          r = .ok (hdr, body, payload.length, toFiles fds) ∧ buf' = payload ∧ s'.stream = rest) := by
  have hne : ByteValued.asSlice hdr ≠ [] := by
    intro h
    have := congrArg List.length h
    simp only [ByteValued.length_asSlice, List.length_nil] at this
    omega
  refine ⟨?_, ?_, ?_, ?_⟩
  · intro iovs hpos
    refine (sendIovecAll_spec htx).mono ?_
    rintro ⟨r, ws⟩ ⟨rfl, hs⟩
    have hbytes := hs.bytes_eq
    rw [List.take_length] at hbytes
    refine ⟨rfl, hbytes, ?_, ?_⟩
    · cases ws with
      | nil => exact absurd rfl (hs.ne_nil (by omega))
      | cons w ws' => exact ⟨w, ws', rfl, hs.first w rfl, hs.others⟩
    · intro mem hmem hstream
      rw [hs.stream (List.ne_nil_of_length_pos hpos)] at hstream
      have h := @recvMem_spec _ _ _ _ mem hfds hg hstream (by omega) (by omega)
      rw [hmem] at h
      refine h.mono ?_
      rintro ⟨r, s', mem'⟩ ⟨hr, hl, hf, hst, -⟩
      rw [List.take_length] at hf
      rw [List.drop_eq_nil_of_le (by rw [length_cells]), List.nil_append] at hst
      exact ⟨hr, hf, hl, hst⟩
  · intro ws hsend hstream
    rw [checkSent_ok htx (by simp [hne]) hsend] at hstream
    exact recvHeader_message hH hhdr hfds hg (by simpa using hstream)
  · intro ws hsend hstream
    unfold sendMessage at hsend
    split at hsend
    · simp at hsend
    · rw [checkSent_ok htx (by simp [hne]) hsend] at hstream
      exact recvBody_message hH hhdr hbody hfds hg (by simpa using hstream)
  · intro ws buf hsend hstream hbuf
    unfold sendMessageWithPayload at hsend
    split at hsend
    · simp at hsend
    split at hsend
    · simp at hsend
    split at hsend
    · simp at hsend
    rw [checkSent_ok htx (by simp [hne]) hsend] at hstream
    exact recvPayloadIntoBuf_message hH hhdr hbody hfds hg (by simpa using hstream) hbuf

/-- `SET_VRING_KICK` for ring 2 with one descriptor, cut by a retry and a short call on each side. -/
theorem transmission_faithful_kick :
    let hdr := VhostUserMsgHeader.new FrontendReq.setVringKick 0 8
    let s : RxSock :=
      ⟨cells (ByteValued.asSlice hdr ++ ByteValued.asSlice (⟨2⟩ : VhostUserU64)) [7] ++ [⟨9, []⟩],
        [.errno .EINTR, .bytes 13, .bytes 100], .errno 105⟩
    ∃ s', recvBody (T := VhostUserU64) s = .ret (.ok (hdr, ⟨2⟩, some [7]), s') ∧ s'.stream = [⟨9, []⟩] := by
  intro hdr s
  have h := (@transmission_faithful _ _ _ _ _ _ _ hdr (⟨2⟩ : VhostUserU64) [] [7] [⟨9, []⟩] s (by decide)
    (by decide) (by decide) (by decide) [.bytes 5, .errno .EAGAIN, .bytes 100] (by decide) (by decide)).2.2.1
    [⟨(ByteValued.asSlice hdr).take 5, [7]⟩,
      ⟨(ByteValued.asSlice hdr).drop 5 ++ ByteValued.asSlice (⟨2⟩ : VhostUserU64), []⟩] (by decide) (by decide)
  obtain ⟨⟨r, s'⟩, he, rfl, hs'⟩ := h.returns (by decide)
  exact ⟨s', he, hs'⟩

end Messages

end VhostUser
