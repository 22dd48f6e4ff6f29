import VhostUser.Bounds
import VhostUser.Segmentation
/-!
# The request on an arbitrary stream

`Segmentation` follows a well-formed message to the handler. Here the stream is arbitrary, as a hostile peer
may write it: any bytes, descriptors on any of them, up to the 32 that fit one receive. `nextRequest` reads
the request at the front as a function of the stream alone; `recvRequest_next` says that nothing else is ever
handed over, on any schedule, and `recvRequest_prompt` that on a schedule that hands over what there is
(`Prompt`) the request, or its error, is the one `nextRequest` has.

| here | there |
| --- | --- |
| `nextHeader`, `nextPayload` | `recv_header`, `recv_data` (`connection.rs:282-298`, `:437-470`) with everything at hand |
| `nextRequest` | head of `handle_request` (`backend_req_handler.rs:412-437`, `frontend_req_handler.rs:218-245`) |
-/
namespace VhostUser
open Bytes Scatter

/-! ## Chunks of an arbitrary stream -/

theorem takeChunk_initial (k : Nat) (st : List Cell) : takeChunk k st <+: st := by
  cases k with
  | zero => exact List.nil_prefix
  | succ k =>
    cases st with
    | nil => exact List.nil_prefix
    | cons c cs => exact List.cons_prefix_cons.2 ⟨rfl, (List.takeWhile_prefix _).trans (List.take_prefix k cs)⟩

theorem length_takeChunk_le_min (k : Nat) (st : List Cell) : (takeChunk k st).length ≤ min k st.length :=
  le_min (length_takeChunk_le k st) (takeChunk_initial k st).length_le

theorem takeChunk_eq (k : Nat) (st : List Cell) : takeChunk k st = st.take (takeChunk k st).length :=
  List.prefix_iff_eq_take.1 (takeChunk_initial k st)

theorem takeChunk_pos {k : Nat} {st : List Cell} (hk : 0 < k) (hst : st ≠ []) : 0 < (takeChunk k st).length := by
  obtain ⟨k, rfl⟩ := Nat.exists_eq_succ_of_ne_zero (Nat.pos_iff_ne_zero.1 hk)
  cases st with
  | nil => exact absurd rfl hst
  | cons c cs => exact Nat.succ_pos _

theorem chunkFds_takeChunk {k : Nat} (hk : 0 < k) (st : List Cell) : chunkFds (takeChunk k st) = chunkFds st := by
  obtain ⟨k, rfl⟩ := Nat.exists_eq_succ_of_ne_zero (Nat.pos_iff_ne_zero.1 hk)
  cases st with
  | nil => rfl
  | cons c cs => rfl

theorem length_chunkFds_le {st : List Cell} (h : ∀ c ∈ st, c.fds.length ≤ maxAttachedFdEntries) :
    (chunkFds st).length ≤ maxAttachedFdEntries := by
  cases st with
  | nil => exact Nat.zero_le _
  | cons c cs => exact h c List.mem_cons_self

/-- A chunk that came out as long as it was asked for is that many cells. -/
theorem takeChunk_full {k n : Nat} {st : List Cell} (h : (takeChunk (min k n) st).length = n) :
    takeChunk (min k n) st = takeChunk n st := by
  have hle := length_takeChunk_le_min (min k n) st
  rw [show min k n = n from by omega]

/-! ## The receive loop -/

/-- The first `n` cells of the stream `st` have gone into `mem`. -/
structure Filled (st : List Cell) (lens : List Nat) (n : Nat) (s : RxSock) (mem : Mem) (rfds : Option (List File)) :
    Prop where
  lens_eq : mem.map List.length = lens
  le : n ≤ mem.flatten.length
  le_stream : n ≤ st.length
  stream_eq : s.stream = st.drop n
  filled : mem.flatten.take n = (st.take n).map Cell.byte
  files : rfds = if n = 0 then none else toFiles (chunkFds st)

namespace Filled
variable {st : List Cell} {lens : List Nat} {n : Nat} {s : RxSock} {mem : Mem} {rfds : Option (List File)}

theorem start (s : RxSock) (mem : Mem) : Filled s.stream (mem.map List.length) 0 s mem none where
  lens_eq := rfl
  le := Nat.zero_le _
  le_stream := Nat.zero_le _
  stream_eq := rfl
  filled := rfl
  files := rfl

theorem flatten_length {mem₀ : Mem} (h : Filled st (mem₀.map List.length) n s mem rfds) :
    mem.flatten.length = mem₀.flatten.length := by
  rw [List.length_flatten, h.lens_eq, ← List.length_flatten]

/-- One receive into the window at byte `n`. -/
theorem step {k : Nat} {sched : List Io} {data : List IoVec} (h : Filled st lens n s mem rfds)
    (hfds : ∀ c ∈ st, c.fds.length ≤ maxAttachedFdEntries) (hs : s.sched = .bytes k :: sched)
    (hsum : (data.map IoVec.len).sum = mem.flatten.length - n)
    (hfill : ∀ bs : List UInt8, n + bs.length ≤ mem.flatten.length →
      (fill mem data bs).map List.length = mem.map List.length ∧
      (fill mem data bs).flatten = overwrite mem.flatten n bs) :
    ∃ chunk s' mem', chunk = takeChunk (min k (mem.flatten.length - n)) (st.drop n) ∧ s'.sched = sched ∧
      s'.truncErr = s.truncErr ∧
      recvIntoIovec s mem data = .ret (.ok (chunk.length, toFiles (chunkFds chunk)), s', mem') ∧
      Filled st lens (n + chunk.length) s' mem' (if n = 0 then toFiles (chunkFds chunk) else rfds) := by
  have hlen := length_takeChunk_le_min (min k (mem.flatten.length - n)) (st.drop n)
  have htake := takeChunk_eq (min k (mem.flatten.length - n)) (st.drop n)
  have hpre := (takeChunk_initial (min k (mem.flatten.length - n)) (st.drop n)).subset
  rw [List.length_drop] at hlen
  generalize hch : takeChunk (min k (mem.flatten.length - n)) (st.drop n) = chunk at hlen htake hpre
  have hle := h.le
  have hle_stream := h.le_stream
  have hcap : ¬ (chunkFds chunk).length > maxAttachedFdEntries :=
    not_lt.2 (length_chunkFds_le fun c hc => hfds c (List.mem_of_mem_drop (hpre hc)))
  have hbytes : (chunk.map Cell.byte).length = chunk.length := List.length_map _
  obtain ⟨hlens, hflat⟩ := hfill (chunk.map Cell.byte) (by omega)
  have hflen : (fill mem data (chunk.map Cell.byte)).flatten.length = mem.flatten.length := by
    rw [hflat]
    exact length_overwrite (by omega)
  refine ⟨chunk, { s with sched := sched, stream := s.stream.drop chunk.length },
    fill mem data (chunk.map Cell.byte), rfl, rfl, rfl, ?_, ?_⟩
  · simp only [recvIntoIovec, recvWithFds, hs, hsum, h.stream_eq, hch, hcap, if_false, Outcome.map, hbytes]
  · exact
    { lens_eq := by rw [hlens, h.lens_eq]
      le := by rw [hflen]; omega
      le_stream := by omega
      stream_eq := by rw [h.stream_eq, List.drop_drop]
      filled := by
        have ht : (overwrite mem.flatten n (chunk.map Cell.byte)).take (n + (chunk.map Cell.byte).length) = _ :=
          take_overwrite h.le
        rw [hbytes] at ht
        rw [hflat, ht, h.filled, List.take_add, List.map_append, ← htake]
      files := by
        by_cases h0 : n = 0
        · subst h0
          by_cases hc : chunk.length = 0
          · rw [List.length_eq_zero_iff.1 hc]
            rfl
          · rw [if_pos rfl, if_neg (by omega), ← hch, chunkFds_takeChunk (by omega), List.drop_zero]
        · rw [if_neg h0, if_neg (by omega), h.files, if_neg h0] }

end Filled

/-- **The receive loop on any stream and any schedule**: what it has read is the front of the stream, and
it has used an answer for it. -/
theorem recvLoop_any {st : List Cell} {mem₀ : Mem} (hfds : ∀ c ∈ st, c.fds.length ≤ maxAttachedFdEntries)
    {fuel n k : Nat} {s s' : RxSock} {mem mem' : Mem} {rfds rfds' : Option (List File)}
    (h : Filled st (mem₀.map List.length) n s mem rfds)
    (hret : recvLoop (windows 0 mem₀) fuel s mem n rfds = .ret (.ok (k, rfds'), s', mem')) :
    Filled st (mem₀.map List.length) k s' mem' rfds' ∧ s'.truncErr = s.truncErr ∧
      s'.sched.length + (if n < k then 1 else 0) ≤ s.sched.length ∧ n ≤ k := by
  induction fuel generalizing n s mem rfds with
  | zero => cases hret
  | succ fuel ih =>
    have hlen := h.flatten_length
    by_cases hn : n = mem₀.flatten.length
    · have hfin : recvHead (windows 0 mem₀) n = .finished := recvHead_finished (by omega)
      simp only [recvLoop, hfin] at hret
      cases hret
      exact ⟨h, rfl, by simp, le_rfl⟩
    · have hle := h.le
      obtain ⟨data, hhead, hsum, hfill⟩ := @recvHead_data mem n (by omega)
      rw [windows_congr mem mem₀ 0 h.lens_eq] at hhead
      rcases hs : s.sched with _ | ⟨j | e, sched⟩
      · have hrecv : recvIntoIovec s mem data = .blocked := recvIntoIovec_nil hs mem data
        simp only [recvLoop, hhead, hrecv] at hret
        cases hret
      · obtain ⟨chunk, s₁, mem₁, -, hs₁, hte, hrecv, h₁⟩ := h.step hfds hs hsum hfill
        by_cases hzero : chunk.length = 0
        · -- the end of the stream
          rw [hzero] at hrecv h₁
          simp only [recvLoop, hhead, hrecv] at hret
          have hfiles : (if n = 0 then toFiles (chunkFds chunk) else rfds) = rfds := by
            rw [List.length_eq_zero_iff.1 hzero, h.files]
            by_cases h0 : n = 0
            · rw [if_pos h0, if_pos h0]
              rfl
            · rw [if_neg h0]
          rw [hfiles] at h₁
          cases hret
          exact ⟨h₁, hte, by simp [hs₁], le_rfl⟩
        · obtain ⟨m, hm⟩ := Nat.exists_eq_succ_of_ne_zero hzero
          rw [hm] at hrecv h₁
          simp only [recvLoop, hhead, hrecv] at hret
          obtain ⟨hend, hte', hcount, hge⟩ := ih h₁ hret
          refine ⟨hend, hte'.trans hte, ?_, by omega⟩
          rw [if_pos (by omega), List.length_cons, ← hs₁]
          omega
      · have hrecv := recvIntoIovec_errno hs mem data
        simp only [recvLoop, hhead, hrecv] at hret
        split at hret
        · obtain ⟨hend, hte, hcount, hge⟩ := ih (s := { s with sched := sched }) { h with } hret
          refine ⟨hend, hte, ?_, hge⟩
          rw [List.length_cons]
          exact hcount.trans (Nat.le_succ _)
        · cases hret

/-! ## Sockets that hand over what there is -/

/-- At least as much as is ever asked for at once. -/
def Io.Full : Io → Prop
  | .bytes n => maxMsgSize ≤ n
  | .errno _ => False

instance : DecidablePred Io.Full
  | .bytes n => inferInstanceAs (Decidable (maxMsgSize ≤ n))
  | .errno _ => inferInstanceAs (Decidable False)

/-- Every receive returns all that was asked for, or all there is; there are answers to the end of the stream
and one more. -/
structure Prompt (s : RxSock) : Prop where
  full : ∀ r ∈ s.sched, r.Full
  enough : s.stream.length < s.sched.length

theorem Prompt.cases {s : RxSock} (h : Prompt s) :
    ∃ k sched, s.sched = .bytes k :: sched ∧ maxMsgSize ≤ k ∧ (∀ r ∈ sched, r.Full) ∧
      s.stream.length ≤ sched.length := by
  rcases hs : s.sched with _ | ⟨k | e, sched⟩
  · have := h.enough
    rw [hs] at this
    cases this
  · have henough := h.enough
    rw [hs, List.length_cons] at henough
    refine ⟨k, sched, rfl, h.full (.bytes k) (hs ▸ List.mem_cons_self), fun r hr => ?_, by omega⟩
    exact h.full r (hs ▸ List.mem_cons_of_mem _ hr)
  · exact (h.full (.errno e) (hs ▸ List.mem_cons_self)).elim

/-- The loop fills its buffers as far as the stream goes. -/
theorem recvLoop_prompt {st : List Cell} {mem₀ : Mem} (hfds : ∀ c ∈ st, c.fds.length ≤ maxAttachedFdEntries)
    (hmax : mem₀.flatten.length ≤ maxMsgSize) {fuel n : Nat} {s : RxSock} {mem : Mem} {rfds : Option (List File)}
    (h : Filled st (mem₀.map List.length) n s mem rfds) (hp : Prompt s) (hfuel : s.stream.length + 1 < fuel) :
    ∃ s' mem' rfds', recvLoop (windows 0 mem₀) fuel s mem n rfds =
        .ret (.ok (min mem₀.flatten.length st.length, rfds'), s', mem') ∧
      (mem₀.flatten.length ≤ st.length → Prompt s') := by
  induction fuel generalizing n s mem rfds with
  | zero => omega
  | succ fuel ih =>
    have hlen := h.flatten_length
    have hle := h.le
    have hle_stream := h.le_stream
    have hstream := congrArg List.length h.stream_eq
    rw [List.length_drop] at hstream
    by_cases hn : n = mem₀.flatten.length
    · have hfin : recvHead (windows 0 mem₀) n = .finished := recvHead_finished (by omega)
      have hmin : min mem₀.flatten.length st.length = n := by
        have := h.le_stream
        omega
      refine ⟨s, mem, rfds, ?_, fun _ => hp⟩
      simp only [recvLoop, hfin, hmin]
    · obtain ⟨data, hhead, hsum, hfill⟩ := @recvHead_data mem n (by omega)
      rw [windows_congr mem mem₀ 0 h.lens_eq] at hhead
      obtain ⟨k, sched, hs, hk, hfull, henough⟩ := hp.cases
      obtain ⟨chunk, s₁, mem₁, hchunk, hs₁, -, hrecv, h₁⟩ := h.step hfds hs hsum hfill
      have hchunk_le := length_takeChunk_le_min (min k (mem.flatten.length - n)) (st.drop n)
      rw [← hchunk, List.length_drop] at hchunk_le
      by_cases hzero : chunk.length = 0
      · -- the end of the stream
        have hend : st.length ≤ n := by
          by_contra hlt
          have hpos := @takeChunk_pos (min k (mem.flatten.length - n)) (st.drop n) (by omega)
            (List.ne_nil_of_length_pos (by rw [List.length_drop]; omega))
          rw [← hchunk] at hpos
          omega
        have hmin : min mem₀.flatten.length st.length = n := by
          have := h.le_stream
          omega
        rw [hzero] at hrecv
        refine ⟨s₁, mem₁, rfds, ?_, fun hge => by omega⟩
        simp only [recvLoop, hhead, hrecv, hmin]
      · have hp₁ : Prompt s₁ := by
          refine ⟨hs₁ ▸ hfull, ?_⟩
          rw [h₁.stream_eq, List.length_drop, hs₁]
          omega
        have hfuel₁ : s₁.stream.length + 1 < fuel := by
          rw [h₁.stream_eq, List.length_drop]
          omega
        have ih := ih h₁ hp₁ hfuel₁
        obtain ⟨m, hm⟩ := Nat.exists_eq_succ_of_ne_zero hzero
        rw [hm] at hrecv ih
        simp only [recvLoop, hhead, hrecv]
        exact ih

/-! ## The request at the front of a stream -/

section Request
variable {R : Type} [Req R]

/-- What `recv_header` makes of the stream once it has got `n` bytes. -/
def headerAt (n : Nat) (st : List Cell) : Except Error (VhostUserMsgHeader R × Option (List File)) :=
  let hdr : VhostUserMsgHeader R := ByteValued.fromSlice ((st.take 12).map Cell.byte)
  if n = 0 then .error .disconnected
  else if n ≠ 12 then .error .partialMessage
  else if !VhostUserMsgValidator.isValid hdr then .error .invalidMessage
  else .ok (hdr, toFiles (chunkFds st))

/-- `recv_header`, with everything at hand. -/
def nextHeader (st : List Cell) : Except Error (VhostUserMsgHeader R × Option (List File)) :=
  headerAt (min 12 st.length) st

/-- `recv_data` for a payload of `len` bytes, with everything at hand; `truncErr` is what the socket reports
where there are descriptors. -/
def nextPayload (truncErr : Errno) (len : Nat) (st : List Cell) : Except Error (List UInt8) :=
  let chunk := takeChunk len st
  if (chunkFds chunk).length > 0 then .error (Error.fromErrno truncErr)
  else if chunk.length ≠ len then .error .invalidMessage
  else .ok (chunk.map Cell.byte)

/-- The request at the front of a stream and what follows it. -/
def nextRequest (checkAttachedFiles : VhostUserMsgHeader R → Option (List File) → Except Error Unit)
    (lenOk : Nat → Bool) (truncErr : Errno) (st : List Cell) : Except Error (Request R × List Cell) := do
  let (hdr, files) ← nextHeader st
  checkAttachedFiles hdr files
  let len := hdr.getSize.toNat
  if len = 0 then pure (⟨hdr, 0, [], files⟩, st.drop 12)
  else if !lenOk len then throw .invalidMessage
  else
    let buf ← nextPayload truncErr len (st.drop 12)
    pure (⟨hdr, len, buf, files⟩, st.drop (12 + len))

theorem nextHeader_ok {st : List Cell} {hdr : VhostUserMsgHeader R} {files : Option (List File)}
    (h : nextHeader st = .ok (hdr, files)) : 12 ≤ st.length ∧ hdr.isValid = true := by
  unfold nextHeader headerAt at h
  dsimp only at h
  split at h
  · cases h
  · split at h
    · cases h
    · rename_i hlen
      split at h
      · cases h
      · rename_i hvalid
        cases h
        rw [Bool.not_eq_true, Bool.not_eq_eq_eq_not, Bool.not_false] at hvalid
        exact ⟨by omega, hvalid⟩

/-- A request takes its header off the stream, and more where it has a payload. -/
theorem nextRequest_rest {check : VhostUserMsgHeader R → Option (List File) → Except Error Unit}
    {lenOk : Nat → Bool} {truncErr : Errno} {st rest : List Cell} {req : Request R}
    (h : nextRequest check lenOk truncErr st = .ok (req, rest)) : rest <:+ st ∧ rest.length < st.length := by
  obtain ⟨⟨hdr, files⟩, hhdr, h⟩ := EState.except_bind_ok h
  have hst := (nextHeader_ok hhdr).1
  obtain ⟨-, -, h⟩ := EState.except_bind_ok h
  dsimp only at h
  split at h
  · cases h
    exact ⟨List.drop_suffix _ _, by rw [List.length_drop]; omega⟩
  · split at h
    · cases h
    · obtain ⟨buf, -, h⟩ := EState.except_bind_ok h
      cases h
      exact ⟨List.drop_suffix _ _, by rw [List.length_drop]; omega⟩

/-! ### Receiving it -/

variable {s s' : RxSock} (hfds : ∀ c ∈ s.stream, c.fds.length ≤ maxAttachedFdEntries)
include hfds

theorem recvHeader_of_recvMem {n : Nat} {rfds : Option (List File)} {mem : Mem}
    (hr : recvMem s [ByteValued.asSlice (default : VhostUserMsgHeader R)] = .ret (.ok (n, rfds), s', mem)) :
    (recvHeader s : Outcome (Except Error (VhostUserMsgHeader R × Option (List File)) × RxSock)) =
      .ret (headerAt n s.stream, s') := by
  have hlen : [ByteValued.asSlice (default : VhostUserMsgHeader R)].flatten.length = 12 := by simp
  obtain ⟨h, -⟩ := recvLoop_any hfds (Filled.start s _) hr
  have hflen := h.flatten_length
  have hle_stream := h.le_stream
  simp only [recvHeader, hr, Outcome.map, headerAt, VhostUserMsgHeader.size_header]
  by_cases hn : n = 12
  · have hmem : mem.getD 0 [] = (s.stream.take 12).map Cell.byte := by
      have hbytes := h.filled
      have hone := congrArg List.length h.lens_eq
      rw [List.length_map, List.length_map, List.length_singleton] at hone
      obtain ⟨b, rfl⟩ := List.length_eq_one_iff.1 hone
      rw [List.flatten_singleton] at hbytes hflen
      rw [List.take_of_length_le (by omega), hn] at hbytes
      exact hbytes
    have hfiles : rfds = toFiles (chunkFds s.stream) := by rw [h.files, if_neg (by omega)]
    rw [hmem, hfiles]
    simp only [apply_ite (Outcome.ret (α := _ × RxSock))]
    split_ifs <;> rfl
  · by_cases h0 : n = 0
    · rw [if_pos h0, if_pos h0]
    · rw [if_neg h0, if_pos hn, if_neg h0, if_pos hn]

/-- On any schedule, a header that is passed on is the one at the front of the stream. -/
theorem recvHeader_any {hdr : VhostUserMsgHeader R} {files : Option (List File)}
    (hret : recvHeader s = .ret (.ok (hdr, files), s')) :
    nextHeader s.stream = .ok (hdr, files) ∧ s'.stream = s.stream.drop 12 ∧ s'.truncErr = s.truncErr ∧
      s'.sched.length < s.sched.length := by
  rcases hr : recvMem s [ByteValued.asSlice (default : VhostUserMsgHeader R)] with _ | _ | ⟨e | ⟨n, rfds⟩, s₁, mem⟩
  · rw [recvHeader, hr] at hret; cases hret
  · rw [recvHeader, hr] at hret; cases hret
  · rw [recvHeader, hr] at hret; cases hret
  · obtain ⟨h, hte, hcount, -⟩ := recvLoop_any hfds (Filled.start s _) hr
    have hle_stream := h.le_stream
    rw [recvHeader_of_recvMem hfds hr] at hret
    obtain ⟨hhdr, rfl⟩ := Prod.mk.inj (Outcome.ret.inj hret)
    have hn : n = 12 := by
      unfold headerAt at hhdr
      dsimp only at hhdr
      split at hhdr
      · cases hhdr
      · split at hhdr
        · cases hhdr
        · rename_i hn
          exact not_not.1 hn
    subst hn
    refine ⟨?_, h.stream_eq, hte, ?_⟩
    · rw [nextHeader, Nat.min_eq_left hle_stream, hhdr]
    · rw [if_pos (by decide)] at hcount
      exact hcount

theorem recvHeader_prompt (hp : Prompt s) :
    ∃ s', recvHeader s = .ret (nextHeader (R := R) s.stream, s') ∧ (12 ≤ s.stream.length → Prompt s') := by
  have hlen : [ByteValued.asSlice (default : VhostUserMsgHeader R)].flatten.length = 12 := by simp
  have henough := hp.enough
  obtain ⟨s', mem', rfds', hloop, hprompt⟩ := @recvLoop_prompt _ _ hfds (by rw [hlen]; decide) (s.sched.length + 1)
    _ _ _ _ (Filled.start s [ByteValued.asSlice (default : VhostUserMsgHeader R)]) hp (by omega)
  rw [hlen] at hloop hprompt
  exact ⟨s', recvHeader_of_recvMem hfds hloop, hprompt⟩

omit [Req R] hfds in
/-- On any schedule, a payload that is passed on is the next on the stream. -/
theorem recvData_any {len : Nat} {buf : List UInt8} (hret : recvData s len = .ret (.ok (len, buf), s')) :
    nextPayload s.truncErr len s.stream = .ok buf ∧ s'.stream = s.stream.drop len ∧ s'.truncErr = s.truncErr ∧
      s'.sched.length < s.sched.length := by
  unfold recvData recvWithFds at hret
  rcases hs : s.sched with _ | ⟨k | e, sched⟩
  · simp only [hs, Outcome.map] at hret
    cases hret
  · simp only [hs] at hret
    by_cases hcap : (chunkFds (takeChunk (min k len) s.stream)).length > 0
    · simp only [hcap, if_true, Outcome.map] at hret
      cases hret
    · simp only [hcap, if_false, Outcome.map, List.length_map] at hret
      obtain ⟨hok, rfl⟩ := Prod.mk.inj (Outcome.ret.inj hret)
      obtain ⟨hfull, rfl⟩ := Prod.mk.inj (Except.ok.inj hok)
      have hchunk := takeChunk_full hfull
      rw [hchunk] at hcap hfull
      refine ⟨?_, by rw [hchunk, hfull], rfl, by simp⟩
      unfold nextPayload
      dsimp only
      rw [if_neg hcap, if_neg (not_not.2 hfull), hchunk]
      simp [overwrite, hfull]
  · simp only [hs, Outcome.map] at hret
    cases hret

omit [Req R] hfds in
theorem recvData_prompt (hp : Prompt s) {len : Nat} (hpos : 0 < len) (hmax : len ≤ maxMsgSize) :
    ∃ s', (∃ e, nextPayload s.truncErr len s.stream = .error e ∧ recvData s len = .ret (.error e, s')) ∨
      ∃ n buf, recvData s len = .ret (.ok (n, buf), s') ∧
        (n ≠ len → nextPayload s.truncErr len s.stream = .error .invalidMessage) ∧ (n = len → Prompt s') := by
  obtain ⟨k, sched, hs, hk, hfull, henough⟩ := hp.cases
  have hmin : min k len = len := by omega
  unfold recvData recvWithFds nextPayload
  simp only [hs, hmin]
  by_cases hcap : (chunkFds (takeChunk len s.stream)).length > 0
  · simp only [hcap, if_true, Outcome.map]
    exact ⟨_, .inl ⟨_, rfl, rfl⟩⟩
  · simp only [hcap, if_false, Outcome.map, List.length_map]
    refine ⟨_, .inr ⟨_, _, rfl, fun hne => by rw [if_pos hne], fun hn => ⟨hfull, ?_⟩⟩⟩
    have hle := length_takeChunk_le_min len s.stream
    show (s.stream.drop _).length < sched.length
    rw [List.length_drop]
    omega

variable {check : VhostUserMsgHeader R → Option (List File) → Except Error Unit} {lenOk : Nat → Bool}

/-- **What is handed over is the request at the front of the stream**, on any schedule. -/
theorem recvRequest_next {req : Request R} (hret : recvRequest check lenOk s = .ret (.ok req, s')) :
    nextRequest check lenOk s.truncErr s.stream = .ok (req, s'.stream) ∧ s'.truncErr = s.truncErr ∧
      s'.sched.length < s.sched.length := by
  unfold recvRequest at hret
  rcases hr : (recvHeader s : Outcome (Except Error (VhostUserMsgHeader R × Option (List File)) × RxSock)) with
    _ | _ | ⟨e | ⟨hdr, files⟩, s₁⟩
  · rw [hr] at hret; cases hret
  · rw [hr] at hret; cases hret
  · rw [hr] at hret; cases hret
  · obtain ⟨hhdr, hst, hte, hsched⟩ := recvHeader_any hfds hr
    rw [hr] at hret
    dsimp only at hret
    unfold nextRequest
    simp only [hhdr, bind, Except.bind]
    cases hc : check hdr files with
    | error e =>
      rw [hc] at hret
      cases hret
    | ok u =>
      rw [hc] at hret
      dsimp only at hret ⊢
      by_cases hzero : hdr.getSize.toNat = 0
      · rw [if_pos hzero] at hret ⊢
        cases hret
        exact ⟨by rw [hst]; rfl, hte, hsched⟩
      · rw [if_neg hzero] at hret ⊢
        by_cases hok : lenOk hdr.getSize.toNat = true
        · rw [if_neg (by simp [hok])] at hret ⊢
          rcases hd : recvData s₁ hdr.getSize.toNat with _ | _ | ⟨e | ⟨n, buf⟩, s₂⟩
          · rw [hd] at hret; cases hret
          · rw [hd] at hret; cases hret
          · rw [hd] at hret; cases hret
          · rw [hd] at hret
            simp only [Outcome.map, takePayload] at hret
            split at hret
            · cases hret
            · rename_i hn
              obtain rfl := not_not.1 hn
              cases hret
              obtain ⟨hbuf, hst₂, hte₂, hsched₂⟩ := recvData_any hd
              rw [hst, hte] at hbuf
              refine ⟨?_, hte₂.trans hte, hsched₂.trans hsched⟩
              simp only [hbuf, pure, Except.pure, hst₂, hst, List.drop_drop]
        · rw [if_pos (by simp [hok])] at hret
          cases hret

/-- **With everything at hand** the request at the front of the stream is handed over, or its error. -/
theorem recvRequest_prompt (hp : Prompt s) :
    ∃ r s', recvRequest check lenOk s = .ret (r, s') ∧
      (∀ req, r = .ok req → Prompt s') ∧
      (∀ e, r = .error e ↔ nextRequest check lenOk s.truncErr s.stream = .error e) := by
  obtain ⟨s₁, hhdr, hprompt⟩ := recvHeader_prompt (R := R) hfds hp
  unfold recvRequest nextRequest
  rw [hhdr]
  cases hn : (nextHeader s.stream : Except Error (VhostUserMsgHeader R × Option (List File))) with
  | error e => exact ⟨.error e, s₁, rfl, (fun _ hr => by cases hr), fun e' => by simp [bind, Except.bind]⟩
  | ok p =>
    obtain ⟨hdr, files⟩ := p
    rw [hn] at hhdr
    obtain ⟨-, hst, hte, -⟩ := recvHeader_any hfds hhdr
    have hfront : 12 ≤ s.stream.length ∧ VhostUserMsgHeader.isValid hdr = true := nextHeader_ok hn
    have hp₁ := hprompt hfront.1
    simp only [bind, Except.bind]
    cases hc : check hdr files with
    | error e => exact ⟨.error e, s₁, rfl, (fun _ hr => by cases hr), fun e' => by simp⟩
    | ok u =>
      dsimp only
      by_cases hzero : hdr.getSize.toNat = 0
      · rw [if_pos hzero, if_pos hzero]
        exact ⟨_, s₁, rfl, fun _ _ => hp₁, fun e => by simp [pure, Except.pure]⟩
      · rw [if_neg hzero, if_neg hzero]
        by_cases hok : lenOk hdr.getSize.toNat = true
        · rw [if_neg (by simp [hok]), if_neg (by simp [hok])]
          obtain ⟨s₂, ⟨e, hbuf, hd⟩ | ⟨n, buf, hd, hshort, hp₂⟩⟩ := recvData_prompt hp₁ (Nat.pos_of_ne_zero hzero)
            (VhostUserMsgHeader.isValid_iff.1 hfront.2).2.1
          · rw [hst, hte] at hbuf
            rw [hd, hbuf]
            exact ⟨.error e, s₂, rfl, (fun _ hr => by cases hr), fun e' => by simp⟩
          · rw [hd]
            simp only [Outcome.map, takePayload]
            by_cases hlen : n = hdr.getSize.toNat
            · subst hlen
              obtain ⟨hbuf, -⟩ := recvData_any hd
              rw [hst, hte] at hbuf
              rw [if_neg (not_not.2 rfl), hbuf]
              exact ⟨_, s₂, rfl, fun _ _ => hp₂ rfl, fun e => by simp [pure, Except.pure]⟩
            · have hbuf := hshort hlen
              rw [hst, hte] at hbuf
              rw [if_pos hlen, hbuf]
              exact ⟨_, s₂, rfl, (fun _ hr => by cases hr), fun e => by simp⟩
        · rw [if_pos (by simp [hok]), if_pos (by simp [hok])]
          exact ⟨_, s₁, rfl, (fun _ hr => by cases hr), fun e => by simp [throw, throwThe, MonadExceptOf.throw]⟩

/-! ### On a message, and on a part of one -/

variable {hdr : VhostUserMsgHeader R} {payload : List UInt8} {fds : List File} {rest : List Cell}
  {truncErr : Errno}

omit hfds

/-- The beginning of a stream that starts with a message. -/
theorem nextHeader_message {st : List Cell} (hvalid : hdr.isValid = true)
    (hst : st.take 12 = (cells (ByteValued.asSlice hdr ++ payload) fds).take 12) :
    nextHeader st = .ok (hdr, toFiles fds) := by
  have hsize : (ByteValued.asSlice hdr).length = 12 := ByteValued.length_asSlice hdr
  have hlen := congrArg List.length hst
  rw [List.length_take, List.length_take, length_cells, List.length_append, hsize] at hlen
  have hbytes : (st.take 12).map Cell.byte = ByteValued.asSlice hdr := by
    rw [hst, List.map_take, map_byte_cells, ← hsize, List.take_left]
  have hfiles : chunkFds st = fds := by
    have hne := asSlice_header_ne_nil hdr
    cases st with
    | nil => simp at hlen
    | cons c cs =>
      cases hb : ByteValued.asSlice hdr with
      | nil => exact absurd hb hne
      | cons b bs =>
        rw [hb] at hst
        simp only [List.cons_append, cells, List.take_succ_cons, List.cons.injEq] at hst
        rw [chunkFds, hst.1]
  have hvalid' : VhostUserMsgValidator.isValid hdr = true := hvalid
  unfold nextHeader headerAt
  dsimp only
  rw [if_neg (by omega), if_neg (by omega), hbytes, fromSlice_asSlice_nil, hfiles, if_neg (by simp [hvalid'])]

/-- A whole message is read as it was sent. -/
theorem nextRequest_message (hvalid : hdr.isValid = true) (hlen : hdr.getSize.toNat = payload.length)
    (hok : ∀ n ≤ maxMsgSize, lenOk n = true) (hc : check hdr (toFiles fds) = .ok ()) :
    nextRequest check lenOk truncErr (cells (ByteValued.asSlice hdr ++ payload) fds ++ rest) =
      .ok (⟨hdr, payload.length, payload, toFiles fds⟩, rest) := by
  have hsize : (ByteValued.asSlice hdr).length = 12 := ByteValued.length_asSlice hdr
  have hall : (cells (ByteValued.asSlice hdr ++ payload) fds).length = 12 + payload.length := by
    rw [length_cells, List.length_append, hsize]
  have hhdr := @nextHeader_message _ _ hdr payload fds (cells (ByteValued.asSlice hdr ++ payload) fds ++ rest) hvalid
    (List.take_append_of_le_length (by omega))
  have hmax : lenOk payload.length = true := hok _ (hlen ▸ (VhostUserMsgHeader.isValid_iff.1 hvalid).2.1)
  simp only [nextRequest, hhdr, bind, Except.bind, hc, hlen, hmax, Bool.not_true, Bool.false_eq_true, if_false]
  by_cases hp : payload.length = 0
  · rw [if_pos hp, hp, List.drop_left' (by omega), List.length_eq_zero_iff.1 hp]
    rfl
  · have hdrop : (cells (ByteValued.asSlice hdr ++ payload) fds ++ rest).drop 12 =
        (cells (ByteValued.asSlice hdr ++ payload) fds).drop 12 ++ rest :=
      List.drop_append_of_le_length (by omega)
    obtain ⟨hchunk, hcfds⟩ := @takeChunk_message (ByteValued.asSlice hdr ++ payload) fds rest 12 payload.length
      (by omega) (by rw [List.length_append, hsize])
    have htake : ((cells (ByteValued.asSlice hdr ++ payload) fds).drop 12).take payload.length =
        (cells (ByteValued.asSlice hdr ++ payload) fds).drop 12 :=
      List.take_of_length_le (by rw [List.length_drop]; omega)
    rw [htake] at hchunk hcfds
    have hbuf : nextPayload truncErr payload.length ((cells (ByteValued.asSlice hdr ++ payload) fds ++ rest).drop 12) =
        .ok payload := by
      unfold nextPayload
      dsimp only
      rw [hdrop, hchunk, hcfds, if_neg (by simp), if_neg (by rw [List.length_drop]; omega), List.map_drop, map_byte_cells,
        ← hsize, List.drop_left]
    rw [if_neg hp, hbuf]
    dsimp only
    rw [List.drop_left' hall]
    rfl

/-- What is said of a message of which only `k` bytes have come. -/
def cutError (k : Nat) : Error :=
  if k = 0 then .disconnected else if k < 12 then .partialMessage else .invalidMessage

theorem nextRequest_cut (hvalid : hdr.isValid = true) (hlen : hdr.getSize.toNat = payload.length)
    (hok : ∀ n ≤ maxMsgSize, lenOk n = true)
    (hc : check hdr (toFiles fds) = .ok () ∨ check hdr (toFiles fds) = .error .invalidMessage) {k : Nat}
    (hk : k < 12 + payload.length) :
    nextRequest check lenOk truncErr ((cells (ByteValued.asSlice hdr ++ payload) fds).take k) = .error (cutError k) := by
  have hsize : (ByteValued.asSlice hdr).length = 12 := ByteValued.length_asSlice hdr
  have hall : (cells (ByteValued.asSlice hdr ++ payload) fds).length = 12 + payload.length := by
    rw [length_cells, List.length_append, hsize]
  have hcut : ((cells (ByteValued.asSlice hdr ++ payload) fds).take k).length = k := by
    rw [List.length_take]
    omega
  unfold cutError
  by_cases h12 : k < 12
  · simp only [nextRequest, nextHeader, headerAt, hcut, Nat.min_eq_right (Nat.le_of_lt h12), bind, Except.bind]
    by_cases h0 : k = 0
    · rw [if_pos h0, if_pos h0]
    · rw [if_neg h0, if_pos (by omega), if_neg h0, if_pos h12]
  · have hhdr := @nextHeader_message _ _ hdr payload fds ((cells (ByteValued.asSlice hdr ++ payload) fds).take k) hvalid
      (by rw [List.take_take, Nat.min_eq_left (by omega)])
    rw [if_neg (by omega), if_neg h12]
    simp only [nextRequest, hhdr, bind, Except.bind, hlen]
    obtain hc | hc := hc
    · rw [hc]
      dsimp only
      have hmax : lenOk payload.length = true := hok _ (hlen ▸ (VhostUserMsgHeader.isValid_iff.1 hvalid).2.1)
      rw [if_neg (by omega), if_neg (by simp [hmax])]
      have hshort := (takeChunk_initial payload.length (((cells (ByteValued.asSlice hdr ++ payload) fds).take k).drop 12)).length_le
      rw [List.length_drop, hcut] at hshort
      have hcap : ¬ (chunkFds (takeChunk payload.length
          (((cells (ByteValued.asSlice hdr ++ payload) fds).take k).drop 12))).length > 0 := by
        rw [chunkFds_takeChunk (by omega)]
        cases hd : ((cells (ByteValued.asSlice hdr ++ payload) fds).take k).drop 12 with
        | nil => simp [chunkFds]
        | cons c cs =>
          have hmem : c ∈ (cells (ByteValued.asSlice hdr ++ payload) fds).drop 12 := by
            rw [← List.take_append_drop k (cells (ByteValued.asSlice hdr ++ payload) fds), List.drop_append_of_le_length (by omega), hd]
            exact List.mem_append_left _ List.mem_cons_self
          rw [chunkFds, drop_cells_fds (by decide) c hmem]
          simp
      have hbuf : nextPayload truncErr payload.length
          (((cells (ByteValued.asSlice hdr ++ payload) fds).take k).drop 12) = .error .invalidMessage := by
        unfold nextPayload
        dsimp only
        rw [if_neg hcap, if_pos (by omega)]
      rw [hbuf]
    · rw [hc]

end Request

end VhostUser
