import VhostUser.BackendReqHandler
import VhostUser.FrontendReqHandler
import VhostUser.Transmission
/-!
# Does the decoding of a request depend on how the stream is cut?

`recvRequest` reads the header with the looping receiver, so its cut does not matter
(`recvHeader_front`); it reads the payload with one `recv_data`. `recvRequest_front` says what
comes out of it for every schedule; comparing it with the schedule that hands over the whole
message at once, the cut is harmless exactly when the first answer after the header carries the
whole payload (`PayloadAtOnce`), or no payload is read at all.
-/
namespace VhostUser
open Bytes

/-- The message one of the three senders of an endpoint has transmitted completely. -/
inductive Transmitted {R : Type} [Req R] (hdr : VhostUserMsgHeader R) (fds : List File) (tx : List Io) :
    List UInt8 → List Write → Prop
  | header {ws : List Write} : sendHeader hdr fds tx = .ret (.ok (), ws) → Transmitted hdr fds tx [] ws
  | message {T : Type} [ByteValued T] {body : T} {ws : List Write} :
    sendMessage hdr body fds tx = .ret (.ok (), ws) →
      Transmitted hdr fds tx (ByteValued.asSlice body) ws
  | payload {T : Type} [ByteValued T] {body : T} {payload : List UInt8} {ws : List Write} :
    sendMessageWithPayload hdr body payload fds tx = .ret (.ok (), ws) →
      Transmitted hdr fds tx (ByteValued.asSlice body ++ payload) ws

section Wire
variable {R : Type} [Req R] {hdr : VhostUserMsgHeader R} {fds : List File} {tx : List Io}
  {payload : List UInt8} {ws : List Write}

theorem asSlice_header_ne_nil (hdr : VhostUserMsgHeader R) : ByteValued.asSlice hdr ≠ [] := by
  intro h
  have hlen := congrArg List.length h
  simp at hlen

theorem Transmitted.stream (htx : ∀ r ∈ tx, r.Good) (h : Transmitted hdr fds tx payload ws) :
    ws.flatMap Write.cells = cells (ByteValued.asSlice hdr ++ payload) fds := by
  have hne := asSlice_header_ne_nil hdr
  cases h with
  | header hsend =>
    rw [checkSent_ok htx (by simp [hne]) hsend]
    simp
  | message hsend =>
    unfold sendMessage at hsend
    split at hsend
    · simp at hsend
    · rw [checkSent_ok htx (by simp [hne]) hsend]
      simp
  | payload hsend =>
    unfold sendMessageWithPayload at hsend
    split at hsend
    · simp at hsend
    split at hsend
    · simp at hsend
    split at hsend
    · simp at hsend
    rw [checkSent_ok htx (by simp [hne]) hsend]
    simp

end Wire

/-- The answers of a socket that has the whole message of `n` payload bytes at hand. -/
def wholeSched (n : Nat) : List Io := [.bytes (12 + n), .bytes (12 + n)]

/-- The first receive after the header returns the whole payload. -/
def PayloadAtOnce (n : Nat) (sched : List Io) : Prop :=
  ∃ k rest, afterBytes 12 sched = .bytes k :: rest ∧ n ≤ k

section Receive
variable {R : Type} [Req R]
  {check : VhostUserMsgHeader R → Option (List File) → Except Error Unit} {lenOk : Nat → Bool}
  {hdr : VhostUserMsgHeader R} {payload : List UInt8} {fds : List File} {rest : List Cell} {s : RxSock}

/-- One `recv_data` for the payload that is next on the stream. -/
theorem recvData_payload {k : Nat} {sched : List Io} (hpos : payload ≠ [])
    (hsched : s.sched = .bytes k :: sched)
    (hstream : s.stream = (cells (ByteValued.asSlice hdr ++ payload) fds).drop 12 ++ rest) :
    recvData s payload.length =
      .ret (.ok (min k payload.length, Scatter.overwrite (List.replicate payload.length 0) 0 (payload.take k)),
        { s with sched := sched, stream := s.stream.drop (min k payload.length) }) := by
  have hlen : 0 < payload.length := List.length_pos_iff.2 hpos
  have hsize : (ByteValued.asSlice hdr).length = 12 := ByteValued.length_asSlice hdr
  obtain rfl | hk := Nat.eq_zero_or_pos k
  · simp [recvData, recvWithFds, hsched, takeChunk, chunkFds, Outcome.map]
  generalize hm : min k payload.length = m
  obtain ⟨hchunk, hcfds⟩ := @takeChunk_message (ByteValued.asSlice hdr ++ payload) fds rest 12 m
    (by omega) (by rw [List.length_append, hsize]; omega)
  have hbytes : (((cells (ByteValued.asSlice hdr ++ payload) fds).drop 12).take m).map Cell.byte =
      payload.take k := by
    rw [List.map_take, List.map_drop, map_byte_cells, ← hsize, List.drop_left, List.take_eq_take_iff]
    omega
  have hcl : (((cells (ByteValued.asSlice hdr ++ payload) fds).drop 12).take m).length = m := by
    rw [List.length_take, List.length_drop, length_cells, List.length_append, hsize]; omega
  have hcap : ¬ (if (12 : Nat) = 0 then fds else []).length > 0 := by simp
  have htk : (payload.take k).length = m := by rw [List.length_take, hm]
  simp only [recvData, recvWithFds, hsched, hm, hstream, hchunk, hcfds, hcap, if_false, Outcome.map, hbytes,
    hcl, htk]

/-- A receive that is not left waiting has the header and stands before the payload. -/
theorem recvRequest_header (hvalid : hdr.isValid = true) (hfds : fds.length ≤ maxAttachedFdEntries)
    (hg : ∀ r ∈ s.sched, r.Good)
    (hstream : s.stream = cells (ByteValued.asSlice hdr ++ payload) fds ++ rest)
    (hwait : recvRequest check lenOk s ≠ .blocked) :
    ∃ s₁, recvHeader s = .ret (.ok (hdr, toFiles fds), s₁) ∧ s₁.sched = afterBytes 12 s.sched ∧
      s₁.stream = (cells (ByteValued.asSlice hdr ++ payload) fds).drop 12 ++ rest := by
  have hfront := recvHeader_front (H := VhostUserMsgHeader R) (by simp) hvalid hfds hg hstream
  have hsup : 12 ≤ supplies s.sched := by
    by_contra hlt
    apply hwait
    rw [recvRequest, hfront.waits (Nat.lt_of_not_le hlt)]
  obtain ⟨⟨_, s₁⟩, hhdr, rfl, hst, hsc⟩ := hfront.returns hsup
  exact ⟨s₁, hhdr, hsc, hst⟩

/-- With a payload announced and the files accepted, what is left is one `recv_data`. -/
theorem recvRequest_payload {s₁ : RxSock} (hlen : hdr.getSize.toNat = payload.length) (hp : payload ≠ [])
    (hvalid : hdr.isValid = true) (hok : ∀ n ≤ maxMsgSize, lenOk n = true)
    (hhdr : recvHeader s = .ret (.ok (hdr, toFiles fds), s₁)) (hc : check hdr (toFiles fds) = .ok ()) :
    recvRequest check lenOk s =
      (recvData s₁ payload.length).map (takePayload hdr (toFiles fds) payload.length) := by
  have hne : payload.length ≠ 0 := fun h => hp (List.length_eq_zero_iff.1 h)
  have hmax : lenOk payload.length = true :=
    hok _ (hlen ▸ (VhostUserMsgHeader.isValid_iff.1 hvalid).2.1)
  simp only [recvRequest, hhdr, hc, hlen, hne, if_false, hmax, Bool.not_true, Bool.false_eq_true]

/-- The one `recv_data` for the payload gives the payload when the socket's first answer carries all
of it, and an error otherwise. -/
theorem takePayload_front (hp : payload ≠ [])
    (hstream : s.stream = (cells (ByteValued.asSlice hdr ++ payload) fds).drop 12 ++ rest)
    (hwait : (recvData s payload.length).map (takePayload hdr (toFiles fds) payload.length) ≠ .blocked) :
    ∃ r s', (recvData s payload.length).map (takePayload hdr (toFiles fds) payload.length) = .ret (r, s') ∧
      ((∃ k l, s.sched = .bytes k :: l ∧ payload.length ≤ k) →
        r = .ok ⟨hdr, payload.length, payload, toFiles fds⟩ ∧ s'.stream = rest) ∧
      ((¬ ∃ k l, s.sched = .bytes k :: l ∧ payload.length ≤ k) → ∃ e, r = .error e) := by
  have hsize : (ByteValued.asSlice hdr).length = 12 := ByteValued.length_asSlice hdr
  have hleft : ((cells (ByteValued.asSlice hdr ++ payload) fds).drop 12).length = payload.length := by
    rw [List.length_drop, length_cells, List.length_append, hsize]
    omega
  cases hs : s.sched with
  | nil =>
    exfalso
    apply hwait
    simp only [recvData, recvWithFds, hs, Outcome.map]
  | cons io sched =>
    cases io with
    | errno e =>
      refine ⟨.error (Error.fromErrno e), { s with sched := sched }, ?_, fun h => ?_, fun _ => ⟨_, rfl⟩⟩
      · simp only [recvData, recvWithFds, hs, Outcome.map, takePayload]
      · obtain ⟨k, l, he, -⟩ := h
        cases he
    | bytes k =>
      rw [recvData_payload hp hs hstream]
      by_cases hle : payload.length ≤ k
      · have hmin : min k payload.length = payload.length := Nat.min_eq_right hle
        refine ⟨.ok ⟨hdr, payload.length, payload, toFiles fds⟩,
          { s with sched := sched, stream := s.stream.drop payload.length }, ?_, fun _ => ⟨rfl, ?_⟩,
          fun h => absurd ⟨k, sched, rfl, hle⟩ h⟩
        · simp [Outcome.map, takePayload, hmin, List.take_of_length_le hle, Scatter.overwrite]
        · rw [hstream, ← hleft, List.drop_left]
      · have hmin : min k payload.length ≠ payload.length := by omega
        refine ⟨.error .invalidMessage,
          { s with sched := sched, stream := s.stream.drop (min k payload.length) }, ?_, fun h => ?_,
          fun _ => ⟨_, rfl⟩⟩
        · simp only [Outcome.map, takePayload, hmin, ne_eq, not_false_eq_true, if_true]
        · obtain ⟨j, l, he, hj⟩ := h
          cases he
          exact absurd hj hle

/-- **What `handle_request` decodes** from a message in transit, for every schedule. -/
theorem recvRequest_front (hlen : hdr.getSize.toNat = payload.length) (hvalid : hdr.isValid = true)
    (hok : ∀ n ≤ maxMsgSize, lenOk n = true) (hfds : fds.length ≤ maxAttachedFdEntries)
    (hg : ∀ r ∈ s.sched, r.Good)
    (hstream : s.stream = cells (ByteValued.asSlice hdr ++ payload) fds ++ rest)
    (hwait : recvRequest check lenOk s ≠ .blocked) :
    ∃ r s', recvRequest check lenOk s = .ret (r, s') ∧
      (∀ e, check hdr (toFiles fds) = .error e →
        r = .error e ∧ s'.stream = (cells (ByteValued.asSlice hdr ++ payload) fds).drop 12 ++ rest) ∧
      (check hdr (toFiles fds) = .ok () → payload = [] ∨ PayloadAtOnce payload.length s.sched →
        r = .ok ⟨hdr, payload.length, payload, toFiles fds⟩ ∧ s'.stream = rest) ∧
      (check hdr (toFiles fds) = .ok () → ¬ (payload = [] ∨ PayloadAtOnce payload.length s.sched) →
        ∃ e, r = .error e) := by
  obtain ⟨s₁, hhdr, hsc, hst⟩ := recvRequest_header hvalid hfds hg hstream hwait
  cases hc : check hdr (toFiles fds) with
  | error e =>
    refine ⟨.error e, s₁, by simp only [recvRequest, hhdr, hc], fun e' he' => ?_, nofun, nofun⟩
    cases he'
    exact ⟨rfl, hst⟩
  | ok u =>
    by_cases hp : payload = []
    · refine ⟨.ok ⟨hdr, 0, [], toFiles fds⟩, s₁, ?_, nofun, fun _ _ => ⟨by simp [hp], ?_⟩,
        fun _ h => absurd (.inl hp) h⟩
      · simp only [recvRequest, hhdr, hc, hlen, hp, List.length_nil, if_true]
      · have hdone : (cells (ByteValued.asSlice hdr ++ payload) fds).drop 12 = [] :=
          List.drop_eq_nil_of_le (by rw [length_cells, hp]; simp)
        rw [hst, hdone, List.nil_append]
    · rw [recvRequest_payload hlen hp hvalid hok hhdr hc] at hwait ⊢
      obtain ⟨r, s', hrecv, hwhole, hcut⟩ := takePayload_front hp hst hwait
      rw [hsc] at hwhole hcut
      refine ⟨r, s', hrecv, nofun, fun _ h => hwhole (h.resolve_left hp), fun _ h => ?_⟩
      exact hcut fun honce => h (.inr honce)

/-- **A request that is handed over is the message on the stream**, on any schedule. -/
theorem recvRequest_filled {req : Request R} {s' : RxSock} (hlen : hdr.getSize.toNat = payload.length)
    (hfds : fds.length ≤ maxAttachedFdEntries)
    (hstream : s.stream = cells (ByteValued.asSlice hdr ++ payload) fds ++ rest)
    (hret : recvRequest check lenOk s = .ret (.ok req, s')) :
    req = ⟨hdr, payload.length, payload, toFiles fds⟩ ∧ s'.stream = rest := by
  unfold recvRequest at hret
  cases hr : (recvHeader s : Outcome (Except Error (VhostUserMsgHeader R × Option (List File)) × RxSock)) with
  | blocked => rw [hr] at hret; cases hret
  | panic => rw [hr] at hret; cases hret
  | ret r =>
    rw [hr] at hret
    obtain ⟨e | ⟨hdr', files⟩, s₁⟩ := r
    · cases hret
    · obtain ⟨rfl, rfl, hst⟩ := recvHeader_filled (by simp) hfds hstream hr
      dsimp only at hret
      split at hret
      · cases hret
      · split at hret
        · rename_i hzero
          obtain rfl : payload = [] := List.length_eq_zero_iff.1 (hlen ▸ hzero)
          cases hret
          refine ⟨rfl, ?_⟩
          rw [hst, List.drop_eq_nil_of_le (by rw [length_cells]; simp), List.nil_append]
        · rename_i hzero
          have hp : payload ≠ [] := by
            rintro rfl
            exact hzero hlen
          split at hret
          · cases hret
          · rw [hlen] at hret
            have hwait : (recvData s₁ payload.length).map (takePayload hdr' (toFiles fds) payload.length) ≠ .blocked := by
              rw [hret]
              simp
            obtain ⟨r, s₂, hr₂, hwhole, hcut⟩ := takePayload_front hp hst hwait
            rw [hret] at hr₂
            cases hr₂
            by_cases honce : ∃ k l, s₁.sched = .bytes k :: l ∧ payload.length ≤ k
            · obtain ⟨hreq, hrest⟩ := hwhole honce
              exact ⟨Except.ok.inj hreq, hrest⟩
            · obtain ⟨e, he⟩ := hcut honce
              cases he

/-- Where nothing was sent, nothing is handed over. -/
theorem recvRequest_empty {req : Request R} {s' : RxSock} (hstream : s.stream = []) :
    recvRequest check lenOk s ≠ .ret (.ok req, s') := by
  intro hret
  unfold recvRequest recvHeader at hret
  cases hr : recvMem s [ByteValued.asSlice (default : VhostUserMsgHeader R)] with
  | blocked => rw [hr] at hret; cases hret
  | panic => rw [hr] at hret; cases hret
  | ret r =>
    rw [hr] at hret
    obtain ⟨e | ⟨n, files⟩, s₁, mem⟩ := r
    · cases hret
    · obtain rfl : n = 0 := recvLoop_empty hstream hr
      cases hret

theorem wholeSched_good (n : Nat) : ∀ r ∈ wholeSched n, r.Good := by
  intro r hr
  simp only [wholeSched, List.mem_cons, List.not_mem_nil, or_false, or_self] at hr
  subst hr
  exact Nat.lt_of_lt_of_le (by decide) (Nat.le_add_right 12 n)

theorem payloadAtOnce_wholeSched (n : Nat) : PayloadAtOnce n (wholeSched n) := by
  refine ⟨12 + n, [], ?_, Nat.le_add_left n 12⟩
  have h : 12 - (12 + n) = 0 := by omega
  simp [wholeSched, afterBytes, h]

/-- The whole message at hand is never waited for. -/
theorem recvRequest_whole_ne_blocked (hlen : hdr.getSize.toNat = payload.length)
    (hvalid : hdr.isValid = true) (hok : ∀ n ≤ maxMsgSize, lenOk n = true)
    (hfds : fds.length ≤ maxAttachedFdEntries) (hs : s.sched = wholeSched payload.length)
    (hstream : s.stream = cells (ByteValued.asSlice hdr ++ payload) fds ++ rest) :
    recvRequest check lenOk s ≠ .blocked := by
  have hfront := recvHeader_front (H := VhostUserMsgHeader R) (by simp) hvalid hfds
    (hs ▸ wholeSched_good _) hstream
  obtain ⟨⟨_, s₁⟩, hhdr, rfl, -, hsc⟩ := hfront.returns (by simp [supplies, hs, wholeSched]; omega)
  obtain ⟨k, l, he, -⟩ := payloadAtOnce_wholeSched payload.length
  have hsc : s₁.sched = .bytes k :: l := hsc.trans (by rw [hs]; exact he)
  cases hc : check hdr (toFiles fds) with
  | error e => simp [recvRequest, hhdr, hc]
  | ok u =>
    by_cases hp : payload = []
    · have hzero : hdr.getSize.toNat = 0 := by rw [hlen, hp]; rfl
      simp [recvRequest, hhdr, hc, hzero]
    · rw [recvRequest_payload hlen hp hvalid hok hhdr hc]
      simp only [recvData, recvWithFds, hsc]
      split <;> simp [Outcome.map]

/-- A message that is at hand as a whole is decoded. -/
theorem recvRequest_whole (hlen : hdr.getSize.toNat = payload.length) (hvalid : hdr.isValid = true)
    (hok : ∀ n ≤ maxMsgSize, lenOk n = true) (hfds : fds.length ≤ maxAttachedFdEntries)
    (hs : s.sched = wholeSched payload.length)
    (hstream : s.stream = cells (ByteValued.asSlice hdr ++ payload) fds ++ rest)
    (hc : check hdr (toFiles fds) = .ok ()) :
    ∃ s', recvRequest check lenOk s = .ret (.ok ⟨hdr, payload.length, payload, toFiles fds⟩, s') ∧
      s'.stream = rest := by
  obtain ⟨r, s', hr, -, hgood, -⟩ := recvRequest_front hlen hvalid hok hfds (hs ▸ wholeSched_good _) hstream
    (recvRequest_whole_ne_blocked hlen hvalid hok hfds hs hstream)
  obtain ⟨rfl, hst⟩ := hgood hc (.inr (hs ▸ payloadAtOnce_wholeSched _))
  exact ⟨s', hr, hst⟩

end Receive

/-! ## The whole call -/

/-- What a call of `handle_request` decodes; `none` when the endpoint is in failed state and
nothing is read. -/
def decoded {η R : Type} (checkState : η → Except Error Unit)
    (recv : RxSock → Outcome (Except Error (Request R) × RxSock)) (h : η) (s : RxSock) :
    Outcome (Option (Except Error (Request R))) :=
  match checkState h with
  | .error _ => .ret none
  | .ok () => (recv s).map fun p => some p.1

/-- A complete, framed message with a valid header on its way to the receiver `s`. -/
structure Arriving {R : Type} [Req R] (hdr : VhostUserMsgHeader R) (payload : List UInt8) (fds : List File)
    (rest : List Cell) (s : RxSock) : Prop where
  valid : hdr.isValid = true
  framed : hdr.getSize.toNat = payload.length
  fds_le : fds.length ≤ maxAttachedFdEntries
  sent : ∃ tx ws, (∀ r ∈ tx, r.Good) ∧ Transmitted hdr fds tx payload ws ∧
    s.stream = ws.flatMap Write.cells ++ rest
  good : ∀ r ∈ s.sched, r.Good

theorem Arriving.stream_eq {R : Type} [Req R] {hdr : VhostUserMsgHeader R} {payload : List UInt8}
    {fds : List File} {rest : List Cell} {s : RxSock} (h : Arriving hdr payload fds rest s) :
    s.stream = cells (ByteValued.asSlice hdr ++ payload) fds ++ rest := by
  obtain ⟨tx, ws, htx, hsent, hst⟩ := h.sent
  rw [hst, hsent.stream htx]

section Serve
variable {η β κ τ α R : Type}
  (checkState : η → Except Error Unit)
  (recv : RxSock → Outcome (Except Error (Request R) × RxSock))
  (dispatch : Request R → Handling η β κ τ α)

/-- The call decodes, does and leaves on the stream what it does with the whole message at hand. -/
structure SameAsWhole (x : Ctx η β κ τ) (n : Nat) (s : RxSock) : Prop where
  decodes : decoded checkState recv x.handler s =
    decoded checkState recv x.handler { s with sched := wholeSched n }
  answers : (serve checkState recv dispatch x s).map (fun (r, x', s') => (r, x', s'.stream)) =
    (serve checkState recv dispatch x { s with sched := wholeSched n }).map
      (fun (r, x', s') => (r, x', s'.stream))

variable {checkState dispatch}

/-- Equal decodings that leave the same stream are followed by equal dispatches. -/
theorem serve_congr {x : Ctx η β κ τ} {s t s' t' : RxSock} {r : Except Error (Request R)}
    (hs : recv s = .ret (r, s')) (ht : recv t = .ret (r, t')) (hst : s'.stream = t'.stream)
    (hcs : checkState x.handler = .ok ()) :
    (serve checkState recv dispatch x s).map (fun (r, x', s') => (r, x', s'.stream)) =
      (serve checkState recv dispatch x t).map (fun (r, x', s') => (r, x', s'.stream)) := by
  simp only [serve, hcs, hs, ht]
  cases r with
  | error e => simp only [Outcome.map, hst]
  | ok req =>
    rcases hd : dispatch req x with ⟨a, x'⟩ | ⟨_ | e, x'⟩
    · simp only [hd, Outcome.map, hst]
    · simp only [hd, Outcome.map]
    · simp only [hd, Outcome.map, hst]

variable [Req R] {check : VhostUserMsgHeader R → Option (List File) → Except Error Unit}
  {lenOk : Nat → Bool} {hdr : VhostUserMsgHeader R} {payload : List UInt8} {fds : List File}
  {rest : List Cell} {s : RxSock} {x : Ctx η β κ τ}

/-- **The cut of the stream is harmless exactly when** nothing is read, the files are refused
before the payload, there is no payload, or the payload comes in one receive. -/
theorem sameAsWhole_iff (h : Arriving hdr payload fds rest s) (hok : ∀ n ≤ maxMsgSize, lenOk n = true)
    (hwait : decoded checkState (recvRequest check lenOk) x.handler s ≠ .blocked) :
    SameAsWhole checkState (recvRequest check lenOk) dispatch x payload.length s ↔
      (∃ e, checkState x.handler = .error e) ∨ (∃ e, check hdr (toFiles fds) = .error e) ∨
        payload = [] ∨ PayloadAtOnce payload.length s.sched := by
  cases hcs : checkState x.handler with
  | error e =>
    refine iff_of_true ⟨?_, ?_⟩ (.inl ⟨e, rfl⟩)
    · simp only [decoded, hcs]
    · simp only [serve, hcs, Outcome.map]
  | ok u =>
    have hwait' : recvRequest check lenOk s ≠ .blocked := by
      intro hb
      apply hwait
      simp only [decoded, hcs, hb, Outcome.map]
    obtain ⟨r, s', hr, herr, hgood, hbad⟩ := recvRequest_front h.framed h.valid hok h.fds_le h.good
      h.stream_eq hwait'
    obtain ⟨r₀, s₀, hr₀, herr₀, hgood₀, -⟩ := @recvRequest_front _ _ check lenOk hdr payload fds rest
      { s with sched := wholeSched payload.length } h.framed h.valid hok h.fds_le (wholeSched_good _)
      h.stream_eq
      (recvRequest_whole_ne_blocked h.framed h.valid hok h.fds_le rfl h.stream_eq)
    -- both sides decode `r₀` and leave the same bytes behind, or they decode differently
    have hsame (heq : r = r₀) (hst : s'.stream = s₀.stream) :
        SameAsWhole checkState (recvRequest check lenOk) dispatch x payload.length s := by
      refine ⟨?_, ?_⟩
      · simp only [decoded, hcs, hr, hr₀, Outcome.map, heq]
      · exact serve_congr _ hr (by rw [hr₀, heq]) hst hcs
    cases hc : check hdr (toFiles fds) with
    | error e =>
      obtain ⟨hre, hst⟩ := herr e hc
      obtain ⟨hre₀, hst₀⟩ := herr₀ e hc
      exact iff_of_true (hsame (hre.trans hre₀.symm) (hst.trans hst₀.symm)) (.inr (.inl ⟨e, rfl⟩))
    | ok u =>
      obtain ⟨hre₀, hst₀⟩ := hgood₀ hc (.inr (payloadAtOnce_wholeSched _))
      by_cases hcond : payload = [] ∨ PayloadAtOnce payload.length s.sched
      · obtain ⟨hre, hst⟩ := hgood hc hcond
        exact iff_of_true (hsame (hre.trans hre₀.symm) (hst.trans hst₀.symm)) (.inr (.inr hcond))
      · refine iff_of_false (fun hs => ?_) (by simp [hcond])
        obtain ⟨e, hre⟩ := hbad hc hcond
        have hd := hs.decodes
        simp only [decoded, hcs, hr, hr₀, Outcome.map, hre, hre₀] at hd
        cases hd

end Serve

/-- **Request decoding and the cut of the stream**, for both request handlers. -/
theorem handleRequest_cut_iff {β τ β' τ' : Type} (svc : BackendReqHandler.Svc β τ) (p : Platform)
    (svc' : FrontendReqHandler.Svc β' τ') {payload : List UInt8} {fds : List File} {rest : List Cell}
    {s : RxSock} :
    (∀ {hdr : VhostUserMsgHeader FrontendReq} {x : Ctx BackendReqHandler β Call τ},
      Arriving hdr payload fds rest s →
      decoded BackendReqHandler.checkState (recvRequest BackendReqHandler.checkAttachedFiles fun _ => true)
        x.handler s ≠ .blocked →
      (SameAsWhole BackendReqHandler.checkState
          (recvRequest BackendReqHandler.checkAttachedFiles fun _ => true)
          (BackendReqHandler.dispatch svc p) x payload.length s ↔
        (∃ e, BackendReqHandler.checkState x.handler = .error e) ∨
          (∃ e, BackendReqHandler.checkAttachedFiles hdr (toFiles fds) = .error e) ∨
          payload = [] ∨ PayloadAtOnce payload.length s.sched)) ∧
    (∀ {hdr : VhostUserMsgHeader BackendReq} {x : Ctx FrontendReqHandler β' FrontendCall τ'},
      Arriving hdr payload fds rest s →
      decoded FrontendReqHandler.checkState
        (recvRequest FrontendReqHandler.checkAttachedFiles fun len => decide (len ≤ maxMsgSize))
        x.handler s ≠ .blocked →
      (SameAsWhole FrontendReqHandler.checkState
          (recvRequest FrontendReqHandler.checkAttachedFiles fun len => decide (len ≤ maxMsgSize))
          (FrontendReqHandler.dispatch svc') x payload.length s ↔
        (∃ e, FrontendReqHandler.checkState x.handler = .error e) ∨
          (∃ e, FrontendReqHandler.checkAttachedFiles hdr (toFiles fds) = .error e) ∨
          payload = [] ∨ PayloadAtOnce payload.length s.sched)) := by
  refine ⟨fun h hwait => ?_, fun h hwait => ?_⟩
  · exact sameAsWhole_iff h (fun _ _ => rfl) hwait
  · exact sameAsWhole_iff h (fun n hn => by simpa using hn) hwait

/-! `SET_VRING_NUM` for ring 1, size 256, and a backend that accepts everything. -/

def vringNumHdr : VhostUserMsgHeader FrontendReq := VhostUserMsgHeader.new .setVringNum 0 8
def vringNumBody : VhostUserVringState := ⟨1, 256⟩

def vringNumSock (sched : List Io) : RxSock :=
  ⟨cells (ByteValued.asSlice vringNumHdr ++ ByteValued.asSlice vringNumBody) [], sched, .errno 105⟩

theorem arriving_vringNum {sched : List Io} (hg : ∀ r ∈ sched, r.Good) :
    Arriving vringNumHdr (ByteValued.asSlice vringNumBody) [] [] (vringNumSock sched) where
  valid := by decide
  framed := by decide
  fds_le := by decide
  sent := ⟨[.bytes 20], [⟨ByteValued.asSlice vringNumHdr ++ ByteValued.asSlice vringNumBody, []⟩],
    by decide, @Transmitted.message _ _ _ _ _ _ _ vringNumBody _ (by decide), by simp [vringNumSock, Write.cells]⟩
  good := hg

def idle : FrontendReqHandler.Svc Unit Unit where
  invoke _ b := (.ok 0, b)
  send _ _ t := (.ok (), t)

/-- The header in two pieces and the body in one: decoded as if it had come at once. -/
theorem handleRequest_cut_header :
    SameAsWhole BackendReqHandler.checkState (recvRequest BackendReqHandler.checkAttachedFiles fun _ => true)
      (BackendReqHandler.dispatch refusing ⟨false, fun _ _ => .ok 1⟩) freshCtx 8
      (vringNumSock [.bytes 5, .errno .EINTR, .bytes 7, .bytes 8]) :=
  ((handleRequest_cut_iff refusing ⟨false, fun _ _ => .ok 1⟩ idle).1 (arriving_vringNum (by decide))
    (by decide)).2 (.inr (.inr (.inr ⟨8, [], by decide, by decide⟩)))

/-- The body in two pieces: refused, although the same bytes at once are decoded. -/
theorem handleRequest_cut_body :
    Arriving vringNumHdr (ByteValued.asSlice vringNumBody) [] [] (vringNumSock [.bytes 12, .bytes 3, .bytes 5]) ∧
    decoded BackendReqHandler.checkState (recvRequest BackendReqHandler.checkAttachedFiles fun _ => true)
      BackendReqHandler.new (vringNumSock [.bytes 12, .bytes 3, .bytes 5]) =
      .ret (some (.error .invalidMessage)) ∧
    ¬ SameAsWhole BackendReqHandler.checkState
      (recvRequest BackendReqHandler.checkAttachedFiles fun _ => true)
      (BackendReqHandler.dispatch refusing ⟨false, fun _ _ => .ok 1⟩) freshCtx 8
      (vringNumSock [.bytes 12, .bytes 3, .bytes 5]) := by
  refine ⟨arriving_vringNum (by decide), by decide, fun h => ?_⟩
  exact absurd h.decodes (by decide)

end VhostUser
