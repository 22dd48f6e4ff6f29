import VhostUser.BackendReq
/-!
# Replies of another length

A reply says in its header how many bytes follow. The receiving helpers (`frontend.rs:799-886`,
`backend_req.rs:64-79`) read as many as the type they expect has and, one apart, do not look at what the
header says; a reply of another length is decoded from a piece of it, or from it and the beginning of the
next one, and every later receive is out of step.

| here | there |
| --- | --- |
| `Frame`     | a message: a header and exactly the bytes it announces |
| `stream`    | messages one after the other on the socket |
| `ReadsOne`  | if the helper returns `Ok`, it took one whole message of the size it expected |
| `Misfit`    | a first message of another size that gets through the helper's checks |

How the descriptors reach a receive that crosses messages is the kernel's business: `anc` stands for it.
-/
namespace VhostUser
open Bytes EState

/-! ## Streams of messages -/

/-- A header and as many bytes as it announces. -/
structure Frame (R : Type) [Req R] where
  hdr : VhostUserMsgHeader R
  payload : List UInt8
  fds : List File
  framed : payload.length = hdr.getSize.toNat

section Stream
variable {R : Type} [Req R]

def Frame.cells (f : Frame R) : List Cell := VhostUser.cells (ByteValued.asSlice f.hdr ++ f.payload) f.fds

def stream (fs : List (Frame R)) : List Cell := fs.flatMap Frame.cells

/-- A socket with `s` still to come before the other side closes it. A receive gets as much as it asks for,
or what there is. -/
def streamChannel (anc : Nat → List Cell → Option (List File)) : Channel (List Cell) where
  send _ _ s := (.ok (), s)
  recv n s := (.ok ((s.take n).map Cell.byte, anc n s), s.drop n)

/-- What is behind the header, as a `T`. -/
def bodyAt (T : Type) [ByteValued T] (s : List Cell) : T :=
  ByteValued.fromSlice (((s.take (12 + ByteValued.size T)).map Cell.byte).drop 12)

theorem Frame.length_cells (f : Frame R) : f.cells.length = 12 + f.hdr.getSize.toNat := by
  rw [Frame.cells, VhostUser.length_cells, List.length_append, ByteValued.length_asSlice,
    VhostUserMsgHeader.size_header, f.framed]

theorem stream_cons (f : Frame R) (fs : List (Frame R)) : stream (f :: fs) = f.cells ++ stream fs := rfl

/-- The header in front is that of the first message. -/
theorem header_stream (f : Frame R) (fs : List (Frame R)) {n : Nat} (hn : 12 ≤ n) :
    (ByteValued.fromSlice (((stream (f :: fs)).take n).map Cell.byte) : VhostUserMsgHeader R) = f.hdr := by
  have hbytes : (stream (f :: fs)).map Cell.byte =
      ByteValued.asSlice f.hdr ++ (f.payload ++ (stream fs).map Cell.byte) := by
    rw [stream_cons, List.map_append, Frame.cells, map_byte_cells, List.append_assoc]
  have hlen : (ByteValued.asSlice f.hdr).length = 12 := ByteValued.length_asSlice f.hdr
  rw [List.map_take, hbytes, List.take_append, List.take_of_length_le (hlen.trans_le hn),
    ByteValued.fromSlice_asSlice]

/-! ## One whole message -/

/-- If the call returns, it has taken the first message off the stream, and that announced `n` bytes. -/
def ReadsOne {σ α : Type} (sock : σ → List Cell) (n : Nat) (fs : List (Frame R)) (r : EStateM.Result Error σ α) : Prop :=
  ∀ a y, r = .ok a y → ∃ f rest, fs = f :: rest ∧ f.hdr.getSize.toNat = n ∧ sock y = stream rest

section Guard
variable {fs : List (Frame R)} {σ α : Type} {sock : σ → List Cell} {r : EStateM.Result Error σ α}

/-- A call that fails has promised nothing. -/
theorem readsOne_error {n : Nat} (h : ∃ e y, r = .error e y) : ReadsOne sock n fs r := by
  obtain ⟨e, y, rfl⟩ := h
  intro a y' hr
  cases hr

/-- The helper may give up before it reads. -/
theorem readsOne_guarded {ready : Prop} {n : Nat} {P : Prop} (hno : ¬ready → ∃ e y, r = .error e y)
    (hyes : ready → (ReadsOne sock n fs r ↔ ¬P)) : ReadsOne sock n fs r ↔ ¬(ready ∧ P) := by
  by_cases h : ready
  · rw [hyes h]
    simp [h]
  · have hone : ReadsOne sock n fs r := readsOne_error (hno h)
    simp [h, hone]

end Guard

/-- What the checks of a helper look at: the header is a valid reply to `req`, there are enough bytes, and
those after the header are a valid `T`; `accept` is what the helper asks of it and of the descriptors. -/
structure Taken (T : Type) [ByteValued T] [VhostUserMsgValidator T] [DecidableEq R]
    (anc : Nat → List Cell → Option (List File)) (req : VhostUserMsgHeader R)
    (accept : T → Option (List File) → Prop) (f : Frame R) (s : List Cell) : Prop where
  header : f.hdr.isValid = true
  reply : f.hdr.isReplyFor req = true
  enough : 12 + ByteValued.size T ≤ s.length
  body : VhostUserMsgValidator.isValid (bodyAt T s) = true
  accepted : accept (bodyAt T s) (anc (12 + ByteValued.size T) s)

/-- The first message passes the checks, and is not as long as the helper takes it to be. -/
def Misfit (T : Type) [ByteValued T] [VhostUserMsgValidator T] [DecidableEq R]
    (anc : Nat → List Cell → Option (List File)) (req : VhostUserMsgHeader R)
    (accept : T → Option (List File) → Prop) (fs : List (Frame R)) : Prop :=
  ∃ f rest, fs = f :: rest ∧ Taken T anc req accept f (stream fs) ∧ f.hdr.getSize.toNat ≠ ByteValued.size T

section Helper
variable {T : Type} [ByteValued T] [VhostUserMsgValidator T] [DecidableEq R]
  {anc : Nat → List Cell → Option (List File)} {req : VhostUserMsgHeader R}
  {accept : T → Option (List File) → Prop} {fs : List (Frame R)} {σ α : Type} {sock : σ → List Cell}
  {r : EStateM.Result Error σ α}

/-- A helper that takes `12 + size T` bytes and returns exactly when its checks pass reads one whole
message, unless that one is a misfit. -/
theorem readsOne_iff_not_misfit
    (hok : (∃ a y, r = .ok a y) ↔ ∃ f rest, fs = f :: rest ∧ Taken T anc req accept f (stream fs))
    (hsock : ∀ a y, r = .ok a y → sock y = (stream fs).drop (12 + ByteValued.size T)) :
    ReadsOne sock (ByteValued.size T) fs r ↔ ¬Misfit T anc req accept fs := by
  constructor
  · rintro hone ⟨f, rest, hfs, htaken, hne⟩
    obtain ⟨a, y, hr⟩ := hok.2 ⟨f, rest, hfs, htaken⟩
    obtain ⟨f', rest', hfs', hsize, -⟩ := hone a y hr
    rw [hfs] at hfs'
    cases hfs'
    exact hne hsize
  · intro hnot a y hr
    obtain ⟨f, rest, rfl, htaken⟩ := hok.1 ⟨a, y, hr⟩
    have hsize : f.hdr.getSize.toNat = ByteValued.size T := by
      by_contra hne
      exact hnot ⟨f, rest, rfl, htaken, hne⟩
    refine ⟨f, rest, rfl, hsize, ?_⟩
    rw [hsock a y hr, stream_cons, List.drop_left' (by rw [f.length_cells, hsize])]

end Helper

/-- A message that `recv_body::<T>()` takes off the front of the stream. -/
structure Readable (T : Type) [ByteValued T] [VhostUserMsgValidator T] (f : Frame R) (s : List Cell) : Prop where
  enough : 12 + ByteValued.size T ≤ s.length
  header : f.hdr.isValid = true
  body : VhostUserMsgValidator.isValid (bodyAt T s) = true

/-- The outcome of `recv_body::<T>()` on the stream. -/
structure ReceivesBody (T : Type) [ByteValued T] [VhostUserMsgValidator T] (anc : Nat → List Cell → Option (List File))
    {σ : Type} (sock : σ → List Cell) (fs : List (Frame R))
    (r : EStateM.Result Error σ (VhostUserMsgHeader R × T × Option (List File))) : Prop where
  read : ∀ f rest, fs = f :: rest → Readable T f (stream fs) → ∃ y,
    r = .ok (f.hdr, bodyAt T (stream fs), anc (12 + ByteValued.size T) (stream fs)) y ∧
      sock y = (stream fs).drop (12 + ByteValued.size T)
  failed : (¬∃ f rest, fs = f :: rest ∧ Readable T f (stream fs)) → ∃ e y, r = .error e y

/-- What a helper does after `recv_body`: it returns when the reply is to `req` and `accept` holds. -/
theorem readsOne_bind {T : Type} [ByteValued T] [VhostUserMsgValidator T] [DecidableEq R]
    {anc : Nat → List Cell → Option (List File)} {req : VhostUserMsgHeader R}
    {accept : T → Option (List File) → Prop} {fs : List (Frame R)} {σ α : Type} {sock : σ → List Cell} {x : σ}
    {recv : EStateM Error σ (VhostUserMsgHeader R × T × Option (List File))}
    {k : VhostUserMsgHeader R × T × Option (List File) → EStateM Error σ α}
    (hrecv : ReceivesBody T anc sock fs (recv x))
    (hk : ∀ hdr body files x', VhostUserMsgValidator.isValid body = true →
      ((∃ a y, k (hdr, body, files) x' = .ok a y) ↔ hdr.isReplyFor req = true ∧ accept body files))
    (hkeep : ∀ r, Keeps sock (k r)) :
    ReadsOne sock (ByteValued.size T) fs ((recv >>= k) x) ↔ ¬Misfit T anc req accept fs := by
  by_cases hread : ∃ f rest, fs = f :: rest ∧ Readable T f (stream fs)
  · obtain ⟨f, rest, rfl, hf⟩ := hread
    obtain ⟨x', hx', hsock⟩ := hrecv.read f rest rfl hf
    rw [bind_of_ok hx']
    refine readsOne_iff_not_misfit ?_ ?_
    · rw [hk _ _ _ _ hf.body]
      constructor
      · rintro ⟨hreply, haccept⟩
        exact ⟨f, rest, rfl, hf.header, hreply, hf.enough, hf.body, haccept⟩
      · rintro ⟨f', rest', heq, htaken⟩
        cases heq
        exact ⟨htaken.reply, htaken.accepted⟩
    · intro a y hr
      have hsame := hkeep (f.hdr, bodyAt T (stream (f :: rest)), anc (12 + ByteValued.size T) (stream (f :: rest))) x'
      rw [hr] at hsame
      exact hsame.trans hsock
  · obtain ⟨e, y, herr⟩ := hrecv.failed hread
    have hone : ReadsOne sock (ByteValued.size T) fs ((recv >>= k) x) := by
      refine readsOne_error ⟨e, y, ?_⟩
      rw [bind_apply, herr]
    refine iff_of_true hone ?_
    rintro ⟨f, rest, hfs, htaken, -⟩
    exact hread ⟨f, rest, hfs, htaken.enough, htaken.header, htaken.body⟩

/-- The bytes of a receive that does not meet the end. -/
theorem length_taken {s : List Cell} {n : Nat} : ((s.take n).map Cell.byte).length = n ↔ n ≤ s.length := by
  rw [List.length_map, List.length_take]
  omega

theorem ne_nil_of_enough {fs : List (Frame R)} {n : Nat} (h : 12 + n ≤ (stream fs).length) :
    ∃ f rest, fs = f :: rest := by
  cases fs with
  | nil =>
    have : (stream ([] : List (Frame R))).length = 0 := rfl
    omega
  | cons f rest => exact ⟨f, rest, rfl⟩

/-- The two checks of `recv_body`, on what comes off the stream. -/
theorem receives_of_checks {T : Type} [ByteValued T] [VhostUserMsgValidator T]
    {anc : Nat → List Cell → Option (List File)} {fs : List (Frame R)} {σ : Type} {sock : σ → List Cell} {y : σ}
    {bytes : List UInt8} (hbytes : bytes = ((stream fs).take (12 + ByteValued.size T)).map Cell.byte)
    (hy : sock y = (stream fs).drop (12 + ByteValued.size T)) :
    ReceivesBody T anc sock fs
      (if bytes.length ≠ 12 + ByteValued.size T then .error .partialMessage y
      else if (!(ByteValued.fromSlice bytes : VhostUserMsgHeader R).isValid ||
          !VhostUserMsgValidator.isValid (ByteValued.fromSlice (bytes.drop 12) : T)) = true then
        .error .invalidMessage y
      else .ok (ByteValued.fromSlice bytes, ByteValued.fromSlice (bytes.drop 12),
        anc (12 + ByteValued.size T) (stream fs)) y) := by
  have hlen : bytes.length = 12 + ByteValued.size T ↔ 12 + ByteValued.size T ≤ (stream fs).length := by
    rw [hbytes, length_taken]
  have hbody : (ByteValued.fromSlice (bytes.drop 12) : T) = bodyAt T (stream fs) := by rw [hbytes, bodyAt]
  constructor
  case read =>
    rintro f rest rfl hf
    have hhdr : (ByteValued.fromSlice bytes : VhostUserMsgHeader R) = f.hdr := by
      rw [hbytes, header_stream f rest (Nat.le_add_right 12 _)]
    refine ⟨y, ?_, hy⟩
    rw [if_neg (not_not.2 (hlen.2 hf.enough)), hhdr, hbody, if_neg (by simp [hf.header, hf.body])]
  case failed =>
    intro hnot
    by_cases henough : 12 + ByteValued.size T ≤ (stream fs).length
    · obtain ⟨f, rest, rfl⟩ := ne_nil_of_enough henough
      have hhdr : (ByteValued.fromSlice bytes : VhostUserMsgHeader R) = f.hdr := by
        rw [hbytes, header_stream f rest (Nat.le_add_right 12 _)]
      have hinvalid : (!f.hdr.isValid || !VhostUserMsgValidator.isValid (bodyAt T (stream (f :: rest)))) = true := by
        by_contra hvalid
        simp only [Bool.or_eq_true, Bool.not_eq_true', not_or, Bool.not_eq_false] at hvalid
        exact hnot ⟨f, rest, rfl, henough, hvalid.1, hvalid.2⟩
      rw [if_neg (not_not.2 (hlen.2 henough)), hhdr, hbody, if_pos hinvalid]
      exact ⟨_, _, rfl⟩
    · rw [if_pos fun h => henough (hlen.1 h)]
      exact ⟨_, _, rfl⟩

end Stream

/-! ## The frontend's helpers -/

namespace Frontend
variable {anc : Nat → List Cell → Option (List File)} {T : Type} [ByteValued T] [VhostUserMsgValidator T]
  {x : FrontendCtx (List Cell)} {fs : List (Frame FrontendReq)}

theorem recvBody_receives (hx : x.sock = stream fs) :
    ReceivesBody T anc FrontendCtx.sock fs (recvBody (streamChannel anc) T x) := by
  have hchecks := @receives_of_checks _ _ T _ _ anc fs _ FrontendCtx.sock
    { x with sock := (stream fs).drop (12 + ByteValued.size T) } _ rfl rfl
  refine Eq.mp (congrArg (ReceivesBody T anc FrontendCtx.sock fs) ?_) hchecks
  simp only [recvBody, VhostUserMsgHeader.size_header, bind_apply, recvBytes_apply, hx, streamChannel,
    orThrow_ok_apply]
  split
  · rfl
  · split
    · rfl
    · rfl

/-- A helper starts to read. -/
def Opens (T : Type) [ByteValued T] (node : FrontendInternal) (req : VhostUserMsgHeader FrontendReq) : Prop :=
  ByteValued.size T ≤ maxMsgSize ∧ req.isReply = false ∧ node.error = none

/-- The helpers that check their arguments and the state before they read. -/
theorem readsOne_opens {α : Type} {req : VhostUserMsgHeader FrontendReq} {accept : T → Option (List File) → Prop}
    {k : VhostUserMsgHeader FrontendReq × T × Option (List File) → M (List Cell) α} (hx : x.sock = stream fs)
    (hk : ∀ hdr body files x', VhostUserMsgValidator.isValid body = true →
      ((∃ a y, k (hdr, body, files) x' = .ok a y) ↔ hdr.isReplyFor req = true ∧ accept body files))
    (hkeep : ∀ r, Keeps FrontendCtx.sock (k r)) :
    ReadsOne FrontendCtx.sock (ByteValued.size T) fs ((do
        if ByteValued.size T > maxMsgSize || req.isReply then throw Error.invalidParam
        orThrow (checkState (← getNode))
        let r ← recvBody (streamChannel anc) T
        k r : M (List Cell) α) x) ↔
      ¬(Opens T x.node req ∧ Misfit T anc req accept fs) := by
  refine readsOne_guarded (fun hno => ?_) fun hready => ?_
  · split
    · exact ⟨_, _, rfl⟩
    · rename_i hcheck
      simp only [Bool.or_eq_true, decide_eq_true_eq, not_or, Bool.not_eq_true] at hcheck
      obtain ⟨e, hstate⟩ := checkState_broken fun herr => hno ⟨Nat.le_of_not_lt hcheck.1, hcheck.2, herr⟩
      dsimp only
      rw [bind_of_ok (getNode_apply x), hstate]
      exact ⟨_, _, rfl⟩
  · obtain ⟨hT, hreply, herr⟩ := hready
    have hstate : checkState x.node = .ok () := by rw [checkState, herr]
    rw [if_neg (by simp [hreply, hT])]
    dsimp only
    rw [bind_of_ok (getNode_apply x), hstate, bind_of_ok (orThrow_ok_apply _ x)]
    exact readsOne_bind (recvBody_receives hx) hk hkeep

theorem recvReply_readsOne_iff (hx : x.sock = stream fs) (req : VhostUserMsgHeader FrontendReq) :
    ReadsOne FrontendCtx.sock (ByteValued.size T) fs (recvReply (streamChannel anc) T req x) ↔
      ¬(Opens T x.node req ∧ Misfit T anc req (fun _ files => files = none) fs) := by
  unfold recvReply
  refine readsOne_opens hx ?_ ?_
  · intro hdr body files x' hbody
    refine returns_check.trans ?_
    simp [hbody, pure_apply]
  · intro r
    exact .check (.pure _)

theorem recvReplyWithOptionalFiles_readsOne_iff (hx : x.sock = stream fs) (req : VhostUserMsgHeader FrontendReq) :
    ReadsOne FrontendCtx.sock (ByteValued.size T) fs (recvReplyWithOptionalFiles (streamChannel anc) T req x) ↔
      ¬(Opens T x.node req ∧ Misfit T anc req (fun _ _ => True) fs) := by
  unfold recvReplyWithOptionalFiles
  refine readsOne_opens hx ?_ ?_
  · intro hdr body files x' hbody
    refine returns_check.trans ?_
    simp [hbody, pure_apply]
  · intro r
    exact .check (.pure _)

/-- `recv_reply_with_files` with its check next to the others. -/
theorem recvReplyWithFiles_eq (ch : Channel (List Cell)) (req : VhostUserMsgHeader FrontendReq) :
    recvReplyWithFiles ch T req = (do
      if ByteValued.size T > maxMsgSize || req.isReply then throw .invalidParam
      orThrow (checkState (← getNode))
      let (reply, body, files) ← recvBody ch T
      if !reply.isReplyFor req || !VhostUserMsgValidator.isValid body then throw .invalidMessage
      if files.isNone then throw .invalidMessage
      pure (body, files)) := by
  unfold recvReplyWithFiles recvReplyWithOptionalFiles
  split
  · rfl
  · simp only [bind_assoc]
    refine bind_congr fun node => bind_congr fun _ => bind_congr fun r => ?_
    split
    · rfl
    · rfl

theorem recvReplyWithFiles_readsOne_iff (hx : x.sock = stream fs) (req : VhostUserMsgHeader FrontendReq) :
    ReadsOne FrontendCtx.sock (ByteValued.size T) fs (recvReplyWithFiles (streamChannel anc) T req x) ↔
      ¬(Opens T x.node req ∧ Misfit T anc req (fun _ files => files.isSome = true) fs) := by
  rw [recvReplyWithFiles_eq]
  refine readsOne_opens hx ?_ ?_
  · intro hdr body files x' hbody
    refine returns_check.trans ?_
    rw [returns_check]
    simp [hbody, pure_apply, Option.isSome_iff_ne_none]
  · intro r
    exact .check (.check (.pure _))

/-- The acknowledgement is one that is waited for. -/
def Waits (node : FrontendInternal) (req : VhostUserMsgHeader FrontendReq) : Prop :=
  node.ackedProtocolFeatures &&& VhostUserProtocolFeatures.REPLY_ACK ≠ 0 ∧ req.isNeedReply = true

theorem waitForAck_readsOne_iff (hx : x.sock = stream fs) (req : VhostUserMsgHeader FrontendReq)
    (hwaits : Waits x.node req) :
    ReadsOne FrontendCtx.sock (ByteValued.size VhostUserU64) fs (waitForAck (streamChannel anc) req x) ↔
      ¬(x.node.error = none ∧
        Misfit VhostUserU64 anc req (fun body files => files = none ∧ body.value = 0) fs) := by
  have hcond : ((x.node.ackedProtocolFeatures &&& VhostUserProtocolFeatures.REPLY_ACK == 0) || !req.isNeedReply) =
      false := by
    simp [hwaits.1, hwaits.2]
  unfold waitForAck
  rw [bind_of_ok (getNode_apply x), if_neg (by rw [hcond]; exact Bool.false_ne_true)]
  refine readsOne_guarded (fun hno => ?_) fun hready => ?_
  · obtain ⟨e, hstate⟩ := checkState_broken hno
    rw [hstate]
    exact ⟨_, _, rfl⟩
  · have hstate : checkState x.node = .ok () := by rw [checkState, hready]
    rw [hstate, bind_of_ok (orThrow_ok_apply _ x)]
    refine readsOne_bind (recvBody_receives hx) ?_ ?_
    · intro hdr body files x' hbody
      refine returns_check.trans ?_
      by_cases hvalue : body.value = 0
      · simp [hbody, hvalue, pure_apply]
      · simp [hvalue, throw_apply]
    · intro r
      exact .check (.ite (.throw _) (.pure _))

/-- Where no acknowledgement is asked for, nothing is read. -/
theorem waitForAck_of_not_waits {req : VhostUserMsgHeader FrontendReq} (h : ¬Waits x.node req) :
    waitForAck (streamChannel anc) req x = .ok () x := by
  have hcond : ((x.node.ackedProtocolFeatures &&& VhostUserProtocolFeatures.REPLY_ACK == 0) || !req.isNeedReply) =
      true := by
    by_contra hc
    simp only [Bool.or_eq_true, beq_iff_eq, Bool.not_eq_true', not_or, Bool.not_eq_false] at hc
    exact h hc
  unfold waitForAck
  rw [bind_of_ok (getNode_apply x), if_pos hcond, pure_apply]

/-- What a receive with a payload of `n` bytes gets when it comes back. -/
theorem recvPayloadIntoBuf_ok (hx : x.sock = stream fs) {n bytes : Nat} {hdr : VhostUserMsgHeader FrontendReq}
    {body : T} {buf : List UInt8} {files : Option (List File)} {y : FrontendCtx (List Cell)}
    (h : recvPayloadIntoBuf (streamChannel anc) T n x = .ok (hdr, body, buf, bytes, files) y) :
    ∃ f rest, fs = f :: rest ∧ hdr = f.hdr ∧ buf.length = n ∧
      y.sock = (stream fs).drop (12 + ByteValued.size T + n) := by
  have hrecv : (streamChannel anc).recv (12 + ByteValued.size T + n) x.sock =
      (.ok (((stream fs).take (12 + ByteValued.size T + n)).map Cell.byte,
        anc (12 + ByteValued.size T + n) (stream fs)), (stream fs).drop (12 + ByteValued.size T + n)) := by
    rw [hx]
    rfl
  simp only [recvPayloadIntoBuf, VhostUserMsgHeader.size_header, bind_apply, recvBytes_apply, hrecv,
    orThrow_ok_apply] at h
  split at h
  · cases h
  · rename_i hlong
    rw [List.length_map, List.length_take] at hlong
    have henough : 12 + ByteValued.size T ≤ (stream fs).length := by omega
    obtain ⟨f, rest, rfl⟩ := ne_nil_of_enough henough
    rw [header_stream f rest (by omega)] at h
    split at h
    · cases h
    · cases h
      refine ⟨f, rest, rfl, rfl, ?_, rfl⟩
      rw [Scatter.length_overwrite, List.length_replicate]
      simp only [List.length_drop, List.length_map, List.length_take, List.length_replicate]
      omega

/-- The one helper that compares the header with what it read. -/
theorem recvReplyWithPayload_readsOne (hx : x.sock = stream fs) (req : VhostUserMsgHeader FrontendReq) :
    ReadsOne FrontendCtx.sock req.getSize.toNat fs (recvReplyWithPayload (streamChannel anc) T req x) := by
  intro a y h
  unfold recvReplyWithPayload at h
  split at h
  · cases h
  · rename_i hargs
    simp only [Bool.or_eq_true, decide_eq_true_eq, not_or] at hargs
    obtain ⟨node, x₁, hnode, hrest⟩ := bind_eq_ok h
    cases hnode
    obtain ⟨_, x₂, hstate, hbody⟩ := bind_eq_ok hrest
    have hx₂ : x₂ = x := by
      cases hc : checkState x.node with
      | ok u =>
        rw [hc, orThrow_ok_apply] at hstate
        cases hstate
        rfl
      | error e =>
        rw [hc, orThrow_error_apply] at hstate
        cases hstate
    subst hx₂
    obtain ⟨⟨reply, body, buf, bytes, files⟩, x₃, hrecv, hreply⟩ := bind_eq_ok hbody
    obtain ⟨f, rest, rfl, rfl, hbuf, hsock⟩ := recvPayloadIntoBuf_ok hx hrecv
    dsimp only at hreply
    split at hreply
    · cases hreply
    · rename_i hcheck
      cases hreply
      simp only [Bool.or_eq_true, decide_eq_true_eq, not_or, ne_eq, not_not] at hcheck
      have hsize : f.hdr.getSize.toNat = req.getSize.toNat := by
        have := hcheck.1.1.1.2
        have := hcheck.2
        omega
      refine ⟨f, rest, rfl, hsize, ?_⟩
      rw [hsock, stream_cons, List.drop_left']
      rw [f.length_cells, hsize]
      omega

end Frontend

/-! ## The proxy's helper -/

namespace Backend
variable {anc : Nat → List Cell → Option (List File)} {T : Type} [ByteValued T] [VhostUserMsgValidator T]
  {x : BackendCtx (List Cell)} {fs : List (Frame BackendReq)}

theorem recvBody_receives (hx : x.sock = stream fs) :
    ReceivesBody T anc BackendCtx.sock fs (recvBody (streamChannel anc) T x) := by
  have hchecks := @receives_of_checks _ _ T _ _ anc fs _ BackendCtx.sock
    { x with sock := (stream fs).drop (12 + ByteValued.size T) } _ rfl rfl
  refine Eq.mp (congrArg (ReceivesBody T anc BackendCtx.sock fs) ?_) hchecks
  simp only [recvBody, VhostUserMsgHeader.size_header, bind_apply, recvBytes_apply, hx, streamChannel,
    orThrow_ok_apply]
  split
  · rfl
  · split
    · rfl
    · rfl

theorem waitForAck_readsOne_iff (hx : x.sock = stream fs) (req : VhostUserMsgHeader BackendReq)
    (hwaits : x.node.replyAckNegotiated = true) :
    ReadsOne BackendCtx.sock (ByteValued.size VhostUserU64) fs (waitForAck (streamChannel anc) req x) ↔
      ¬(x.node.error = none ∧
        Misfit VhostUserU64 anc req (fun body files => files = none ∧ body.value = 0) fs) := by
  unfold waitForAck
  rw [bind_of_ok (getNode_apply x)]
  refine readsOne_guarded (fun hno => ?_) fun hready => ?_
  · obtain ⟨e, hstate⟩ := checkState_broken hno
    rw [hstate]
    exact ⟨_, _, rfl⟩
  · have hstate : checkState x.node = .ok () := by rw [checkState, hready]
    rw [hstate, bind_of_ok (orThrow_ok_apply _ x), hwaits]
    refine readsOne_bind (recvBody_receives hx) ?_ ?_
    · intro hdr body files x' hbody
      refine returns_check.trans ?_
      rw [returns_check]
      simp [hbody, pure_apply, and_assoc]
    · intro r
      exact .check (.check (.pure _))

/-- Where acknowledgements are not negotiated, nothing is read. -/
theorem waitForAck_of_not_negotiated {req : VhostUserMsgHeader BackendReq}
    (h : x.node.replyAckNegotiated = false) (herr : x.node.error = none) :
    waitForAck (streamChannel anc) req x = .ok 0 x := by
  have hstate : checkState x.node = .ok () := by rw [checkState, herr]
  unfold waitForAck
  rw [bind_of_ok (getNode_apply x), hstate, bind_of_ok (orThrow_ok_apply _ x), h]
  rfl

end Backend

/-! ## All of them -/

/-- A helper that returns has taken one whole message of the size it expected, exactly when the first message
of the stream is not one of another size that gets through the checks. The helper with a payload compares
the sizes itself; `wait_for_ack` takes nothing where there is nothing to wait for. -/
theorem receives_whole_reply_iff (T : Type) [ByteValued T] [VhostUserMsgValidator T]
    (anc : Nat → List Cell → Option (List File)) (node : FrontendInternal) (req : VhostUserMsgHeader FrontendReq)
    (fs : List (Frame FrontendReq)) (proxy : BackendInternal) (breq : VhostUserMsgHeader BackendReq)
    (gs : List (Frame BackendReq)) :
    (ReadsOne FrontendCtx.sock (ByteValued.size T) fs (Frontend.recvReply (streamChannel anc) T req ⟨node, stream fs⟩) ↔
      ¬(Frontend.Opens T node req ∧ Misfit T anc req (fun _ files => files = none) fs)) ∧
    (ReadsOne FrontendCtx.sock (ByteValued.size T) fs
        (Frontend.recvReplyWithOptionalFiles (streamChannel anc) T req ⟨node, stream fs⟩) ↔
      ¬(Frontend.Opens T node req ∧ Misfit T anc req (fun _ _ => True) fs)) ∧
    (ReadsOne FrontendCtx.sock (ByteValued.size T) fs
        (Frontend.recvReplyWithFiles (streamChannel anc) T req ⟨node, stream fs⟩) ↔
      ¬(Frontend.Opens T node req ∧ Misfit T anc req (fun _ files => files.isSome = true) fs)) ∧
    ReadsOne FrontendCtx.sock req.getSize.toNat fs
      (Frontend.recvReplyWithPayload (streamChannel anc) T req ⟨node, stream fs⟩) ∧
    (Frontend.Waits node req →
      (ReadsOne FrontendCtx.sock (ByteValued.size VhostUserU64) fs
          (Frontend.waitForAck (streamChannel anc) req ⟨node, stream fs⟩) ↔
        ¬(node.error = none ∧ Misfit VhostUserU64 anc req (fun body files => files = none ∧ body.value = 0) fs))) ∧
    (¬Frontend.Waits node req →
      Frontend.waitForAck (streamChannel anc) req ⟨node, stream fs⟩ = .ok () ⟨node, stream fs⟩) ∧
    (proxy.replyAckNegotiated = true →
      (ReadsOne BackendCtx.sock (ByteValued.size VhostUserU64) gs
          (Backend.waitForAck (streamChannel anc) breq ⟨proxy, stream gs⟩) ↔
        ¬(proxy.error = none ∧ Misfit VhostUserU64 anc breq (fun body files => files = none ∧ body.value = 0) gs))) ∧
    (proxy.replyAckNegotiated = false → proxy.error = none →
      Backend.waitForAck (streamChannel anc) breq ⟨proxy, stream gs⟩ = .ok 0 ⟨proxy, stream gs⟩) := by
  refine ⟨?_, ?_, ?_, ?_, ?_, ?_, ?_, ?_⟩
  · exact Frontend.recvReply_readsOne_iff rfl req
  · exact Frontend.recvReplyWithOptionalFiles_readsOne_iff rfl req
  · exact Frontend.recvReplyWithFiles_readsOne_iff rfl req
  · exact Frontend.recvReplyWithPayload_readsOne rfl req
  · intro hwaits
    exact Frontend.waitForAck_readsOne_iff rfl req hwaits
  · intro hnot
    exact Frontend.waitForAck_of_not_waits hnot
  · intro hwaits
    exact Backend.waitForAck_readsOne_iff rfl breq hwaits
  · intro hnot herr
    exact Backend.waitForAck_of_not_negotiated hnot herr

/-- A reply to GET_FEATURES that is twice as long as the features. -/
def longReply : Frame FrontendReq := ⟨.new .getFeatures VhostUserHeaderFlag.REPLY 16, List.replicate 16 1, [], rfl⟩

/-- The acknowledgement of SET_FEATURES. -/
def ackReply : Frame FrontendReq := ⟨.new .setFeatures VhostUserHeaderFlag.REPLY 8, List.replicate 8 0, [], rfl⟩

/-- A frontend with REPLY_ACK negotiated. -/
def ackingNode : FrontendInternal := { Frontend.new 1 with ackedProtocolFeatures := VhostUserProtocolFeatures.REPLY_ACK }

/-- GET_FEATURES answered with sixteen bytes: the first eight are the features, the others are left on the
stream, and no message starts with them. -/
theorem recvReply_reads_half :
    ¬ReadsOne FrontendCtx.sock (ByteValued.size VhostUserU64) [longReply]
      (Frontend.recvReply (streamChannel fun _ _ => none) VhostUserU64 (.new .getFeatures 0 0)
        ⟨Frontend.new 1, stream [longReply]⟩) := by
  intro h
  obtain ⟨f, rest, hfs, hsize, -⟩ := h _ _ rfl
  cases hfs
  exact absurd hsize (by decide)

/-- An acknowledgement of eight bytes is read whole. -/
theorem setFeatures_ack_read_whole :
    ReadsOne FrontendCtx.sock (ByteValued.size VhostUserU64) [ackReply]
      (Frontend.waitForAck (streamChannel fun _ _ => none) (.new .setFeatures VhostUserHeaderFlag.NEED_REPLY 8)
        ⟨ackingNode, stream [ackReply]⟩) := by
  have hack := (receives_whole_reply_iff VhostUserU64 (fun _ _ => none) ackingNode
    (.new .setFeatures VhostUserHeaderFlag.NEED_REPLY 8) [ackReply] Backend.new (.new .sharedObjectAdd 0 0) []).2.2.2.2.1
  refine (hack ⟨by decide, by decide⟩).2 ?_
  rintro ⟨-, f, rest, hfs, -, hne⟩
  cases hfs
  exact hne rfl

end VhostUser
