import VhostUser.Bounds
/-!
# Which requests reach the backend

`WellFormed` says of a request as it came off the socket that it is no reply and that its payload
and files are what the request carries. Most arms of `handle_request` insist on that before they
call the backend; some do not, each in its own way: `SET_BACKEND_REQ_FD` compares the length of the
payload with itself, `GPU_SET_SOCKET`, `CHECK_DEVICE_STATE`, `GET_SHMEM_CONFIG` and the postcopy
requests look at neither length nor flags, and `SET_VRING_CALL`, `_KICK` and `_ERR` take two or
more files for none, because `take_single_file` answers `None` to both. `Slack` is exactly what gets
through that way (`reaches_backend_wellFormed_iff`).
-/
namespace VhostUser
open Bytes EState

namespace BackendReqHandler

/-- The payload is one valid `T` and nothing else. -/
def FixedBody (T : Type) [ByteValued T] [VhostUserMsgValidator T] (buf : List UInt8) : Prop :=
  buf.length = ByteValued.size T ∧ VhostUserMsgValidator.isValid (ByteValued.fromSlice buf : T) = true

/-- What the payload of a request looks like; the last group is not served at all. -/
def Carries : FrontendReq → List UInt8 → Prop
  | .setOwner, buf | .resetOwner, buf | .resetDevice, buf | .getFeatures, buf
  | .getProtocolFeatures, buf | .getQueueNum, buf | .getMaxMemSlots, buf | .setBackendReqFd, buf
  | .gpuSetSocket, buf | .checkDeviceState, buf | .getShmemConfig, buf | .postcopyAdvise, buf
  | .postcopyListen, buf | .postcopyEnd, buf => buf.length = 0
  | .setFeatures, buf | .setProtocolFeatures, buf | .setVringCall, buf | .setVringKick, buf
  | .setVringErr, buf => FixedBody VhostUserU64 buf
  | .setVringNum, buf | .setVringBase, buf | .getVringBase, buf | .setVringEnable, buf =>
    FixedBody VhostUserVringState buf
  | .setVringAddr, buf => FixedBody VhostUserVringAddr buf
  | .getSharedObject, buf => FixedBody VhostUserSharedMsg buf
  | .getInflightFd, buf | .setInflightFd, buf => FixedBody VhostUserInflight buf
  | .addMemReg, buf | .remMemReg, buf => FixedBody VhostUserSingleMemoryRegion buf
  | .setDeviceStateFd, buf => FixedBody VhostUserTransferDeviceState buf
  | .setLogBase, buf => FixedBody VhostUserLog buf
  | .setMemTable, buf => MemTable buf (regionCount buf)
  | .getConfig, buf | .setConfig, buf => ConfigBody buf
  | .setLogFd, _ | .sendRarp, _ | .netSetMtu, _ | .iotlbMsg, _ | .setVringEndian, _
  | .createCryptoSession, _ | .closeCryptoSession, _ | .vringKick, _ | .setStatus, _
  | .getStatus, _ => False

/-- Bit 8 of the value: no file comes along. -/
def noFdFlag (buf : List UInt8) : Bool := (u64At 0 buf &&& 0x100) != 0

/-- How many files a request takes. -/
def filesTaken : FrontendReq → List UInt8 → Nat
  | .setMemTable, buf => regionCount buf
  | .setVringCall, buf | .setVringKick, buf | .setVringErr, buf => if noFdFlag buf then 0 else 1
  | .setLogBase, _ | .setBackendReqFd, _ | .setInflightFd, _ | .addMemReg, _ | .setDeviceStateFd, _
  | .gpuSetSocket, _ => 1
  | _, _ => 0

/-- No reply, the payload the request carries, the files it takes. -/
structure WellFormed (req : Request FrontendReq) : Prop where
  notReply : req.hdr.isReply = false
  payload : ∃ r, req.hdr.getCode = .ok r ∧ Carries r req.buf ∧
    (req.files.getD []).length = filesTaken r req.buf

/-- One file, a connected unix stream socket. -/
def OneSocket (p : Platform) (files : Option (List File)) : Prop :=
  ∃ f, takeSingleFile files = some f ∧ validateUnixStreamSocketFd p f = .ok ()

/-- A payload where none belongs, or a reply. -/
def Stray (req : Request FrontendReq) : Prop := req.size ≠ 0 ∨ req.hdr.isReply = true

/-- The ill-formed requests that the arm of `r` does not notice. -/
def SlackAt (p : Platform) (h : BackendReqHandler) (req : Request FrontendReq) : FrontendReq → Prop
  | .setBackendReqFd => h.ackedProtocolFeatures &&& VhostUserProtocolFeatures.BACKEND_REQ ≠ 0 ∧
      req.hdr.isReply = false ∧ OneSocket p req.files ∧ req.size ≠ 0
  | .gpuSetSocket => OneSocket p req.files ∧ Stray req
  | .checkDeviceState => Stray req
  | .getShmemConfig => h.ackedProtocolFeatures &&& VhostUserProtocolFeatures.SHMEM ≠ 0 ∧ Stray req
  | .postcopyAdvise | .postcopyListen | .postcopyEnd =>
      p.postcopy = true ∧ h.ackedProtocolFeatures &&& VhostUserProtocolFeatures.PAGEFAULT ≠ 0 ∧ Stray req
  | .setVringCall | .setVringKick | .setVringErr =>
      req.size = 8 ∧ req.hdr.isReply = false ∧ noFdFlag req.buf = true ∧ 2 ≤ (req.files.getD []).length
  | _ => False

/-- The request is ill formed in a way the handler does not notice. -/
def Slack (p : Platform) (h : BackendReqHandler) (req : Request FrontendReq) : Prop :=
  h.error = none ∧ ∃ r, req.hdr.getCode = .ok r ∧ SlackAt p h req r

/-! ## Inversion -/

theorem orStop_bind_ok {α γ : Type} {r : Except Error α} {f : α → Except Stop γ} {b : γ}
    (h : (orStop r >>= f) = .ok b) : ∃ a, r = .ok a ∧ f a = .ok b := by
  obtain ⟨a, ha, hf⟩ := except_bind_ok h
  exact ⟨a, orStop_ok ha, hf⟩

theorem checkProtoFeature_ok {h : BackendReqHandler} {feat : UInt64} :
    checkProtoFeature h feat = .ok () ↔ h.ackedProtocolFeatures &&& feat ≠ 0 := by
  unfold checkProtoFeature
  split
  · rename_i hf
    simp [hf]
  · rename_i hf
    simp only [reduceCtorEq, false_iff]
    exact hf

theorem takeSingleFile_some {files : Option (List File)} {f : File} (h : takeSingleFile files = some f) :
    files = some [f] := by
  unfold takeSingleFile at h
  split at h
  · cases h; rfl
  · cases h

theorem takeSingleFile_none {files : Option (List File)} :
    takeSingleFile files = none ↔ (files.getD []).length ≠ 1 := by
  obtain _ | (_ | ⟨f, _ | ⟨g, fs⟩⟩) := files
  · simp [takeSingleFile]
  · simp [takeSingleFile]
  · simp [takeSingleFile]
  · simp [takeSingleFile]

theorem extractBody_ok {T : Type} [ByteValued T] [VhostUserMsgValidator T]
    {hdr : VhostUserMsgHeader FrontendReq} {size : Nat} {buf : List UInt8} {msg : T} (hlen : buf.length = size)
    (h : extractBody T hdr size buf = .ok msg) :
    hdr.isReply = false ∧ FixedBody T buf ∧ msg = ByteValued.fromSlice buf := by
  obtain ⟨_, hcheck, h⟩ := orStop_bind_ok h
  obtain ⟨-, hreply, -, hsize⟩ := checkRequestSize_ok.1 hcheck
  rw [readAt_ok (by omega)] at h
  obtain ⟨m, hm, h⟩ := except_bind_ok h
  cases hm
  split at h
  · cases h
  · rename_i hvalid
    cases h
    exact ⟨hreply, ⟨by omega, by simpa using hvalid⟩, rfl⟩

/-- A request that takes no files comes without any. -/
theorem no_files {hdr : VhostUserMsgHeader FrontendReq} {files : Option (List File)} {r : FrontendReq}
    (hcode : hdr.getCode = .ok r) (hr : takesFiles r = false) (h : checkAttachedFiles hdr files = .ok ()) :
    (files.getD []).length = 0 := by
  simp only [checkAttachedFiles, hcode, hr, Bool.false_eq_true, if_false] at h
  cases files with
  | none => rfl
  | some fs => simp at h

/-- What a vring fd request must look like to get through. -/
theorem parseVringFd_ok {buf : List UInt8} {files : Option (List File)} {r : UInt8 × Option File}
    (h : parseVringFd buf files = .ok r) :
    8 ≤ buf.length ∧ (noFdFlag buf = true ↔ (files.getD []).length ≠ 1) := by
  unfold parseVringFd at h
  dsimp only at h
  split at h
  · cases h
  · rename_i hcheck
    have hlong : ByteValued.size VhostUserU64 ≤ buf.length := by
      simp only [Bool.or_eq_true, decide_eq_true_eq, not_or] at hcheck
      omega
    rw [readAt_ok hlong] at h
    obtain ⟨msg, hmsg, h⟩ := except_bind_ok h
    have hvalue : (u64At 0 buf) = msg.value := by cases hmsg; rfl
    refine ⟨hlong, ?_⟩
    rw [← takeSingleFile_none, noFdFlag, hvalue]
    split at h
    · cases h
    · split at h
      · cases h
      · rename_i hfd
        cases hf : takeSingleFile files with
        | none => simpa [hf] using hfd
        | some f => simpa [hf] using hfd

/-- A vring fd request that gets through is well formed, or has two files or more and says none. -/
theorem vringFd_ok {hdr : VhostUserMsgHeader FrontendReq} {size : Nat} {buf : List UInt8}
    {files : Option (List File)} {c : UInt8 → Option File → Call} {v : Call} (hlen : buf.length = size)
    (h : (do
      orStop (checkRequestSize hdr size (ByteValued.size VhostUserU64))
      let (index, file) ← parseVringFd buf files
      pure (.ok (c index file)) : Except Stop Verdict) = .ok (.ok v)) :
    hdr.isReply = false ∧ FixedBody VhostUserU64 buf ∧
      ((files.getD []).length = (if noFdFlag buf then 0 else 1) ∨
        noFdFlag buf = true ∧ 2 ≤ (files.getD []).length) := by
  obtain ⟨_, hcheck, h⟩ := orStop_bind_ok h
  obtain ⟨-, hreply, -, hsize⟩ := checkRequestSize_ok.1 hcheck
  obtain ⟨r, hr, -⟩ := except_bind_ok h
  obtain ⟨-, hflag⟩ := parseVringFd_ok hr
  refine ⟨hreply, ⟨by omega, rfl⟩, ?_⟩
  by_cases hset : noFdFlag buf = true
  · have hne := hflag.1 hset
    rw [if_pos hset]
    by_cases hmany : 2 ≤ (files.getD []).length
    · exact .inr ⟨hset, hmany⟩
    · exact .inl (by omega)
  · rw [if_neg hset]
    exact .inl (not_not.1 fun hne => hset (hflag.2 hne))

theorem parseSocket_ok {p : Platform} {files : Option (List File)} {c : File → Call} {v : Call}
    (h : parseSocket p files c = .ok v) : OneSocket p files ∧ (files.getD []).length = 1 := by
  unfold parseSocket at h
  cases hf : takeSingleFile files with
  | none => rw [hf] at h; cases h
  | some f =>
    rw [hf] at h
    dsimp only at h
    cases hs : validateUnixStreamSocketFd p f with
    | error e => rw [hs] at h; cases h
    | ok _ => exact ⟨⟨f, hf, hs⟩, by rw [takeSingleFile_some hf]; rfl⟩

/-- A parser that calls exactly for the payloads of a grammar has called for one of them. -/
theorem of_callsOf {v : Except Stop Verdict} {c c' : Call} {G : Prop} [Decidable G] (hv : v = .ok (.ok c))
    (h : callsOf v = if G then [c'] else []) : G := by
  by_cases hG : G
  · exact hG
  · rw [if_neg hG, hv] at h
    cases h

theorem stray_or (req : Request FrontendReq) : Stray req ∨ req.hdr.isReply = false ∧ req.size = 0 := by
  unfold Stray
  by_cases hsize : req.size = 0
  · cases req.hdr.isReply with
    | true => exact .inl (.inr rfl)
    | false => exact .inr ⟨rfl, hsize⟩
  · exact .inl (.inl hsize)

/-- Everything that gets through is well formed, apart from the slack. -/
theorem wellFormed_or_slack {p : Platform} {h : BackendReqHandler} {req : Request FrontendReq} {c : Call}
    (hreq : Delivered checkAttachedFiles req) (hc : parse p h req = .ok (.ok c)) :
    WellFormed req ∨ ∃ r, req.hdr.getCode = .ok r ∧ SlackAt p h req r := by
  have hlen := hreq.length_eq
  have hfiles := hreq.files_ok
  obtain ⟨hdr, size, buf, files⟩ := req
  dsimp only at hlen hfiles
  cases hcode : hdr.getCode with
  | error e => simp only [parse, hcode] at hc; cases hc
  | ok code =>
    cases code with
    | setOwner | resetOwner | getFeatures | getProtocolFeatures =>
      simp only [parse, hcode] at hc
      obtain ⟨_, hcheck, -⟩ := orStop_bind_ok hc
      obtain ⟨-, hreply, -, hsize⟩ := checkRequestSize_ok.1 hcheck
      exact .inl ⟨hreply, _, hcode, hlen.trans hsize, no_files hcode rfl hfiles⟩
    | resetDevice | getQueueNum | getMaxMemSlots =>
      simp only [parse, hcode] at hc
      obtain ⟨_, -, hc⟩ := orStop_bind_ok hc
      obtain ⟨_, hcheck, -⟩ := orStop_bind_ok hc
      obtain ⟨-, hreply, -, hsize⟩ := checkRequestSize_ok.1 hcheck
      exact .inl ⟨hreply, _, hcode, hlen.trans hsize, no_files hcode rfl hfiles⟩
    | setFeatures | setProtocolFeatures | setVringNum | setVringBase | getVringBase | setVringAddr
    | setVringEnable =>
      simp only [parse, hcode] at hc
      obtain ⟨msg, hbody, -⟩ := except_bind_ok hc
      obtain ⟨hreply, hfixed, -⟩ := extractBody_ok hlen hbody
      exact .inl ⟨hreply, _, hcode, hfixed, no_files hcode rfl hfiles⟩
    | setVringCall | setVringKick | setVringErr =>
      simp only [parse, hcode] at hc
      obtain ⟨hreply, hfixed, htaken | ⟨hset, hmany⟩⟩ := vringFd_ok hlen hc
      · exact .inl ⟨hreply, _, hcode, hfixed, htaken⟩
      · exact .inr ⟨_, rfl, hlen.symm.trans hfixed.1, hreply, hset, hmany⟩
    | setMemTable =>
      subst hlen
      simp only [parse, hcode] at hc
      cases hcheck : checkRequestSize hdr buf.length hdr.getSize.toNat with
      | error e => simp only [parseMemTable, hcheck] at hc; cases hc
      | ok _ =>
        have hgrammar := of_callsOf hc (callsOf_parseMemTable files hcheck)
        have hn := hgrammar.2.2.2.2.1
        rw [hn] at hgrammar
        exact .inl ⟨(checkRequestSize_ok.1 hcheck).2.1, _, hcode, hgrammar, hn⟩
    | getConfig =>
      simp only [parse, hcode] at hc
      obtain ⟨_, -, hc⟩ := orStop_bind_ok hc
      obtain ⟨_, hcheck, hc⟩ := orStop_bind_ok hc
      have hgrammar := of_callsOf hc (callsOf_parseGetConfig (hlen ▸ hreq.size_le))
      exact .inl ⟨(checkRequestSize_ok.1 hcheck).2.1, _, hcode, hgrammar, no_files hcode rfl hfiles⟩
    | setConfig =>
      subst hlen
      simp only [parse, hcode] at hc
      obtain ⟨_, -, hc⟩ := orStop_bind_ok hc
      obtain ⟨_, hcheck, hc⟩ := orStop_bind_ok hc
      have hgrammar := of_callsOf hc (callsOf_parseSetConfig hreq.size_le)
      exact .inl ⟨(checkRequestSize_ok.1 hcheck).2.1, _, hcode, hgrammar, no_files hcode rfl hfiles⟩
    | getInflightFd | remMemReg =>
      simp only [parse, hcode] at hc
      obtain ⟨_, -, hc⟩ := orStop_bind_ok hc
      obtain ⟨msg, hbody, -⟩ := except_bind_ok hc
      obtain ⟨hreply, hfixed, -⟩ := extractBody_ok hlen hbody
      exact .inl ⟨hreply, _, hcode, hfixed, no_files hcode rfl hfiles⟩
    | getSharedObject =>
      simp only [parse, hcode] at hc
      obtain ⟨_, -, hc⟩ := orStop_bind_ok hc
      obtain ⟨_, -, hc⟩ := orStop_bind_ok hc
      obtain ⟨msg, hbody, -⟩ := except_bind_ok hc
      obtain ⟨hreply, hfixed, -⟩ := extractBody_ok hlen hbody
      exact .inl ⟨hreply, _, hcode, hfixed, no_files hcode rfl hfiles⟩
    | setInflightFd | setLogBase =>
      simp only [parse, hcode] at hc
      obtain ⟨_, -, hc⟩ := orStop_bind_ok hc
      cases hf : takeSingleFile files with
      | none => rw [hf] at hc; cases hc
      | some f =>
        rw [hf] at hc
        obtain ⟨msg, hbody, -⟩ := except_bind_ok hc
        obtain ⟨hreply, hfixed, -⟩ := extractBody_ok hlen hbody
        exact .inl ⟨hreply, _, hcode, hfixed, by rw [takeSingleFile_some hf]; rfl⟩
    | setDeviceStateFd =>
      simp only [parse, hcode] at hc
      cases hf : takeSingleFile files with
      | none => rw [hf] at hc; cases hc
      | some f =>
        rw [hf] at hc
        obtain ⟨msg, hbody, -⟩ := except_bind_ok hc
        obtain ⟨hreply, hfixed, -⟩ := extractBody_ok hlen hbody
        exact .inl ⟨hreply, _, hcode, hfixed, by rw [takeSingleFile_some hf]; rfl⟩
    | addMemReg =>
      simp only [parse, hcode] at hc
      obtain ⟨_, -, hc⟩ := orStop_bind_ok hc
      cases files with
      | none => cases hc
      | some files =>
        dsimp only at hc
        split at hc
        · cases hc
        · rename_i hone
          obtain ⟨msg, hbody, -⟩ := except_bind_ok hc
          obtain ⟨hreply, hfixed, -⟩ := extractBody_ok hlen hbody
          exact .inl ⟨hreply, _, hcode, hfixed, not_not.1 hone⟩
    | setBackendReqFd =>
      simp only [parse, hcode] at hc
      obtain ⟨_, hfeature, hc⟩ := orStop_bind_ok hc
      obtain ⟨_, hcheck, hc⟩ := orStop_bind_ok hc
      obtain ⟨hsocket, hone⟩ := parseSocket_ok (Except.ok.inj hc)
      have hreply := (checkRequestSize_ok.1 hcheck).2.1
      by_cases hsize : size = 0
      · exact .inl ⟨hreply, _, hcode, hlen.trans hsize, hone⟩
      · exact .inr ⟨_, rfl, checkProtoFeature_ok.1 hfeature, hreply, hsocket, hsize⟩
    | gpuSetSocket =>
      simp only [parse, hcode] at hc
      obtain ⟨hsocket, hone⟩ := parseSocket_ok (Except.ok.inj hc)
      obtain hstray | ⟨hreply, hsize⟩ := stray_or ⟨hdr, size, buf, files⟩
      · exact .inr ⟨_, rfl, hsocket, hstray⟩
      · exact .inl ⟨hreply, _, hcode, hlen.trans hsize, hone⟩
    | checkDeviceState =>
      obtain hstray | ⟨hreply, hsize⟩ := stray_or ⟨hdr, size, buf, files⟩
      · exact .inr ⟨_, rfl, hstray⟩
      · exact .inl ⟨hreply, _, hcode, hlen.trans hsize, no_files hcode rfl hfiles⟩
    | getShmemConfig =>
      simp only [parse, hcode] at hc
      obtain ⟨_, hfeature, -⟩ := orStop_bind_ok hc
      obtain hstray | ⟨hreply, hsize⟩ := stray_or ⟨hdr, size, buf, files⟩
      · exact .inr ⟨_, rfl, checkProtoFeature_ok.1 hfeature, hstray⟩
      · exact .inl ⟨hreply, _, hcode, hlen.trans hsize, no_files hcode rfl hfiles⟩
    | postcopyAdvise | postcopyListen | postcopyEnd =>
      simp only [parse, hcode] at hc
      split at hc
      · cases hc
      · rename_i hpostcopy
        obtain ⟨_, hfeature, -⟩ := orStop_bind_ok hc
        obtain hstray | ⟨hreply, hsize⟩ := stray_or ⟨hdr, size, buf, files⟩
        · exact .inr ⟨_, rfl, by simpa using hpostcopy, checkProtoFeature_ok.1 hfeature, hstray⟩
        · exact .inl ⟨hreply, _, hcode, hlen.trans hsize, no_files hcode rfl hfiles⟩
    | _ => simp only [parse, hcode] at hc; cases hc

/-! ## The slack gets through -/

theorem newReplyHeader_ok {h : BackendReqHandler} {hdr : VhostUserMsgHeader FrontendReq} {r : FrontendReq}
    {n : Nat} (herr : h.error = none) (hcode : hdr.getCode = .ok r) (hn : n ≤ maxMsgSize) :
    newReplyHeader h hdr n 0 = .ok (.new r VhostUserHeaderFlag.REPLY (UInt32.ofNat n)) := by
  have hstate : checkState h = .ok () := by rw [checkState, herr]
  rw [newReplyHeader, if_neg (by simp; omega), hstate, hcode]
  rfl

theorem parseSocket_of_oneSocket {p : Platform} {files : Option (List File)} {c : File → Call}
    (h : OneSocket p files) : ∃ v, parseSocket p files c = .ok v := by
  obtain ⟨f, hf, hs⟩ := h
  refine ⟨c f, ?_⟩
  rw [parseSocket, hf]
  dsimp only
  rw [hs]

theorem parseVringFd_of_noFdFlag {buf : List UInt8} {files : Option (List File)} (hlen : buf.length = 8)
    (hset : noFdFlag buf = true) (hmany : 2 ≤ (files.getD []).length) :
    parseVringFd buf files = .ok ((u64At 0 buf).toUInt8, none) := by
  have hfile : takeSingleFile files = none := takeSingleFile_none.2 (by omega)
  have hsize : ByteValued.size VhostUserU64 = 8 := rfl
  have hbit : (u64At 0 buf &&& 0x100 == 0) = false := by
    rw [noFdFlag, bne_iff_ne] at hset
    exact beq_false_of_ne hset
  unfold parseVringFd
  dsimp only
  rw [if_neg (by simp [hlen, hsize, maxMsgSize]), readAt_ok (by omega), hfile]
  have hvalue : (ByteValued.fromSlice buf : VhostUserU64).value = u64At 0 buf := rfl
  simp only [bind, Except.bind, hvalue, hbit]
  rfl

/-- A stray payload or a reply is not well formed. -/
theorem not_wellFormed_of_stray {req : Request FrontendReq} {r : FrontendReq} (hlen : req.buf.length = req.size)
    (hcode : req.hdr.getCode = .ok r) (hempty : Carries r req.buf → req.buf.length = 0) (h : Stray req) :
    ¬WellFormed req := by
  rintro ⟨hreply, r', hcode', hcarries, -⟩
  cases hcode.symm.trans hcode'
  obtain hsize | hreply' := h
  · exact hsize (hlen ▸ hempty hcarries)
  · rw [hreply] at hreply'
    cases hreply'

theorem slack_reaches {p : Platform} {h : BackendReqHandler} {req : Request FrontendReq}
    (hreq : Delivered checkAttachedFiles req) (hs : Slack p h req) :
    (∃ c, parse p h req = .ok (.ok c)) ∧ ¬WellFormed req := by
  have hlen := hreq.length_eq
  have hversion := (VhostUserMsgHeader.isValid_iff.1 hreq.valid).2.2.1
  have hsize_eq := hreq.size_eq
  obtain ⟨herr, r, hcode, hslack⟩ := hs
  obtain ⟨hdr, size, buf, files⟩ := req
  dsimp only at hlen hversion hcode hsize_eq
  cases r with
  | setBackendReqFd =>
    obtain ⟨hfeature, hreply, hsocket, hsize⟩ := hslack
    obtain ⟨v, hv⟩ := @parseSocket_of_oneSocket p files .setBackendReqFd hsocket
    have hproto := checkProtoFeature_ok.2 hfeature
    have hcheck : checkRequestSize hdr size hdr.getSize.toNat = .ok () :=
      checkRequestSize_ok.2 ⟨rfl, hreply, hversion, hsize_eq⟩
    constructor
    · refine ⟨v, ?_⟩
      simp only [parse, hcode, hproto, hcheck, hv]
      rfl
    · exact not_wellFormed_of_stray hlen hcode id (.inl hsize)
  | gpuSetSocket =>
    obtain ⟨hsocket, hstray⟩ := hslack
    obtain ⟨v, hv⟩ := @parseSocket_of_oneSocket p files .setGpuSocket hsocket
    constructor
    · refine ⟨v, ?_⟩
      simp only [parse, hcode, hv]
      rfl
    · exact not_wellFormed_of_stray hlen hcode id hstray
  | checkDeviceState =>
    constructor
    · refine ⟨.checkDeviceState, ?_⟩
      simp only [parse, hcode]
      rfl
    · exact not_wellFormed_of_stray hlen hcode id hslack
  | getShmemConfig =>
    obtain ⟨hfeature, hstray⟩ := hslack
    have hproto := checkProtoFeature_ok.2 hfeature
    constructor
    · refine ⟨.getShmemConfig, ?_⟩
      simp only [parse, hcode, hproto]
      rfl
    · exact not_wellFormed_of_stray hlen hcode id hstray
  | postcopyAdvise =>
    obtain ⟨hpostcopy, hfeature, hstray⟩ := hslack
    have hproto := checkProtoFeature_ok.2 hfeature
    have hheader := @newReplyHeader_ok h hdr _ (ByteValued.size VhostUserEmpty) herr hcode (by decide)
    constructor
    · refine ⟨.postcopyAdvice, ?_⟩
      simp only [parse, hcode, hpostcopy, hproto, hheader]
      rfl
    · exact not_wellFormed_of_stray hlen hcode id hstray
  | postcopyListen | postcopyEnd =>
    obtain ⟨hpostcopy, hfeature, hstray⟩ := hslack
    have hproto := checkProtoFeature_ok.2 hfeature
    constructor
    · simp only [parse, hcode, hpostcopy, hproto]
      exact ⟨_, rfl⟩
    · exact not_wellFormed_of_stray hlen hcode id hstray
  | setVringCall | setVringKick | setVringErr =>
    obtain ⟨hsize, hreply, hset, hmany⟩ := hslack
    dsimp only at hsize hreply hset hmany
    have hcheck : checkRequestSize hdr size (ByteValued.size VhostUserU64) = .ok () :=
      checkRequestSize_ok.2 ⟨hsize_eq.symm.trans hsize, hreply, hversion, hsize⟩
    have hfd := parseVringFd_of_noFdFlag (hlen.trans hsize) hset hmany
    constructor
    · simp only [parse, hcode, hcheck, hfd]
      exact ⟨_, rfl⟩
    · rintro ⟨-, r', hcode', -, hfiles⟩
      cases hcode.symm.trans hcode'
      simp only [filesTaken, hset, if_true] at hfiles
      omega
  | _ => exact hslack.elim

/-! ## `handle_request` -/

section HandleRequest
variable {β τ : Type} (svc : Svc β τ)

/-- `handle_request` comes back having called the backend. -/
def Invokes (p : Platform) (x : Ctx BackendReqHandler β Call τ) (s : RxSock) : Prop :=
  ∃ r x' s', handleRequest svc p x s = .ret (r, x', s') ∧ x'.calls ≠ x.calls

/-- The outcome of `handle_request` on a request that was received in a healthy state. -/
theorem handleRequest_received {p : Platform} {x : Ctx BackendReqHandler β Call τ} {s s' : RxSock}
    {req : Request FrontendReq} (hstate : x.handler.error = none)
    (hrecv : recvRequest checkAttachedFiles (fun _ => true) s = .ret (.ok req, s')) :
    ∃ r, handleRequest svc p x s = .ret (r, final (dispatch svc p req x), s') := by
  have hcheck : checkState x.handler = .ok () := by rw [checkState, hstate]
  have hsafe := noPanic_dispatch svc p (recvRequest_delivered hrecv).length_eq x
  simp only [handleRequest, serve, hcheck, hrecv]
  cases hd : dispatch svc p req x with
  | ok a x' => exact ⟨.ok a, rfl⟩
  | error stop x' =>
    cases stop with
    | panic => exact absurd hd (hsafe x')
    | err e => exact ⟨.error e, rfl⟩

/-- `handle_request` stops before it has a request and does nothing, or dispatches it. -/
theorem handleRequest_cases {p : Platform} {x x' : Ctx BackendReqHandler β Call τ} {s s' : RxSock}
    {r : Except Error Unit} (h : handleRequest svc p x s = .ret (r, x', s')) :
    (x' = x ∧ ∃ e, r = .error e) ∨ ∃ req, recvRequest checkAttachedFiles (fun _ => true) s = .ret (.ok req, s') ∧
      (dispatch svc p req x = .ok () x' ∧ r = .ok () ∨
        ∃ e, dispatch svc p req x = .error (.err e) x' ∧ r = .error e) := by
  unfold handleRequest serve at h
  split at h
  · cases h
    exact .inl ⟨rfl, _, rfl⟩
  · split at h
    · cases h
    · cases h
    · cases h
      exact .inl ⟨rfl, _, rfl⟩
    · rename_i req s₁ hrecv
      split at h
      · rename_i hd
        cases h
        exact .inr ⟨req, hrecv, .inl ⟨hd, rfl⟩⟩
      · cases h
      · rename_i hd
        cases h
        exact .inr ⟨req, hrecv, .inr ⟨_, hd, rfl⟩⟩

/-- The backend is called exactly when the request parses to a call. -/
theorem invokes_iff {p : Platform} {x : Ctx BackendReqHandler β Call τ} {s s' : RxSock}
    {req : Request FrontendReq}
    (hrecv : recvRequest checkAttachedFiles (fun _ => true) s = .ret (.ok req, s')) :
    Invokes svc p x s ↔ x.handler.error = none ∧ ∃ c, parse p x.handler req = .ok (.ok c) := by
  cases herr : x.handler.error with
  | some e =>
    have hcheck : checkState x.handler = .error (.socketBroken (.errno e)) := by rw [checkState, herr]
    simp only [reduceCtorEq, false_and, iff_false]
    rintro ⟨r, x', s'', h, hne⟩
    simp only [handleRequest, serve, hcheck] at h
    cases h
    exact hne rfl
  | none =>
    obtain ⟨r, hr⟩ := @handleRequest_received β τ svc p x s s' req herr hrecv
    have hcalls := calls_dispatch svc p req x
    simp only [true_and]
    constructor
    · rintro ⟨r', x', s'', h, hne⟩
      rw [hr] at h
      cases h
      rw [hcalls] at hne
      rcases hv : parse p x.handler req with stop | e | c
      · rw [hv, callsOf_stop, List.append_nil] at hne
        exact absurd rfl hne
      · rw [hv, callsOf_refused, List.append_nil] at hne
        exact absurd rfl hne
      · exact ⟨c, rfl⟩
    · rintro ⟨c, hc⟩
      refine ⟨r, _, s', hr, ?_⟩
      rw [hcalls, hc, callsOf_call]
      simp

/-- **Only well-formed requests reach the backend, except for the slack**: for every message that
comes off the socket and every state of the handler. -/
theorem reaches_backend_wellFormed_iff (p : Platform) (x : Ctx BackendReqHandler β Call τ) (s s' : RxSock)
    (req : Request FrontendReq)
    (hrecv : recvRequest checkAttachedFiles (fun _ => true) s = .ret (.ok req, s')) :
    (Invokes svc p x s → WellFormed req) ↔ ¬Slack p x.handler req := by
  have hreq := recvRequest_delivered hrecv
  rw [invokes_iff svc hrecv]
  constructor
  · intro h hs
    obtain ⟨hcall, hnot⟩ := slack_reaches hreq hs
    exact hnot (h ⟨hs.1, hcall⟩)
  · rintro hs ⟨herr, c, hc⟩
    obtain hwf | hslack := wellFormed_or_slack hreq hc
    · exact hwf
    · exact absurd ⟨herr, hslack⟩ hs

end HandleRequest

/-- A header and the payload it announces, read in two receives. -/
def arrives (hdr : VhostUserMsgHeader FrontendReq) (payload : List UInt8) (fds : List File) : RxSock :=
  ⟨cells (ByteValued.asSlice hdr ++ payload) fds, [.bytes 12, .bytes payload.length], .EINTR⟩

/-- `CHECK_DEVICE_STATE` with eight bytes it does not carry: the backend is called. -/
theorem checkDeviceState_stray :
    ∃ s s' req, recvRequest checkAttachedFiles (fun _ => true) s = .ret (.ok req, s') ∧
      Invokes refusing ⟨false, fun _ _ => .ok 1⟩ freshCtx s ∧ ¬WellFormed req := by
  let req : Request FrontendReq := ⟨.new .checkDeviceState 0 8, 8, ByteValued.asSlice (⟨0⟩ : VhostUserU64), none⟩
  have hrecv : recvRequest checkAttachedFiles (fun _ => true) (arrives req.hdr req.buf []) =
      .ret (.ok req, ⟨[], [], .EINTR⟩) := by decide
  have hslack : Slack ⟨false, fun _ _ => .ok 1⟩ freshCtx.handler req :=
    ⟨rfl, .checkDeviceState, by decide, .inl (by decide)⟩
  obtain ⟨hcall, hnot⟩ := slack_reaches (recvRequest_delivered hrecv) hslack
  exact ⟨_, _, req, hrecv, (invokes_iff refusing hrecv).2 ⟨rfl, hcall⟩, hnot⟩

theorem getFeatures_reaches_wellFormed :
    Invokes refusing ⟨false, fun _ _ => .ok 1⟩ freshCtx (arrives (.new .getFeatures 0 0) [] []) ∧
      WellFormed ⟨.new .getFeatures 0 0, 0, [], none⟩ := by
  have hrecv : recvRequest checkAttachedFiles (fun _ => true) (arrives (.new .getFeatures 0 0) [] []) =
      .ret (.ok ⟨.new .getFeatures 0 0, 0, [], none⟩, ⟨[], [.bytes 0], .EINTR⟩) := by decide
  have hcall : Invokes refusing ⟨false, fun _ _ => .ok 1⟩ freshCtx (arrives (.new .getFeatures 0 0) [] []) :=
    (invokes_iff refusing hrecv).2 ⟨rfl, .getFeatures, rfl⟩
  refine ⟨hcall, (reaches_backend_wellFormed_iff refusing ⟨false, fun _ _ => .ok 1⟩ freshCtx
    (arrives (.new .getFeatures 0 0) [] []) ⟨[], [.bytes 0], .EINTR⟩ _ hrecv).2 ?_ hcall⟩
  rintro ⟨-, r, hcode, hslack⟩
  cases (show r = .getFeatures from by simpa using hcode.symm)
  exact hslack

end BackendReqHandler

end VhostUser
