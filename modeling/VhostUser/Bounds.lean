import VhostUser.Grammar
import VhostUser.FrontendReqHandler
import VhostUser.Transmission
/-!
# No message drives a request handler out of bounds

Whatever arrives, in whatever pieces: `recvRequest` hands over a request whose buffer is as long as
its header says (`Delivered`), or nothing; on such a request no read, slice, subtraction or index of
the two dispatchers leaves its range. The model has a `panic` at each of these places
(`readUnaligned`, `readRegions`, `usizeSub`, `firstFile`, the slice of `set_config`, the
`swap_remove(0)` of `ADD_MEM_REG`, the iovec arithmetic of `recv_into_iovec_all`).
-/
namespace VhostUser
open Bytes EState Scatter

/-! ## Receiving -/

theorem length_takeChunk_le (n : Nat) (stream : List Cell) : (takeChunk n stream).length ≤ n := by
  cases n with
  | zero => simp [takeChunk]
  | succ n =>
    cases stream with
    | nil => simp [takeChunk]
    | cons c cs =>
      have hwhile : ((cs.take n).takeWhile fun c => c.fds.isEmpty).length ≤ (cs.take n).length :=
        (List.takeWhile_sublist _).length_le
      have htake := List.length_take_le n cs
      simp only [takeChunk, List.length_cons]
      omega

/-- One receive brings at most what was asked for. -/
theorem recvWithFds_le {s s' : RxSock} {want cap : Nat} {bs : List UInt8} {fds : List File}
    (h : recvWithFds s want cap = .ret (.ok (bs, fds), s')) : bs.length ≤ want := by
  unfold recvWithFds at h
  split at h
  · cases h
  · cases h
  · rename_i n sched _
    have hlen := length_takeChunk_le (min n want) s.stream
    dsimp only at h
    split at h
    · cases h
    · simp only [Outcome.ret.injEq, Prod.mk.injEq, Except.ok.injEq] at h
      rw [← h.1.1, List.length_map]
      omega

/-- What one call of `recv_into_iovec` does to the loop's bookkeeping: it never reads past the end
of the buffers and does not change their lengths. -/
theorem recvIntoIovec_ok {s s' : RxSock} {mem mem' : Mem} {data : List IoVec} {n m : Nat}
    {fds : Option (List File)} (hn : n ≤ mem.flatten.length)
    (hsum : (data.map IoVec.len).sum = mem.flatten.length - n)
    (hfill : ∀ bs : List UInt8, n + bs.length ≤ mem.flatten.length →
      (fill mem data bs).map List.length = mem.map List.length ∧
        (fill mem data bs).flatten = overwrite mem.flatten n bs)
    (h : recvIntoIovec s mem data = .ret (.ok (m, fds), s', mem')) :
    n + m ≤ mem.flatten.length ∧ mem'.map List.length = mem.map List.length := by
  unfold recvIntoIovec at h
  cases hr : recvWithFds s (data.map IoVec.len).sum maxAttachedFdEntries with
  | blocked => rw [hr] at h; cases h
  | panic => rw [hr] at h; cases h
  | ret r =>
    rw [hr] at h
    obtain ⟨e | ⟨bs, fds'⟩, s₁⟩ := r
    · cases h
    · have hle := recvWithFds_le hr
      rw [hsum] at hle
      cases h
      exact ⟨by omega, (hfill bs (by omega)).1⟩

theorem recvIntoIovec_error {s s' : RxSock} {mem mem' : Mem} {data : List IoVec} {e : Error}
    (h : recvIntoIovec s mem data = .ret (.error e, s', mem')) : mem' = mem := by
  unfold recvIntoIovec at h
  cases hr : recvWithFds s (data.map IoVec.len).sum maxAttachedFdEntries with
  | blocked => rw [hr] at h; cases h
  | panic => rw [hr] at h; cases h
  | ret r =>
    rw [hr] at h
    obtain ⟨e' | ⟨bs, fds'⟩, s₁⟩ := r
    · cases h
      rfl
    · cases h

theorem recvWithFds_ne_panic (s : RxSock) (want cap : Nat) : recvWithFds s want cap ≠ .panic := by
  unfold recvWithFds
  split
  · simp
  · simp
  · dsimp only
    split
    · simp
    · simp

theorem Outcome.map_ne_panic {α β : Type} {f : α → β} {o : Outcome α} (h : o ≠ .panic) : o.map f ≠ .panic := by
  cases o with
  | blocked => simp [Outcome.map]
  | panic => exact absurd rfl h
  | ret a => simp [Outcome.map]

/-- **The receive loop stays inside its buffers**, on every schedule. -/
theorem recvLoop_ne_panic {mem₀ : Mem} (fuel n : Nat) (s : RxSock) (mem : Mem) (rfds : Option (List File))
    (hlens : mem.map List.length = mem₀.map List.length) (hn : n ≤ mem₀.flatten.length) :
    recvLoop (windows 0 mem₀) fuel s mem n rfds ≠ .panic := by
  induction fuel generalizing n s mem rfds with
  | zero => simp [recvLoop]
  | succ fuel ih =>
    have hflat : mem.flatten.length = mem₀.flatten.length := by
      rw [List.length_flatten, hlens, ← List.length_flatten]
    by_cases hend : n = mem₀.flatten.length
    · rw [recvLoop, recvHead_finished hend.symm]
      simp
    · obtain ⟨data, hhead, hsum, hfill⟩ := @recvHead_data mem n (by omega)
      rw [windows_congr mem mem₀ 0 hlens] at hhead
      rw [recvLoop, hhead]
      dsimp only
      cases hr : recvIntoIovec s mem data with
      | blocked => simp
      | panic => exact absurd hr (Outcome.map_ne_panic (recvWithFds_ne_panic _ _ _))
      | ret r =>
        obtain ⟨e | ⟨m, fds⟩, s', mem'⟩ := r
        · have hmem := recvIntoIovec_error hr
          dsimp only
          split
          · exact ih n s' mem' rfds (hmem ▸ hlens) hn
          · simp
        · obtain ⟨hle, hlens'⟩ := recvIntoIovec_ok (by omega) hsum hfill hr
          cases m with
          | zero => simp
          | succ m => exact ih _ s' mem' _ (hlens'.trans hlens) (by omega)

theorem recvMem_ne_panic (s : RxSock) (mem : Mem) : recvMem s mem ≠ .panic :=
  recvLoop_ne_panic _ 0 s mem none rfl (Nat.zero_le _)

theorem recvHeader_ne_panic {H : Type} [MsgHeader H] [Inhabited H] (s : RxSock) :
    recvHeader (H := H) s ≠ .panic := Outcome.map_ne_panic (recvMem_ne_panic _ _)

/-- A header is passed on only if it is valid. -/
theorem recvHeader_isValid {H : Type} [MsgHeader H] [Inhabited H] {s s' : RxSock} {hdr : H}
    {files : Option (List File)} (h : recvHeader s = .ret (.ok (hdr, files), s')) :
    VhostUserMsgValidator.isValid hdr = true := by
  unfold recvHeader at h
  cases hr : recvMem s [ByteValued.asSlice (default : H)] with
  | blocked => rw [hr] at h; cases h
  | panic => rw [hr] at h; cases h
  | ret r =>
    rw [hr] at h
    obtain ⟨e | ⟨bytes, fs⟩, s₁, mem⟩ := r
    · cases h
    · simp only [Outcome.map] at h
      split at h
      · cases h
      · split at h
        · cases h
        · split at h
          · cases h
          · rename_i hvalid
            cases h
            simpa using hvalid

theorem recvData_ne_panic (s : RxSock) (len : Nat) : recvData s len ≠ .panic :=
  Outcome.map_ne_panic (recvWithFds_ne_panic _ _ _)

/-- `recv_data` returns the whole buffer, however much of it was received. -/
theorem recvData_length {s s' : RxSock} {len n : Nat} {buf : List UInt8}
    (h : recvData s len = .ret (.ok (n, buf), s')) : buf.length = len := by
  unfold recvData at h
  cases hr : recvWithFds s len 0 with
  | blocked => rw [hr] at h; cases h
  | panic => rw [hr] at h; cases h
  | ret r =>
    rw [hr] at h
    obtain ⟨e | ⟨bs, fds⟩, s₁⟩ := r
    · cases h
    · have hle := recvWithFds_le hr
      cases h
      rw [length_overwrite (by simpa using hle), List.length_replicate]

/-- A request as it reaches a dispatcher: the header is valid, the buffer as long as the header says,
the files allowed. -/
structure Delivered {R : Type} [Req R]
    (checkAttachedFiles : VhostUserMsgHeader R → Option (List File) → Except Error Unit)
    (req : Request R) : Prop where
  valid : req.hdr.isValid = true
  size_eq : req.size = req.hdr.getSize.toNat
  length_eq : req.buf.length = req.size
  files_ok : checkAttachedFiles req.hdr req.files = .ok ()

theorem Delivered.size_le {R : Type} [Req R] {req : Request R}
    {checkAttachedFiles : VhostUserMsgHeader R → Option (List File) → Except Error Unit}
    (h : Delivered checkAttachedFiles req) : req.size ≤ maxMsgSize := by
  rw [h.size_eq]
  exact (VhostUserMsgHeader.isValid_iff.1 h.valid).2.1

section Receive
variable {R : Type} [Req R] {checkFiles : VhostUserMsgHeader R → Option (List File) → Except Error Unit}
  {lenOk : Nat → Bool}

theorem recvRequest_ne_panic (s : RxSock) : recvRequest checkFiles lenOk s ≠ .panic := by
  unfold recvRequest
  cases hr : (recvHeader s : Outcome (Except Error (VhostUserMsgHeader R × Option (List File)) × RxSock)) with
  | blocked => simp
  | panic => exact absurd hr (recvHeader_ne_panic s)
  | ret r =>
    obtain ⟨e | ⟨hdr, files⟩, s₁⟩ := r
    · simp
    · dsimp only
      split
      · simp
      · split
        · simp
        · split
          · simp
          · exact Outcome.map_ne_panic (recvData_ne_panic _ _)

theorem recvRequest_delivered {s s' : RxSock} {req : Request R}
    (h : recvRequest checkFiles lenOk s = .ret (.ok req, s')) : Delivered checkFiles req := by
  unfold recvRequest at h
  cases hr : (recvHeader s : Outcome (Except Error (VhostUserMsgHeader R × Option (List File)) × RxSock)) with
  | blocked => rw [hr] at h; cases h
  | panic => rw [hr] at h; cases h
  | ret r =>
    rw [hr] at h
    obtain ⟨e | ⟨hdr, files⟩, s₁⟩ := r
    · cases h
    · have hvalid : hdr.isValid = true := recvHeader_isValid hr
      dsimp only at h
      split at h
      · cases h
      · rename_i hfiles
        split at h
        · rename_i hzero
          cases h
          exact ⟨hvalid, hzero.symm, rfl, hfiles⟩
        · split at h
          · cases h
          · cases hd : recvData s₁ hdr.getSize.toNat with
            | blocked => rw [hd] at h; cases h
            | panic => rw [hd] at h; cases h
            | ret r =>
              rw [hd] at h
              obtain ⟨e | ⟨size2, rbuf⟩, s₂⟩ := r
              · cases h
              · have hlen := recvData_length hd
                simp only [Outcome.map, takePayload] at h
                split at h
                · cases h
                · rename_i heq
                  cases h
                  have heq : size2 = hdr.getSize.toNat := not_not.1 heq
                  exact ⟨hvalid, heq, hlen.trans heq.symm, hfiles⟩

end Receive

/-! ## The backend's dispatcher -/

/-- A decision that is not a panic. -/
def InBounds {α : Type} (y : Except Stop α) : Prop := y ≠ .error .panic

namespace InBounds
variable {α γ : Type}

theorem ok (a : α) : InBounds (.ok a) := by simp [InBounds]

theorem err (e : Error) : InBounds (.error (.err e) : Except Stop α) := by simp [InBounds]

theorem orStop (r : Except Error α) : InBounds (orStop r) := by
  cases r with
  | ok a => exact ok a
  | error e => exact err e

/-- The continuation may rely on what was checked before it. -/
theorem bind {y : Except Stop α} {f : α → Except Stop γ} (hy : InBounds y)
    (hf : ∀ a, y = .ok a → InBounds (f a)) : InBounds (y >>= f) := by
  cases y with
  | ok a => exact hf a rfl
  | error s =>
    intro h
    cases h
    exact hy rfl

theorem readAt {T : Type} [ByteValued T] {buf : List UInt8} (h : ByteValued.size T ≤ buf.length) :
    InBounds (readAt T buf) := by
  rw [VhostUser.readAt, if_pos h]
  exact ok _

end InBounds

namespace BackendReqHandler

theorem orStop_ok {α : Type} {r : Except Error α} {a : α} (h : orStop r = .ok a) : r = .ok a := by
  cases r with
  | ok a => cases h; rfl
  | error e => cases h

theorem inBounds_extractBody {T : Type} [ByteValued T] [VhostUserMsgValidator T]
    {hdr : VhostUserMsgHeader FrontendReq} {size : Nat} {buf : List UInt8} (hlen : buf.length = size) :
    InBounds (extractBody T hdr size buf) := by
  refine .bind (.orStop _) fun _ hok => ?_
  have hsize := (checkRequestSize_ok.1 (orStop_ok hok)).2.2.2
  refine .bind (.readAt (by omega)) fun msg _ => ?_
  split
  · exact .err _
  · exact .ok _

theorem inBounds_parseMemTable {hdr : VhostUserMsgHeader FrontendReq} {size : Nat} {buf : List UInt8}
    (files : Option (List File)) (hlen : buf.length = size) : InBounds (parseMemTable hdr size buf files) := by
  have hrec : ByteValued.size VhostUserMemoryRegion = 32 := rfl
  have hsize : ByteValued.size VhostUserMemory = 8 := rfl
  unfold parseMemTable
  split
  · exact .ok _
  · dsimp only
    split
    · exact .ok _
    · rename_i hshort
      refine .bind (.readAt (by omega)) fun msg _ => ?_
      split
      · exact .ok _
      · split
        · exact .ok _
        · rename_i hcount
          split
          · exact .ok _
          · split
            · exact .ok _
            · rw [hrec] at hcount
              have hrecords := @recordsAt_ok msg.numRegions.toNat 0 buf (by omega)
              refine .bind ?_ fun regions _ => ?_
              · rw [hsize]
                simp only [Nat.mul_zero, Nat.add_zero] at hrecords
                rw [hrecords]
                exact .ok _
              · split
                · exact .ok _
                · exact .ok _

theorem inBounds_parseGetConfig (buf : List UInt8) : InBounds (parseGetConfig buf) := by
  have hsize : ByteValued.size VhostUserConfig = 12 := rfl
  unfold parseGetConfig
  dsimp only
  split
  · exact .err _
  · rename_i hcheck
    have hlong : ByteValued.size VhostUserConfig ≤ buf.length := by
      simp only [Bool.or_eq_true, decide_eq_true_eq, not_or] at hcheck
      omega
    refine .bind (.readAt hlong) fun msg _ => ?_
    split
    · exact .err _
    · rw [subAt_ok hlong]
      refine .bind (.ok _) fun rest _ => ?_
      split
      · exact .err _
      · split
        · exact .err _
        · exact .ok _

theorem inBounds_parseSetConfig {size : Nat} {buf : List UInt8} (hlen : buf.length = size) :
    InBounds (parseSetConfig size buf) := by
  unfold parseSetConfig
  split
  · exact .ok _
  · rename_i hcheck
    have hlong : ByteValued.size VhostUserConfig ≤ buf.length := by
      simp only [Bool.or_eq_true, decide_eq_true_eq, not_or] at hcheck
      omega
    refine .bind (.readAt hlong) fun msg _ => ?_
    split
    · exact .ok _
    · rw [subAt_ok (by omega)]
      refine .bind (.ok _) fun rest _ => ?_
      split
      · exact .ok _
      · split
        · exact .ok _
        · exact .ok _

theorem inBounds_parseVringFd (buf : List UInt8) (files : Option (List File)) :
    InBounds (parseVringFd buf files) := by
  unfold parseVringFd
  dsimp only
  split
  · exact .err _
  · rename_i hcheck
    have hlong : ByteValued.size VhostUserU64 ≤ buf.length := by
      simp only [Bool.or_eq_true, decide_eq_true_eq, not_or] at hcheck
      omega
    refine .bind (.readAt hlong) fun msg _ => ?_
    split
    · exact .err _
    · split
      · exact .err _
      · exact .ok _

/-- No decision about a delivered request leaves its range. -/
theorem inBounds_parse (p : Platform) (h : BackendReqHandler) {req : Request FrontendReq}
    (hreq : req.buf.length = req.size) : InBounds (parse p h req) := by
  obtain ⟨hdr, size, buf, files⟩ := req
  cases hcode : hdr.getCode with
  | error e => simp only [parse, hcode]; exact .err _
  | ok code =>
    cases code with
    | setOwner | resetOwner | getFeatures | getProtocolFeatures =>
      simp only [parse, hcode]
      exact .bind (.orStop _) fun _ _ => .ok _
    | resetDevice | getQueueNum | getMaxMemSlots =>
      simp only [parse, hcode]
      exact .bind (.orStop _) fun _ _ => .bind (.orStop _) fun _ _ => .ok _
    | setFeatures | setProtocolFeatures | setVringNum | setVringBase | getVringBase =>
      simp only [parse, hcode]
      exact .bind (inBounds_extractBody hreq) fun _ _ => .ok _
    | setVringAddr =>
      simp only [parse, hcode]
      refine .bind (inBounds_extractBody hreq) fun msg _ => ?_
      split
      · exact .err _
      · exact .ok _
    | setVringCall | setVringKick | setVringErr =>
      simp only [parse, hcode]
      refine .bind (.orStop _) fun _ _ => ?_
      exact .bind (inBounds_parseVringFd buf files) fun _ _ => .ok _
    | setVringEnable =>
      simp only [parse, hcode]
      refine .bind (inBounds_extractBody hreq) fun msg _ => .bind (.orStop _) fun _ _ => ?_
      split
      · exact .ok _
      · split
        · exact .ok _
        · exact .err _
    | setMemTable =>
      simp only [parse, hcode]
      exact inBounds_parseMemTable files hreq
    | getConfig =>
      simp only [parse, hcode]
      exact .bind (.orStop _) fun _ _ => .bind (.orStop _) fun _ _ => inBounds_parseGetConfig buf
    | setConfig =>
      simp only [parse, hcode]
      exact .bind (.orStop _) fun _ _ => .bind (.orStop _) fun _ _ => inBounds_parseSetConfig hreq
    | setBackendReqFd =>
      simp only [parse, hcode]
      exact .bind (.orStop _) fun _ _ => .bind (.orStop _) fun _ _ => .ok _
    | gpuSetSocket | checkDeviceState =>
      simp only [parse, hcode]
      exact .ok _
    | getInflightFd | remMemReg =>
      simp only [parse, hcode]
      exact .bind (.orStop _) fun _ _ => .bind (inBounds_extractBody hreq) fun _ _ => .ok _
    | setInflightFd | setLogBase =>
      simp only [parse, hcode]
      refine .bind (.orStop _) fun _ _ => ?_
      split
      · exact .err _
      · exact .bind (inBounds_extractBody hreq) fun _ _ => .ok _
    | addMemReg =>
      simp only [parse, hcode]
      refine .bind (.orStop _) fun _ _ => ?_
      cases files with
      | none => exact .err _
      | some files =>
        dsimp only
        split
        · exact .err _
        · rename_i hone
          refine .bind (inBounds_extractBody hreq) fun _ _ => ?_
          cases files with
          | nil => simp at hone
          | cons file rest => exact .ok _
    | getSharedObject =>
      simp only [parse, hcode]
      refine .bind (.orStop _) fun _ _ => .bind (.orStop _) fun _ _ => ?_
      exact .bind (inBounds_extractBody hreq) fun _ _ => .bind (.orStop _) fun _ _ => .ok _
    | setDeviceStateFd =>
      simp only [parse, hcode]
      split
      · exact .err _
      · refine .bind (inBounds_extractBody hreq) fun msg _ => .bind (.orStop _) fun _ _ => ?_
        split
        · exact .ok _
        · exact .err _
    | getShmemConfig =>
      simp only [parse, hcode]
      exact .bind (.orStop _) fun _ _ => .ok _
    | postcopyAdvise =>
      simp only [parse, hcode]
      split
      · exact .err _
      · exact .bind (.orStop _) fun _ _ => .bind (.orStop _) fun _ _ => .ok _
    | postcopyListen | postcopyEnd =>
      simp only [parse, hcode]
      split
      · exact .err _
      · exact .bind (.orStop _) fun _ _ => .ok _
    | _ =>
      simp only [parse, hcode]
      exact .err _

variable {β τ : Type} (svc : Svc β τ)

theorem noPanic_perform (hdr : VhostUserMsgHeader FrontendReq) {v : Except Stop Verdict} (hv : InBounds v) :
    NoPanic (perform svc hdr v) := by
  obtain s | e | c := v
  · intro x x' h
    cases s with
    | panic => exact hv rfl
    | err e => cases h
  · exact (rules_noPanic svc).sendAckMessage hdr (.error e)
  · exact .bind (fun x x' h => by simp at h) fun res => noPanic_answer svc hdr c res

theorem noPanic_dispatch (p : Platform) {req : Request FrontendReq} (hreq : req.buf.length = req.size) :
    NoPanic (dispatch svc p req) := by
  intro x x' h
  rw [dispatch_eq] at h
  exact noPanic_perform svc req.hdr (inBounds_parse p x.handler hreq) x x' h

end BackendReqHandler

/-! ## The frontend's dispatcher -/

namespace FrontendReqHandler

theorem checkMsgSize_ok {hdr : VhostUserMsgHeader BackendReq} {size expected : Nat}
    (h : checkMsgSize hdr size expected = .ok ()) : size = expected := by
  unfold checkMsgSize at h
  split at h
  · cases h
  · rename_i hcheck
    simp only [Bool.or_eq_true, decide_eq_true_eq, not_or, not_not, ne_eq] at hcheck
    exact hcheck.2

theorem inBounds_extractBody {T : Type} [ByteValued T] [VhostUserMsgValidator T]
    {hdr : VhostUserMsgHeader BackendReq} {size : Nat} {buf : List UInt8} (hlen : buf.length = size) :
    InBounds (extractBody T hdr size buf) := by
  refine .bind (.orStop _) fun _ hok => ?_
  have hsize := checkMsgSize_ok (BackendReqHandler.orStop_ok hok)
  refine .bind (.readAt (by omega)) fun msg _ => ?_
  split
  · exact .err _
  · exact .ok _

/-- `check_attached_files` lets a request through to `files.unwrap()[0]` only with a file. -/
theorem inBounds_fileAt {hdr : VhostUserMsgHeader BackendReq} {files : Option (List File)}
    (hcode : hdr.getCode = .ok .sharedObjectLookup ∨ hdr.getCode = .ok .shmemMap)
    (h : checkAttachedFiles hdr files = .ok ()) : InBounds (fileAt files) := by
  have hfiles : ∃ f, files = some [f] := by
    obtain hc | hc := hcode <;>
    · simp only [checkAttachedFiles, hc] at h
      cases files with
      | none => cases h
      | some files =>
        dsimp only at h
        split at h
        · rename_i hone
          obtain ⟨f, rfl⟩ := List.length_eq_one_iff.1 hone
          exact ⟨f, rfl⟩
        · cases h
  obtain ⟨f, rfl⟩ := hfiles
  exact .ok f

theorem inBounds_parse {req : Request BackendReq} (hreq : Delivered checkAttachedFiles req) :
    InBounds (parse req) := by
  have hlen := hreq.length_eq
  have hfiles := hreq.files_ok
  obtain ⟨hdr, size, buf, files⟩ := req
  cases hcode : hdr.getCode with
  | error e => simp only [parse, hcode]; exact .ok _
  | ok code =>
    cases code with
    | configChangeMsg =>
      simp only [parse, hcode]
      exact .bind (.orStop _) fun _ _ => .ok _
    | sharedObjectAdd | sharedObjectRemove | shmemUnmap =>
      simp only [parse, hcode]
      exact .bind (inBounds_extractBody hlen) fun _ _ => .ok _
    | sharedObjectLookup =>
      simp only [parse, hcode]
      refine .bind (inBounds_extractBody hlen) fun _ _ => ?_
      exact .bind (inBounds_fileAt (.inl hcode) hfiles) fun _ _ => .ok _
    | shmemMap =>
      simp only [parse, hcode]
      refine .bind (inBounds_extractBody hlen) fun _ _ => ?_
      exact .bind (inBounds_fileAt (.inr hcode) hfiles) fun _ _ => .ok _
    | _ =>
      simp only [parse, hcode]
      exact .ok _

variable {β τ : Type} (svc : Svc β τ)

theorem noPanic_finish (hdr : VhostUserMsgHeader BackendReq) (res : Except Error UInt64) :
    NoPanic (finish svc hdr res) := by
  refine .bind (.bind (fun x x' h => by simp at h) fun h => ?_) fun _ => noPanic_orFail res
  split
  · exact .bind (noPanic_orFail _) fun _ => noPanic_sendMsg svc _ _ _
  · exact noPanic_orFail (.ok ())

theorem noPanic_perform (hdr : VhostUserMsgHeader BackendReq) {v : Except Stop (Except Error FrontendCall)}
    (hv : InBounds v) : NoPanic (perform svc hdr v) := by
  obtain s | e | c := v
  · intro x x' h
    cases s with
    | panic => exact hv rfl
    | err e => cases h
  · exact noPanic_finish svc hdr (.error e)
  · exact .bind (fun x x' h => by simp at h) fun res => noPanic_finish svc hdr (mapErr res)

theorem noPanic_dispatch {req : Request BackendReq} (hreq : Delivered checkAttachedFiles req) :
    NoPanic (dispatch svc req) := by
  rw [dispatch_eq]
  exact noPanic_perform svc req.hdr (inBounds_parse hreq)

end FrontendReqHandler

/-! ## `handle_request` -/

theorem serve_ne_panic {R η β κ τ α : Type} [Req R] {checkState : η → Except Error Unit}
    {recv : RxSock → Outcome (Except Error (Request R) × RxSock)}
    {dispatch : Request R → Handling η β κ τ α} {x : Ctx η β κ τ} {s : RxSock}
    (hrecv : recv s ≠ .panic)
    (hdispatch : ∀ req s', recv s = .ret (.ok req, s') → NoPanic (dispatch req)) :
    serve checkState recv dispatch x s ≠ .panic := by
  unfold serve
  cases checkState x.handler with
  | error e => simp
  | ok _ =>
    dsimp only
    cases hr : recv s with
    | blocked => simp
    | panic => exact absurd hr hrecv
    | ret r =>
      obtain ⟨e | req, s₁⟩ := r
      · simp
      · dsimp only
        cases hd : dispatch req x with
        | ok a x' => simp
        | error stop x' =>
          cases stop with
          | panic => exact absurd hd (hdispatch req s₁ hr x x')
          | err e => simp

/-- **No input drives a request handler out of bounds**: for every stream of bytes and files, cut in
every way, every state of the handler and every object behind it. -/
theorem handleRequest_ne_panic {β τ β' τ' : Type} (svc : BackendReqHandler.Svc β τ) (p : Platform)
    (svc' : FrontendReqHandler.Svc β' τ') (s : RxSock) :
    (∀ x, BackendReqHandler.handleRequest svc p x s ≠ .panic) ∧
      ∀ x, FrontendReqHandler.handleRequest svc' x s ≠ .panic := by
  constructor
  · intro x
    refine serve_ne_panic (recvRequest_ne_panic s) fun req s' hr => ?_
    exact BackendReqHandler.noPanic_dispatch svc p (recvRequest_delivered hr).length_eq
  · intro x
    refine serve_ne_panic (recvRequest_ne_panic s) fun req s' hr => ?_
    exact FrontendReqHandler.noPanic_dispatch svc' (recvRequest_delivered hr)

end VhostUser
