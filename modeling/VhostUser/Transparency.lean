import VhostUser.Exchange
import VhostUser.Segmentation
import VhostUser.WellFormed
/-!
# The delivered call is the issued call

`Frontend` encodes a call into a message (`frontend.rs:197-645`), `BackendReqHandler` decodes the
message into a call (`backend_req_handler.rs:439-852`); the two are written apart. `IsCall` says
what the second call has to be, argument by argument, and `parse_isCall` that `parse` of what
`compose` built is such a call.

A queue index travels as `u32` and a queue size as `u16`, so they agree as numbers. A descriptor
is a `RawFd` on one side and an open file on the other. The three vring fd requests pack the index
into eight bits and are in `VringFd`.
-/
namespace VhostUser
open Bytes EState

namespace FrontendOp

def isVringFd : FrontendOp → Bool
  | setVringCall .. | setVringKick .. | setVringErr .. => true
  | _ => false

/-- The call `c` is the method of the same name with equal arguments. -/
def IsCall : FrontendOp → Call → Prop
  | getFeatures, .getFeatures | setOwner, .setOwner | resetOwner, .resetOwner | resetDevice, .resetDevice
  | getProtocolFeatures, .getProtocolFeatures | getQueueNum, .getQueueNum | getMaxMemSlots, .getMaxMemSlots
  | getShmemConfig, .getShmemConfig | checkDeviceState, .checkDeviceState | postcopyAdvise, .postcopyAdvice
  | postcopyListen, .postcopyListen | postcopyEnd, .postcopyEnd => True
  | setFeatures features, .setFeatures features' => features' = features
  | setProtocolFeatures features, .setProtocolFeatures features' => features' = features
  | setMemTable regions, .setMemTable ctx files =>
    ctx = regions.map VhostUserMemoryRegionInfo.toRegion ∧
      files.map (fun f : File => (f : RawFd)) = regions.map VhostUserMemoryRegionInfo.mmapHandle
  | setLogBase _ (some region), .setLogBase log file =>
    log = ⟨region.mmapSize, region.mmapOffset⟩ ∧ (file : RawFd) = region.mmapHandle
  | setVringNum queueIndex num, .setVringNum index num' =>
    index.toNat = queueIndex.toNat ∧ num'.toNat = num.toNat
  | setVringAddr queueIndex configData, .setVringAddr index flags descriptor used available log =>
    index.toNat = queueIndex.toNat ∧ flags = configData.flags ∧ descriptor = configData.descTableAddr ∧
      used = configData.usedRingAddr ∧ available = configData.availRingAddr ∧
      log = configData.logAddr.getD 0
  | setVringBase queueIndex base, .setVringBase index base' =>
    index.toNat = queueIndex.toNat ∧ base'.toNat = base.toNat
  | getVringBase queueIndex, .getVringBase index => index.toNat = queueIndex.toNat
  | setVringEnable queueIndex enable, .setVringEnable index enable' =>
    index.toNat = queueIndex.toNat ∧ enable' = enable
  | getConfig offset size flags _, .getConfig offset' size' flags' =>
    offset' = offset ∧ size' = size ∧ flags' = flags
  | setConfig offset flags buf, .setConfig offset' buf' flags' =>
    offset' = offset ∧ buf' = buf ∧ flags' = flags
  | setBackendRequestFd fd, .setBackendReqFd backend => backend = fd
  | getSharedObject uuid, .getSharedObject uuid' => uuid' = uuid
  | getInflightFd inflight, .getInflightFd inflight' => inflight' = inflight
  | setInflightFd inflight fd, .setInflightFd inflight' file => inflight' = inflight ∧ (file : RawFd) = fd
  | addMemRegion region, .addMemRegion region' fd =>
    region'.region = region.toRegion ∧ (fd : RawFd) = region.mmapHandle
  | removeMemRegion region, .removeMemRegion region' => region'.region = region.toRegion
  | setDeviceStateFd direction phase fd, .setDeviceStateFd direction' phase' fd' =>
    direction' = direction ∧ phase' = phase ∧ fd' = fd
  | _, _ => False

/-! ## Pieces of a message -/

section Pieces
variable {node : FrontendInternal} {m : Outgoing}

@[simp] theorem getCode_headerOf : (headerOf node m).getCode = .ok m.code :=
  VhostUserMsgHeader.getCode_new _ _ _

theorem toNat_toUInt32 {queueIndex : UInt64} (hmax : node.maxQueueNum ≤ 0x8000)
    (hq : queueOk node queueIndex = .ok ()) : queueIndex.toUInt32.toNat = queueIndex.toNat := by
  unfold queueOk at hq
  split at hq
  · cases hq
  · rename_i hlt
    have hlt : queueIndex.toNat < node.maxQueueNum.toNat := UInt64.lt_iff_toNat_lt.1 (by simpa using hlt)
    have hmax : node.maxQueueNum.toNat ≤ 0x8000 := UInt64.le_iff_toNat_le.1 hmax
    rw [UInt64.toNat_toUInt32]
    omega

theorem toNat_fd {fd : RawFd} (h : ¬fd < 0) : ((fd.toNat : File) : RawFd) = fd := Int.toNat_of_nonneg (not_lt.1 h)

theorem fileOf_ok {fd : RawFd} {file : File} (h : fileOf node fd = .ok file) : (file : RawFd) = fd := by
  obtain ⟨-, -, h⟩ := except_bind_ok h
  split at h
  · cases h
  · rename_i hfd
    cases h
    exact toNat_fd hfd

/-- The body a request was composed with is the one it is parsed with. -/
theorem extractBody_asSlice {T : Type} [ByteValued T] [VhostUserMsgValidator T]
    {hdr : VhostUserMsgHeader FrontendReq} {msg : T} {γ : Type} {f : T → Except Stop γ} {b : γ}
    (h : (BackendReqHandler.extractBody T hdr (ByteValued.asSlice msg).length (ByteValued.asSlice msg) >>= f) =
      .ok b) : f msg = .ok b := by
  obtain ⟨msg', hmsg, h⟩ := except_bind_ok h
  obtain ⟨-, -, rfl⟩ := BackendReqHandler.extractBody_ok rfl hmsg
  rwa [fromSlice_asSlice_nil] at h

theorem recordsAt_flatMap (regions : List VhostUserMemoryRegionInfo) :
    BackendReqHandler.recordsAt regions.length (regions.flatMap fun r => ByteValued.asSlice r.toRegion) =
      .ok (regions.map VhostUserMemoryRegionInfo.toRegion) := by
  induction regions with
  | nil => rfl
  | cons r rs ih =>
    have hfit : ByteValued.size VhostUserMemoryRegion ≤
        ((r :: rs).flatMap fun r => ByteValued.asSlice r.toRegion).length := by
      rw [List.flatMap_cons, List.length_append, ByteValued.length_asSlice]
      exact Nat.le_add_right _ _
    have hrest : ((r :: rs).flatMap fun r => ByteValued.asSlice r.toRegion).drop
        (ByteValued.size VhostUserMemoryRegion) = rs.flatMap fun r => ByteValued.asSlice r.toRegion := by
      rw [List.flatMap_cons, List.drop_left' (ByteValued.length_asSlice _)]
    rw [List.length_cons, BackendReqHandler.recordsAt, BackendReqHandler.readAt_ok hfit, hrest, ih, List.flatMap_cons,
      ByteValued.fromSlice_asSlice]
    rfl

end Pieces

/-- What a memory table that gets through is parsed to. -/
theorem parseMemTable_ok {hdr : VhostUserMsgHeader FrontendReq} {buf : List UInt8} {files : Option (List File)}
    {c : Call} (h : BackendReqHandler.parseMemTable hdr buf.length buf files = .ok (.ok c)) :
    ∃ regions fs, files = some fs ∧
      BackendReqHandler.recordsAt (ByteValued.fromSlice buf : VhostUserMemory).numRegions.toNat
        (buf.drop (ByteValued.size VhostUserMemory)) = .ok regions ∧
      c = .setMemTable regions fs := by
  simp only [BackendReqHandler.parseMemTable] at h
  split at h
  · cases h
  · split at h
    · cases h
    · rename_i hshort
      obtain ⟨msg, hmsg, h⟩ := except_bind_ok h
      cases (BackendReqHandler.readAt_ok (not_lt.1 hshort)).symm.trans hmsg
      split at h
      · cases h
      · split at h
        · cases h
        · split at h
          · cases h
          · split at h
            · cases h
            · obtain ⟨regions, hregions, h⟩ := except_bind_ok h
              split at h
              · cases h
                exact ⟨regions, _, rfl, hregions, rfl⟩
              · cases h

/-! ## Request by request -/

section Requests
variable {p : Platform} {h : BackendReqHandler} {node : FrontendInternal} {m : Outgoing} {c : Call}

/-- The request the backend's handler gets for a message. -/
def arrived (node : FrontendInternal) (m : Outgoing) : Request FrontendReq :=
  ⟨headerOf node m, m.body.length, m.body, toFiles m.fds⟩

theorem setMemTable_isCall {regions : List VhostUserMemoryRegionInfo}
    (hm : (setMemTable regions).compose node = .ok m)
    (hc : BackendReqHandler.parse p h (arrived node m) = .ok (.ok c)) : (setMemTable regions).IsCall c := by
  obtain ⟨hpos, hmax, hfds, rfl⟩ := setMemTable_ok hm
  have hcount : (UInt32.ofNat regions.length).toNat = regions.length := by
    have : maxAttachedFdEntries = 32 := rfl
    rw [UInt32.toNat_ofNat']
    omega
  have hfiles : toFiles (regions.map fun r => r.mmapHandle.toNat) = some (regions.map fun r => r.mmapHandle.toNat) := by
    cases regions with
    | nil => cases hpos
    | cons r rs => rfl
  simp only [BackendReqHandler.parse, arrived, getCode_headerOf] at hc
  obtain ⟨records, files, hsome, hrecords, rfl⟩ := parseMemTable_ok hc
  rw [ByteValued.fromSlice_asSlice, hcount, List.drop_left' (ByteValued.length_asSlice _), recordsAt_flatMap] at hrecords
  cases hrecords
  cases hfiles.symm.trans hsome
  refine ⟨rfl, ?_⟩
  rw [List.map_map]
  exact List.map_congr_left fun r hr => Int.toNat_of_nonneg (hfds r hr)

/-- The call of a verdict that stands for at most one. -/
theorem eq_of_callsOf {v : Except Stop BackendReqHandler.Verdict} {c' : Call} {G : Prop} [Decidable G]
    (hv : v = .ok (.ok c)) (h : BackendReqHandler.callsOf v = if G then [c'] else []) : c = c' := by
  rw [hv] at h
  split at h
  · exact (List.cons.inj h).1
  · cases h

/-- What it takes to get through both sides' checks. -/
theorem getConfig_accepted {offset size flags : UInt32} {buf : List UInt8}
    (hm : (getConfig offset size flags buf).compose node = .ok m)
    (hc : BackendReqHandler.parse p h (arrived node m) = .ok (.ok c)) :
    c = .getConfig offset size flags ∧ buf.length = size.toNat ∧ (headerOf node m).isReply = false := by
  have hfits := (compose_fits hm).body_le
  obtain ⟨-, -, -, rfl⟩ := getConfig_ok hm
  have hbody : (ByteValued.fromSlice (ByteValued.asSlice (⟨offset, size, flags⟩ : VhostUserConfig) ++ buf) :
      VhostUserConfig) = ⟨offset, size, flags⟩ := ByteValued.fromSlice_asSlice _ _
  simp only [BackendReqHandler.parse, arrived, getCode_headerOf] at hc
  obtain ⟨-, -, hc⟩ := except_bind_ok hc
  obtain ⟨_, hchecked, hc⟩ := except_bind_ok hc
  have hcalls := BackendReqHandler.callsOf_parseGetConfig hfits
  rw [hc, BackendReqHandler.callsOf_call] at hcalls
  split at hcalls
  · rename_i hgrammar
    cases hcalls
    refine ⟨?_, ?_, ?_⟩
    · exact congrArg (fun msg : VhostUserConfig => Call.getConfig msg.offset msg.size msg.flags) hbody
    · have hlen := hgrammar.1
      have hdeclared : u32At 4 (ByteValued.asSlice (⟨offset, size, flags⟩ : VhostUserConfig) ++ buf) = size :=
        congrArg VhostUserConfig.size hbody
      have hsize : ByteValued.size VhostUserConfig = 12 := rfl
      rw [hdeclared, List.length_append, ByteValued.length_asSlice, hsize] at hlen
      omega
    · exact (BackendReqHandler.checkRequestSize_ok.1 (BackendReqHandler.orStop_ok hchecked)).2.1
  · cases hcalls

theorem setConfig_isCall {offset flags : UInt32} {buf : List UInt8}
    (hm : (setConfig offset flags buf).compose node = .ok m)
    (hc : BackendReqHandler.parse p h (arrived node m) = .ok (.ok c)) : (setConfig offset flags buf).IsCall c := by
  have hfits := (compose_fits hm).body_le
  obtain ⟨-, -, rfl⟩ := setConfig_ok hm
  simp only [BackendReqHandler.parse, arrived, getCode_headerOf] at hc
  obtain ⟨-, -, hc⟩ := except_bind_ok hc
  obtain ⟨-, -, hc⟩ := except_bind_ok hc
  cases eq_of_callsOf hc (BackendReqHandler.callsOf_parseSetConfig hfits)
  have hbody : (ByteValued.fromSlice (ByteValued.asSlice
      (⟨offset, UInt32.ofNat buf.length, flags⟩ : VhostUserConfig) ++ buf) : VhostUserConfig) =
      ⟨offset, UInt32.ofNat buf.length, flags⟩ := ByteValued.fromSlice_asSlice _ _
  exact ⟨congrArg VhostUserConfig.offset hbody, List.drop_left' (ByteValued.length_asSlice _),
    congrArg VhostUserConfig.flags hbody⟩

theorem setVringAddr_isCall {queueIndex : UInt64} {configData : VringConfigData} (hmax : node.maxQueueNum ≤ 0x8000)
    (hm : (setVringAddr queueIndex configData).compose node = .ok m)
    (hc : BackendReqHandler.parse p h (arrived node m) = .ok (.ok c)) :
    (setVringAddr queueIndex configData).IsCall c := by
  simp only [compose] at hm
  split at hm
  · cases hm
  · rename_i hguard
    cases hm
    have hq : queueOk node queueIndex = .ok () := if_neg (by simp at hguard; simpa using hguard.1)
    simp only [BackendReqHandler.parse, arrived, getCode_headerOf] at hc
    have hc := extractBody_asSlice hc
    split at hc
    · cases hc
    · rename_i flags hflags
      unfold fromBits at hflags
      split at hflags
      · cases hflags
        cases hc
        exact ⟨toNat_toUInt32 hmax hq, rfl, rfl, rfl, rfl, rfl⟩
      · cases hflags

theorem setVringEnable_isCall {queueIndex : UInt64} {enable : Bool} (hmax : node.maxQueueNum ≤ 0x8000)
    (hm : (setVringEnable queueIndex enable).compose node = .ok m)
    (hc : BackendReqHandler.parse p h (arrived node m) = .ok (.ok c)) :
    (setVringEnable queueIndex enable).IsCall c := by
  simp only [compose] at hm
  split at hm
  · cases hm
  · obtain ⟨hq, rfl⟩ := guard_ok hm
    simp only [BackendReqHandler.parse, arrived, getCode_headerOf] at hc
    have hc := extractBody_asSlice hc
    obtain ⟨-, -, hc⟩ := except_bind_ok hc
    cases enable with
    | true =>
      cases hc
      exact ⟨toNat_toUInt32 hmax hq, rfl⟩
    | false =>
      cases hc
      exact ⟨toNat_toUInt32 hmax hq, rfl⟩

theorem setLogBase_isCall {base : UInt64} {region : Option VhostUserDirtyLogRegion}
    (hm : (setLogBase base region).compose node = .ok m)
    (hc : BackendReqHandler.parse p h (arrived node m) = .ok (.ok c)) : (setLogBase base region).IsCall c := by
  have hlegacy : BackendReqHandler.parse p h
      (arrived node ⟨.setLogBase, ByteValued.asSlice (⟨base⟩ : VhostUserU64), []⟩) ≠ .ok (.ok c) := by
    intro hc
    simp only [BackendReqHandler.parse, arrived, getCode_headerOf] at hc
    obtain ⟨-, -, hc⟩ := except_bind_ok hc
    cases hc
  cases region with
  | none =>
    cases hm
    exact absurd hc hlegacy
  | some region =>
    simp only [compose] at hm
    split at hm
    · obtain ⟨fd, hfd, hm⟩ := except_bind_ok hm
      cases hm
      simp only [BackendReqHandler.parse, arrived, getCode_headerOf] at hc
      obtain ⟨-, -, hc⟩ := except_bind_ok hc
      have hc := extractBody_asSlice hc
      cases hc
      exact ⟨rfl, fileOf_ok hfd⟩
    · cases hm
      exact absurd hc hlegacy

theorem parse_isCall {op : FrontendOp} (hop : op.isVringFd = false) (hmax : node.maxQueueNum ≤ 0x8000)
    (hm : op.compose node = .ok m) (hc : BackendReqHandler.parse p h (arrived node m) = .ok (.ok c)) :
    op.IsCall c := by
  cases op with
  | setMemTable regions => exact setMemTable_isCall hm hc
  | setLogBase base region => exact setLogBase_isCall hm hc
  | setVringAddr queueIndex configData => exact setVringAddr_isCall hmax hm hc
  | setVringEnable queueIndex enable => exact setVringEnable_isCall hmax hm hc
  | getConfig offset size flags buf =>
    obtain ⟨rfl, -, -⟩ := getConfig_accepted hm hc
    exact ⟨rfl, rfl, rfl⟩
  | setConfig offset flags buf => exact setConfig_isCall hm hc
  | setVringCall _ _ | setVringKick _ _ | setVringErr _ _ => cases hop
  | getFeatures | setOwner | resetOwner =>
    cases hm
    simp only [BackendReqHandler.parse, arrived, getCode_headerOf] at hc
    obtain ⟨-, -, hc⟩ := except_bind_ok hc
    cases hc
    trivial
  | setFeatures features =>
    cases hm
    simp only [BackendReqHandler.parse, arrived, getCode_headerOf] at hc
    have hc := extractBody_asSlice hc
    cases hc
    rfl
  | setLogFd fd =>
    obtain ⟨file, -, hm⟩ := except_bind_ok hm
    cases hm
    simp only [BackendReqHandler.parse, arrived, getCode_headerOf] at hc
    cases hc
  | setVringNum queueIndex num | setVringBase queueIndex base =>
    obtain ⟨hq, rfl⟩ := guard_ok hm
    simp only [BackendReqHandler.parse, arrived, getCode_headerOf] at hc
    have hc := extractBody_asSlice hc
    cases hc
    exact ⟨toNat_toUInt32 hmax hq, UInt16.toNat_toUInt32 _⟩
  | getVringBase queueIndex =>
    obtain ⟨hq, rfl⟩ := guard_ok hm
    simp only [BackendReqHandler.parse, arrived, getCode_headerOf] at hc
    have hc := extractBody_asSlice hc
    cases hc
    exact toNat_toUInt32 hmax hq
  | checkDeviceState =>
    obtain ⟨-, rfl⟩ := guard_ok hm
    simp only [BackendReqHandler.parse, arrived, getCode_headerOf] at hc
    cases hc
    trivial
  | setProtocolFeatures features =>
    obtain ⟨-, rfl⟩ := guard_ok hm
    simp only [BackendReqHandler.parse, arrived, getCode_headerOf] at hc
    have hc := extractBody_asSlice hc
    cases hc
    rfl
  | getQueueNum | resetDevice | getMaxMemSlots =>
    obtain ⟨-, rfl⟩ := guard_ok hm
    simp only [BackendReqHandler.parse, arrived, getCode_headerOf] at hc
    obtain ⟨-, -, hc⟩ := except_bind_ok hc
    obtain ⟨-, -, hc⟩ := except_bind_ok hc
    cases hc
    trivial
  | getProtocolFeatures | getShmemConfig =>
    obtain ⟨-, rfl⟩ := guard_ok hm
    simp only [BackendReqHandler.parse, arrived, getCode_headerOf] at hc
    obtain ⟨-, -, hc⟩ := except_bind_ok hc
    cases hc
    trivial
  | setBackendRequestFd fd =>
    obtain ⟨-, rfl⟩ := guard_ok hm
    simp only [BackendReqHandler.parse, arrived, getCode_headerOf] at hc
    obtain ⟨-, -, hc⟩ := except_bind_ok hc
    obtain ⟨-, -, hc⟩ := except_bind_ok hc
    have hc : BackendReqHandler.parseSocket p (some [fd]) .setBackendReqFd = .ok c := Except.ok.inj hc
    simp only [BackendReqHandler.parseSocket, takeSingleFile] at hc
    split at hc
    · cases hc
    · cases hc
      rfl
  | getSharedObject uuid =>
    obtain ⟨-, -, hm⟩ := except_bind_ok hm
    split at hm
    · cases hm
    · cases hm
      simp only [BackendReqHandler.parse, arrived, getCode_headerOf] at hc
      obtain ⟨-, -, hc⟩ := except_bind_ok hc
      obtain ⟨-, -, hc⟩ := except_bind_ok hc
      have hc := extractBody_asSlice hc
      obtain ⟨-, -, hc⟩ := except_bind_ok hc
      cases hc
      rfl
  | getInflightFd inflight =>
    obtain ⟨-, rfl⟩ := guard_ok hm
    simp only [BackendReqHandler.parse, arrived, getCode_headerOf] at hc
    obtain ⟨-, -, hc⟩ := except_bind_ok hc
    have hc := extractBody_asSlice hc
    cases hc
    rfl
  | setInflightFd inflight fd =>
    obtain ⟨-, -, hm⟩ := except_bind_ok hm
    split at hm
    · cases hm
    · rename_i hguard
      cases hm
      simp only [BackendReqHandler.parse, arrived, getCode_headerOf] at hc
      obtain ⟨-, -, hc⟩ := except_bind_ok hc
      have hc := extractBody_asSlice hc
      cases hc
      exact ⟨rfl, toNat_fd fun hneg => hguard (by simp [hneg])⟩
  | addMemRegion region =>
    obtain ⟨-, -, hm⟩ := except_bind_ok hm
    split at hm
    · cases hm
    · rename_i hguard
      cases hm
      simp only [BackendReqHandler.parse, arrived, getCode_headerOf] at hc
      obtain ⟨-, -, hc⟩ := except_bind_ok hc
      have hc := extractBody_asSlice hc
      cases hc
      exact ⟨rfl, toNat_fd fun hneg => hguard (by simp [hneg])⟩
  | removeMemRegion region =>
    obtain ⟨-, -, hm⟩ := except_bind_ok hm
    split at hm
    · cases hm
    · cases hm
      simp only [BackendReqHandler.parse, arrived, getCode_headerOf] at hc
      obtain ⟨-, -, hc⟩ := except_bind_ok hc
      have hc := extractBody_asSlice hc
      cases hc
      rfl
  | setDeviceStateFd direction phase fd =>
    obtain ⟨-, rfl⟩ := guard_ok hm
    simp only [BackendReqHandler.parse, arrived, getCode_headerOf] at hc
    have hc := extractBody_asSlice hc
    obtain ⟨-, -, hc⟩ := except_bind_ok hc
    have hcodes : c = .setDeviceStateFd direction phase fd := by
      cases direction <;> cases phase <;> · cases hc; rfl
    subst hcodes
    exact ⟨rfl, rfl, rfl⟩
  | postcopyAdvise =>
    obtain ⟨-, rfl⟩ := guard_ok hm
    simp only [BackendReqHandler.parse, arrived, getCode_headerOf] at hc
    split at hc
    · cases hc
    · obtain ⟨-, -, hc⟩ := except_bind_ok hc
      obtain ⟨-, -, hc⟩ := except_bind_ok hc
      cases hc
      trivial
  | postcopyListen | postcopyEnd =>
    obtain ⟨-, rfl⟩ := guard_ok hm
    simp only [BackendReqHandler.parse, arrived, getCode_headerOf] at hc
    split at hc
    · cases hc
    · obtain ⟨-, -, hc⟩ := except_bind_ok hc
      cases hc
      trivial

end Requests

/-! ## Over the socket -/

section Delivery
variable {β τ ρ : Type} (svc : BackendReqHandler.Svc β τ) (ch : Channel ρ)

/-- **The proxy is transparent**: whatever the frontend sent for an operation, however it is cut on
its way, if `handle_request` calls the backend for it, it makes that one call. -/
theorem delivered_isCall (p : Platform) (op : FrontendOp) (y : FrontendCtx ρ) (x x' : Ctx BackendReqHandler β Call τ)
    (bytes : List UInt8) (fds : List File) (rest : List Cell) (s s' : RxSock) (r : Except Error Unit)
    (hop : op.isVringFd = false) (hmax : y.node.maxQueueNum ≤ 0x8000) (hsent : (bytes, fds) ∈ op.sent ch y)
    (hstream : s.stream = cells bytes fds ++ rest)
    (hret : BackendReqHandler.handleRequest svc p x s = .ret (r, x', s')) (hcalls : x'.calls ≠ x.calls) :
    ∃ c, x'.calls = x.calls ++ [c] ∧ op.IsCall c := by
  obtain hnone | ⟨m, hm, hone⟩ := op.sent_cases ch y
  · rw [hnone] at hsent
    cases hsent
  · rw [hone, List.mem_singleton, Prod.mk.injEq] at hsent
    obtain ⟨rfl, rfl⟩ := hsent
    have hfits := compose_fits hm
    obtain ⟨hlen, -⟩ := isValid_headerOf y.node hfits
    obtain ⟨rfl, -⟩ | ⟨req, hrecv, hdispatch⟩ := BackendReqHandler.handleRequest_cases svc hret
    · exact absurd rfl hcalls
    · obtain ⟨rfl, -⟩ := recvRequest_filled hlen hfits.fds_le hstream hrecv
      have hmade := BackendReqHandler.calls_dispatch svc p (arrived y.node m) x
      have hfinal : final (BackendReqHandler.dispatch svc p (arrived y.node m) x) = x' := by
        obtain ⟨hd, -⟩ | ⟨e, hd, -⟩ := hdispatch
        · exact congrArg final hd
        · exact congrArg final hd
      rw [hfinal] at hmade
      rcases hv : BackendReqHandler.parse p x.handler (arrived y.node m) with stop | e | c
      · rw [hv, BackendReqHandler.callsOf_stop, List.append_nil] at hmade
        exact absurd hmade hcalls
      · rw [hv, BackendReqHandler.callsOf_refused, List.append_nil] at hmade
        exact absurd hmade hcalls
      · rw [hv, BackendReqHandler.callsOf_call] at hmade
        exact ⟨c, hmade, parse_isCall hop hmax hm hv⟩

/-- Two regions with the files 7 and 9. -/
def twoRegions : FrontendOp :=
  setMemTable [⟨0x1000, 0x2000, 0x7000, 0, 7⟩, ⟨0x8000, 0x1000, 0xa000, 0x2000, 9⟩]

def twoRegionsMsg : Outgoing :=
  ⟨.setMemTable, ByteValued.asSlice (⟨2, 0⟩ : VhostUserMemory) ++
    (ByteValued.asSlice (⟨0x1000, 0x2000, 0x7000, 0⟩ : VhostUserMemoryRegion) ++
      ByteValued.asSlice (⟨0x8000, 0x1000, 0xa000, 0x2000⟩ : VhostUserMemoryRegion)), [7, 9]⟩

theorem twoRegions_delivered :
    ∃ r x' s', BackendReqHandler.handleRequest refusing ⟨false, fun _ _ => .ok 1⟩ freshCtx
        (BackendReqHandler.arrives (headerOf (Frontend.new 4) twoRegionsMsg) twoRegionsMsg.body [7, 9]) =
          .ret (r, x', s') ∧
      ∃ c, x'.calls = [c] ∧ twoRegions.IsCall c := by
  have hsent : twoRegions.sent Channel.mute ⟨Frontend.new 4, ()⟩ =
      [(ByteValued.asSlice (headerOf (Frontend.new 4) twoRegionsMsg) ++ twoRegionsMsg.body, [7, 9])] := by decide
  refine ⟨.error .invalidParam, ⟨.new, (), (), [_]⟩, _, rfl, ?_⟩
  exact delivered_isCall refusing Channel.mute ⟨false, fun _ _ => .ok 1⟩ twoRegions ⟨Frontend.new 4, ()⟩ freshCtx _
    _ _ [] (BackendReqHandler.arrives (headerOf (Frontend.new 4) twoRegionsMsg) twoRegionsMsg.body [7, 9]) _ _ rfl
    (by decide) (by rw [hsent]; exact List.mem_singleton.2 rfl) (by decide) rfl (by decide)

end Delivery

end FrontendOp

end VhostUser
