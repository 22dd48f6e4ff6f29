import VhostUser.Frontend
/-!
# `GpuBackend` (`vhost/src/vhost_user/gpu_backend_req.rs`, `gpu_message.rs`)

| here | there |
| --- | --- |
| `GpuBackendReq`, `VhostUserGpuMsgHeader` | the requests and their header (`gpu_message.rs:15-166`) |
| `VirtioGpuCtrlHdr` … `VhostUserGpuScanout` | the bodies (`:181-398`) |
| `checkState` `sendHeader` `sendMessage` `sendMessageWithPayload` `recvReply` | `BackendInternal` (`gpu_backend_req.rs:27-103`) |
| `getProtocolFeatures` … `cursorUpdate` | the methods of `GpuBackend` (`:129-281`) |

The protocol has its own header type: no version, one flag, and a size limit of `u32::MAX`. The
socket is a `Channel`; the checks of `Endpoint` before it writes are in the three senders.
-/
namespace VhostUser
open Bytes EState

/-! ## Messages -/

/-- Requests from the backend to the frontend over the GPU socket. -/
inductive GpuBackendReq where
  | getProtocolFeatures | setProtocolFeatures | getDisplayInfo | cursorPos | cursorPosHide | cursorUpdate
  | scanout | update | dmabufScanout | dmabufUpdate | getEdid | dmabufScanout2
deriving DecidableEq, Repr

namespace GpuBackendReq

/-- Every variant, in declaration order: the codes are `1, 2, …, 12`. -/
def all : List GpuBackendReq :=
  [getProtocolFeatures, setProtocolFeatures, getDisplayInfo, cursorPos, cursorPosHide, cursorUpdate,
   scanout, update, dmabufScanout, dmabufUpdate, getEdid, dmabufScanout2]

def code (r : GpuBackendReq) : UInt32 := UInt32.ofNat (all.idxOf r + 1)

instance : Req GpuBackendReq where
  toU32 := code
  tryFrom v := all.find? fun r => r.code == v
  tryFrom_toU32 r := by cases r <;> decide

end GpuBackendReq

/-- `VhostUserGpuHeaderFlag`; `REPLY` is its only bit. -/
def VhostUserGpuHeaderFlag.REPLY : UInt32 := 0x4

structure VhostUserGpuMsgHeader (R : Type) where
  request : UInt32
  flags : UInt32
  size : UInt32
deriving DecidableEq, Repr

namespace VhostUserGpuMsgHeader
variable {R : Type} [Req R]

instance : Inhabited (VhostUserGpuMsgHeader R) := ⟨⟨0, 0, 0⟩⟩

def new (request : R) (flags size : UInt32) : VhostUserGpuMsgHeader R := ⟨Req.toU32 request, flags, size⟩

def getCode (h : VhostUserGpuMsgHeader R) : Except Error R :=
  match Req.tryFrom h.request with
  | some r => .ok r
  | none => .error .invalidMessage

def isReply (h : VhostUserGpuMsgHeader R) : Bool := (h.flags &&& VhostUserGpuHeaderFlag.REPLY) != 0
def getSize (h : VhostUserGpuMsgHeader R) : UInt32 := h.size

def isReplyFor [DecidableEq R] (h req : VhostUserGpuMsgHeader R) : Bool :=
  match h.getCode, req.getCode with
  | .ok code1, .ok code2 => h.isReply && !req.isReply && code1 == code2
  | _, _ => false

def isValid (h : VhostUserGpuMsgHeader R) : Bool :=
  (h.getCode matches .ok _) && (fromBits VhostUserGpuHeaderFlag.REPLY h.flags).isSome

/-- `u32::MAX as usize`. -/
def maxMsgSize : Nat := 2 ^ 32 - 1

instance : MsgHeader (VhostUserGpuMsgHeader R) where
  size := 12
  asSlice h := u32le h.request ++ (u32le h.flags ++ u32le h.size)
  fromSlice bs := ⟨u32At 0 bs, u32At 4 bs, u32At 8 bs⟩
  length_asSlice h := by simp
  fromSlice_asSlice h rest := by simp [u32At_skip]
  isValid := isValid
  maxMsgSize := maxMsgSize

@[simp] theorem size_header : ByteValued.size (VhostUserGpuMsgHeader R) = 12 := rfl

/-- A header without flags is valid. -/
theorem isValid_new (r : R) (s : UInt32) : (new r 0 s).isValid = true := by
  have hcode : (new r 0 s).getCode = .ok r := by simp [new, getCode, Req.tryFrom_toU32]
  have hflags : fromBits VhostUserGpuHeaderFlag.REPLY (new r 0 s).flags = some 0 :=
    (by decide : fromBits VhostUserGpuHeaderFlag.REPLY 0 = some 0)
  simp only [isValid, hcode, hflags, Option.isSome_some, Bool.and_true]

end VhostUserGpuMsgHeader

structure VirtioGpuCtrlHdr where
  type_ : UInt32
  flags : UInt32
  fenceId : UInt64
  ctxId : UInt32
  ringIdx : UInt8
  padding : Vector UInt8 3
deriving DecidableEq, Inhabited

instance : ByteValued VirtioGpuCtrlHdr where
  size := 24
  asSlice m := u32le m.type_ ++ (u32le m.flags ++ (u64le m.fenceId ++ (u32le m.ctxId ++
    (ByteValued.asSlice m.ringIdx ++ ByteValued.asSlice m.padding))))
  fromSlice bs := ⟨u32At 0 bs, u32At 4 bs, u64At 8 bs, u32At 16 bs, ByteValued.fromSlice (bs.drop 20),
    ByteValued.fromSlice (bs.drop 21)⟩
  length_asSlice m := by simp [ByteValued.size]
  fromSlice_asSlice m rest := by
    simp [u32At_skip, u64At_skip, drop_skip, ByteValued.size]

structure VirtioGpuRect where
  x : UInt32
  y : UInt32
  width : UInt32
  height : UInt32
deriving DecidableEq, Repr, Inhabited

instance : ByteValued VirtioGpuRect where
  size := 16
  asSlice m := u32le m.x ++ (u32le m.y ++ (u32le m.width ++ u32le m.height))
  fromSlice bs := ⟨u32At 0 bs, u32At 4 bs, u32At 8 bs, u32At 12 bs⟩
  length_asSlice m := by simp
  fromSlice_asSlice m rest := by simp [u32At_skip]

structure VirtioGpuDisplayOne where
  r : VirtioGpuRect
  enabled : UInt32
  flags : UInt32
deriving DecidableEq, Repr, Inhabited

instance : ByteValued VirtioGpuDisplayOne where
  size := 24
  asSlice m := ByteValued.asSlice m.r ++ (u32le m.enabled ++ u32le m.flags)
  fromSlice bs := ⟨ByteValued.fromSlice bs, u32At 16 bs, u32At 20 bs⟩
  length_asSlice m := by simp [ByteValued.size]
  fromSlice_asSlice m rest := by simp [u32At_skip, ByteValued.size]

def virtioGpuMaxScanouts : Nat := 16

structure VirtioGpuRespDisplayInfo where
  hdr : VirtioGpuCtrlHdr
  pmodes : Vector VirtioGpuDisplayOne virtioGpuMaxScanouts
deriving DecidableEq, Inhabited

instance : ByteValued VirtioGpuRespDisplayInfo where
  size := 408
  asSlice m := ByteValued.asSlice m.hdr ++ ByteValued.asSlice m.pmodes
  fromSlice bs := ⟨ByteValued.fromSlice bs, ByteValued.fromSlice (bs.drop 24)⟩
  length_asSlice m := by
    rw [List.length_append, ByteValued.length_asSlice, ByteValued.length_asSlice]
    rfl
  fromSlice_asSlice m rest := by simp [ByteValued.size]

instance : VhostUserMsgValidator VirtioGpuRespDisplayInfo where

structure VhostUserGpuEdidRequest where
  scanoutId : UInt32
deriving DecidableEq, Repr, Inhabited

instance : ByteValued VhostUserGpuEdidRequest where
  size := 4
  asSlice m := u32le m.scanoutId
  fromSlice bs := ⟨u32At 0 bs⟩
  length_asSlice m := by simp
  fromSlice_asSlice m rest := by simp

structure VhostUserGpuUpdate where
  scanoutId : UInt32
  x : UInt32
  y : UInt32
  width : UInt32
  height : UInt32
deriving DecidableEq, Repr, Inhabited

instance : ByteValued VhostUserGpuUpdate where
  size := 20
  asSlice m := u32le m.scanoutId ++ (u32le m.x ++ (u32le m.y ++ (u32le m.width ++ u32le m.height)))
  fromSlice bs := ⟨u32At 0 bs, u32At 4 bs, u32At 8 bs, u32At 12 bs, u32At 16 bs⟩
  length_asSlice m := by simp
  fromSlice_asSlice m rest := by simp [u32At_skip]

structure VhostUserGpuDMABUFScanout where
  scanoutId : UInt32
  x : UInt32
  y : UInt32
  width : UInt32
  height : UInt32
  fdWidth : UInt32
  fdHeight : UInt32
  fdStride : UInt32
  fdFlags : UInt32
  fdDrmFourcc : UInt32
deriving DecidableEq, Repr, Inhabited

instance : ByteValued VhostUserGpuDMABUFScanout where
  size := 40
  asSlice m := u32le m.scanoutId ++ (u32le m.x ++ (u32le m.y ++ (u32le m.width ++ (u32le m.height ++
    (u32le m.fdWidth ++ (u32le m.fdHeight ++ (u32le m.fdStride ++ (u32le m.fdFlags ++ u32le m.fdDrmFourcc))))))))
  fromSlice bs := ⟨u32At 0 bs, u32At 4 bs, u32At 8 bs, u32At 12 bs, u32At 16 bs, u32At 20 bs, u32At 24 bs,
    u32At 28 bs, u32At 32 bs, u32At 36 bs⟩
  length_asSlice m := by simp
  fromSlice_asSlice m rest := by simp [u32At_skip]

structure VhostUserGpuDMABUFScanout2 where
  dmabufScanout : VhostUserGpuDMABUFScanout
  modifier : UInt64
deriving DecidableEq, Repr, Inhabited

instance : ByteValued VhostUserGpuDMABUFScanout2 where
  size := 48
  asSlice m := ByteValued.asSlice m.dmabufScanout ++ u64le m.modifier
  fromSlice bs := ⟨ByteValued.fromSlice bs, u64At 40 bs⟩
  length_asSlice m := by simp [ByteValued.size]
  fromSlice_asSlice m rest := by simp [u64At_skip, ByteValued.size]

structure VhostUserGpuCursorPos where
  scanoutId : UInt32
  x : UInt32
  y : UInt32
deriving DecidableEq, Repr, Inhabited

instance : ByteValued VhostUserGpuCursorPos where
  size := 12
  asSlice m := u32le m.scanoutId ++ (u32le m.x ++ u32le m.y)
  fromSlice bs := ⟨u32At 0 bs, u32At 4 bs, u32At 8 bs⟩
  length_asSlice m := by simp
  fromSlice_asSlice m rest := by simp [u32At_skip]

structure VhostUserGpuCursorUpdate where
  pos : VhostUserGpuCursorPos
  hotX : UInt32
  hotY : UInt32
deriving DecidableEq, Repr, Inhabited

instance : ByteValued VhostUserGpuCursorUpdate where
  size := 20
  asSlice m := ByteValued.asSlice m.pos ++ (u32le m.hotX ++ u32le m.hotY)
  fromSlice bs := ⟨ByteValued.fromSlice bs, u32At 12 bs, u32At 16 bs⟩
  length_asSlice m := by simp [ByteValued.size]
  fromSlice_asSlice m rest := by simp [u32At_skip, ByteValued.size]

structure VirtioGpuRespGetEdid where
  hdr : VirtioGpuCtrlHdr
  size : UInt32
  padding : UInt32
  edid : Vector UInt8 1024
deriving DecidableEq, Inhabited

instance : ByteValued VirtioGpuRespGetEdid where
  size := 1056
  asSlice m := ByteValued.asSlice m.hdr ++ (u32le m.size ++ (u32le m.padding ++ ByteValued.asSlice m.edid))
  fromSlice bs := ⟨ByteValued.fromSlice bs, u32At 24 bs, u32At 28 bs, ByteValued.fromSlice (bs.drop 32)⟩
  length_asSlice m := by simp [ByteValued.size]
  fromSlice_asSlice m rest := by simp [u32At_skip, drop_skip, ByteValued.size]

instance : VhostUserMsgValidator VirtioGpuRespGetEdid where

structure VhostUserGpuScanout where
  scanoutId : UInt32
  width : UInt32
  height : UInt32
deriving DecidableEq, Repr, Inhabited

instance : ByteValued VhostUserGpuScanout where
  size := 12
  asSlice m := u32le m.scanoutId ++ (u32le m.width ++ u32le m.height)
  fromSlice bs := ⟨u32At 0 bs, u32At 4 bs, u32At 8 bs⟩
  length_asSlice m := by simp
  fromSlice_asSlice m rest := by simp [u32At_skip]

/-! ## The proxy -/

/-- The state behind the mutex: the failure it was marked with, and the socket. -/
structure GpuCtx (τ : Type) where
  error : Option Int32
  sock : τ

/-- `io::Error::other(format!("{info}: {e}"))`. -/
structure GpuError where
  info : String
  error : Error
deriving DecidableEq, Repr

namespace GpuBackend

abbrev M (τ : Type) := EStateM GpuError (GpuCtx τ)

abbrev Hdr := VhostUserGpuMsgHeader GpuBackendReq

section
variable {τ α : Type}

/-- `.map_err(io_err_convert_fn(info))?`. -/
def orThrow (info : String) : Except Error α → M τ α
  | .ok a => pure a
  | .error e => throw ⟨info, e⟩

def checkState : M τ Unit := do
  let x ← get
  orThrow "check_state" (match x.error with
    | some e => .error (.socketBroken (.errno e))
    | none => .ok ())

variable (ch : Channel τ)

def sendBytes (info : String) (bytes : List UInt8) (fds : List File) : M τ Unit := do
  let x ← get
  let (r, sock) := ch.send bytes fds x.sock
  set { x with sock := sock }
  orThrow info r

def sendHeader (request : GpuBackendReq) (fds : List File) : M τ Hdr := do
  checkState
  let hdr := VhostUserGpuMsgHeader.new request 0 0
  sendBytes ch "send_header" (ByteValued.asSlice hdr) fds
  pure hdr

/-- The cast `len as u32` is to the left of the `Endpoint`'s size check. -/
def sendMessage {T : Type} [ByteValued T] (request : GpuBackendReq) (body : T) (fds : List File) : M τ Hdr := do
  checkState
  let len := ByteValued.size T
  let hdr := VhostUserGpuMsgHeader.new request 0 (UInt32.ofNat len)
  if ByteValued.size T > MsgHeader.maxMsgSize Hdr then throw ⟨"send_message", .oversizedMsg⟩
  sendBytes ch "send_message" (ByteValued.asSlice hdr ++ ByteValued.asSlice body) fds
  pure hdr

def sendMessageWithPayload {T : Type} [ByteValued T] (request : GpuBackendReq) (body : T) (data : List UInt8)
    (fds : List File) : M τ Hdr := do
  checkState
  let len := ByteValued.size T + data.length
  let hdr := VhostUserGpuMsgHeader.new request 0 (UInt32.ofNat len)
  if ByteValued.size T > MsgHeader.maxMsgSize Hdr then throw ⟨"send_message_with_payload", .oversizedMsg⟩
  if data.length > MsgHeader.maxMsgSize Hdr - ByteValued.size T then
    throw ⟨"send_message_with_payload", .oversizedMsg⟩
  if fds.length > maxAttachedFdEntries then throw ⟨"send_message_with_payload", .incorrectFds⟩
  sendBytes ch "send_message_with_payload"
    (ByteValued.asSlice hdr ++ (ByteValued.asSlice body ++ data)) fds
  pure hdr

def recvBytes (info : String) (n : Nat) : M τ (List UInt8 × Option (List File)) := do
  let x ← get
  let (r, sock) := ch.recv n x.sock
  set { x with sock := sock }
  orThrow info r

/-- `sock.recv_body::<V>()`. -/
def recvBody (V : Type) [ByteValued V] [VhostUserMsgValidator V] : M τ (Hdr × V × Option (List File)) := do
  let total := ByteValued.size Hdr + ByteValued.size V
  let (bytes, files) ← recvBytes ch "recv_body" total
  let hdr : Hdr := ByteValued.fromSlice bytes
  let body : V := ByteValued.fromSlice (bytes.drop (ByteValued.size Hdr))
  if bytes.length ≠ total then throw ⟨"recv_body", .partialMessage⟩
  if !hdr.isValid || !VhostUserMsgValidator.isValid body then throw ⟨"recv_body", .invalidMessage⟩
  pure (hdr, body, files)

/-- There is no `REPLY_ACK` here: some messages have a reply, the others have none. -/
def recvReply (V : Type) [ByteValued V] [VhostUserMsgValidator V] (hdr : Hdr) : M τ V := do
  checkState
  let (reply, body, rfds) ← recvBody ch V
  if !reply.isReplyFor hdr || rfds.isSome || !VhostUserMsgValidator.isValid body then
    throw ⟨"Unexpected reply", .invalidMessage⟩
  pure body

def getProtocolFeatures : M τ VhostUserU64 := do
  let hdr ← sendHeader ch .getProtocolFeatures []
  recvReply ch VhostUserU64 hdr

def setProtocolFeatures (msg : VhostUserU64) : M τ Unit := do
  let _ ← sendMessage ch .setProtocolFeatures msg []

def getDisplayInfo : M τ VirtioGpuRespDisplayInfo := do
  let hdr ← sendHeader ch .getDisplayInfo []
  recvReply ch VirtioGpuRespDisplayInfo hdr

def getEdid (getEdid : VhostUserGpuEdidRequest) : M τ VirtioGpuRespGetEdid := do
  let hdr ← sendMessage ch .getEdid getEdid []
  recvReply ch VirtioGpuRespGetEdid hdr

def setScanout (scanout : VhostUserGpuScanout) : M τ Unit := do
  let _ ← sendMessage ch .scanout scanout []

def updateScanout (update : VhostUserGpuUpdate) (data : List UInt8) : M τ Unit := do
  let _ ← sendMessageWithPayload ch .update update data []

def setDmabufScanout (scanout : VhostUserGpuDMABUFScanout) (fd : Option File) : M τ Unit := do
  let _ ← sendMessage ch .dmabufScanout scanout fd.toList

def setDmabufScanout2 (scanout : VhostUserGpuDMABUFScanout2) (fd : Option File) : M τ Unit := do
  let _ ← sendMessage ch .dmabufScanout2 scanout fd.toList

def updateDmabufScanout (update : VhostUserGpuUpdate) : M τ Unit := do
  let hdr ← sendMessage ch .dmabufUpdate update []
  let _ ← recvReply ch VhostUserEmpty hdr

def cursorPos (cursorPos : VhostUserGpuCursorPos) : M τ Unit := do
  let _ ← sendMessage ch .cursorPos cursorPos []

def cursorPosHide (cursorPos : VhostUserGpuCursorPos) : M τ Unit := do
  let _ ← sendMessage ch .cursorPosHide cursorPos []

/-- `data` is a 64 by 64 image of four bytes a pixel. -/
def cursorUpdate (cursorUpdate : VhostUserGpuCursorUpdate) (data : Vector UInt8 (4 * 64 * 64)) : M τ Unit := do
  let _ ← sendMessageWithPayload ch .cursorUpdate cursorUpdate data.toList []

end

end GpuBackend

/-- One call of a `GpuBackend` method. -/
inductive GpuOp where
  | getProtocolFeatures
  | setProtocolFeatures (msg : VhostUserU64)
  | getDisplayInfo
  | getEdid (getEdid : VhostUserGpuEdidRequest)
  | setScanout (scanout : VhostUserGpuScanout)
  | updateScanout (update : VhostUserGpuUpdate) (data : List UInt8)
  | setDmabufScanout (scanout : VhostUserGpuDMABUFScanout) (fd : Option File)
  | setDmabufScanout2 (scanout : VhostUserGpuDMABUFScanout2) (fd : Option File)
  | updateDmabufScanout (update : VhostUserGpuUpdate)
  | cursorPos (cursorPos : VhostUserGpuCursorPos)
  | cursorPosHide (cursorPos : VhostUserGpuCursorPos)
  | cursorUpdate (cursorUpdate : VhostUserGpuCursorUpdate) (data : Vector UInt8 (4 * 64 * 64))

/-- The method; its value is dropped. -/
def GpuOp.run {τ : Type} (ch : Channel τ) : GpuOp → GpuBackend.M τ Unit
  | getProtocolFeatures => do let _ ← GpuBackend.getProtocolFeatures ch
  | setProtocolFeatures msg => GpuBackend.setProtocolFeatures ch msg
  | getDisplayInfo => do let _ ← GpuBackend.getDisplayInfo ch
  | getEdid req => do let _ ← GpuBackend.getEdid ch req
  | setScanout scanout => GpuBackend.setScanout ch scanout
  | updateScanout update data => GpuBackend.updateScanout ch update data
  | setDmabufScanout scanout fd => GpuBackend.setDmabufScanout ch scanout fd
  | setDmabufScanout2 scanout fd => GpuBackend.setDmabufScanout2 ch scanout fd
  | updateDmabufScanout update => GpuBackend.updateDmabufScanout ch update
  | cursorPos pos => GpuBackend.cursorPos ch pos
  | cursorPosHide pos => GpuBackend.cursorPosHide ch pos
  | cursorUpdate update data => GpuBackend.cursorUpdate ch update data

end VhostUser
