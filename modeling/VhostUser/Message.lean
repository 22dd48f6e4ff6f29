import VhostUser.Lib.Bytes
/-!
# Messages of the vhost-user protocol (`vhost/src/vhost_user/message.rs`, `mod.rs`)

| here | there |
| --- | --- |
| `FrontendReq`, `BackendReq`        | the two `enum_value!` request enumerations (`message.rs:75-205`) |
| `VhostUserMsgHeader`               | the 12-byte header, phantom in the request type (`message.rs:243-361`) |
| `VhostUserU64` … `VhostUserMMap`   | the message bodies and their `is_valid` (`message.rs:455-1062`), built without the `xen` feature |
| `Error`, `Error.fromErrno`         | `vhost_user::Error` and its conversion from a raw errno (`mod.rs:58-216`) |
| `takeSingleFile`                   | `take_single_file` (`mod.rs:226-235`) |

Numbers are in native byte order on the wire; the model writes them little-endian. A `File`
is the open file it refers to, so a descriptor passed over a socket is the same `File` on
both sides.
-/
namespace VhostUser
open Bytes

/-- An open file; two descriptors of one open file are the same `File`. -/
abbrev File := Nat

/-! ## Errors -/

inductive ErrorKind where
  | alreadyExists | notFound | invalidInput | invalidData | unsupported | wouldBlock | other
deriving DecidableEq, Repr

/-- `std::io::Error`: the kind and, for an error made from an errno, the errno. -/
structure IoError where
  kind : ErrorKind
  rawOsError : Option Int32
deriving DecidableEq, Repr

/-- `io::Error::other(e)` and `io::ErrorKind::k.into()`: no errno attached. -/
def IoError.ofKind (k : ErrorKind) : IoError := ⟨k, none⟩

inductive Errno where
  | EAGAIN | EWOULDBLOCK | EINTR | ENOBUFS | ENOMEM | ECONNRESET | EPIPE | EACCES
  | errno (e : Int32)
deriving DecidableEq, Repr

/-- `vhost_user::Error` (`mod.rs:58-107`); the `io::Error` carried by the socket variants is
the errno it was made from. -/
inductive Error where
  | invalidParam
  | invalidOperation (reason : String)
  | inactiveFeature (feat : UInt64)
  | inactiveOperation (feat : UInt64)
  | invalidMessage
  | invalidSocketFd (e : IoError)
  | notUnixSocket
  | notStreamSocket
  | partialMessage
  | disconnected
  | oversizedMsg
  | incorrectFds
  | socketConnect (e : Errno)
  | socketError (e : Errno)
  | socketBroken (e : Errno)
  | socketRetry (e : Errno)
  | backendInternalError
  | frontendInternalError
  | featureMismatch
  | reqHandlerError (e : IoError)
deriving DecidableEq, Repr

/-- `From<vmm_sys_util::errno::Error>` (`mod.rs:187-216`). -/
def Error.fromErrno : Errno → Error
  | .EAGAIN => .socketRetry .EAGAIN
  | .EWOULDBLOCK => .socketRetry .EWOULDBLOCK
  | .EINTR => .socketRetry .EINTR
  | .ENOBUFS => .socketRetry .ENOBUFS
  | .ENOMEM => .socketRetry .ENOMEM
  | .ECONNRESET => .socketBroken .ECONNRESET
  | .EPIPE => .socketBroken .EPIPE
  | .EACCES => .socketConnect .EACCES
  | .errno e => .socketError (.errno e)

def Error.isSocketRetry : Error → Bool
  | .socketRetry _ => true
  | _ => false

def takeSingleFile (files : Option (List File)) : Option File :=
  match files with
  | some [f] => some f
  | _ => none

/-! ## Constants -/

def maxMsgSize : Nat := 0x1000
def maxAttachedFdEntries : Nat := 32
def vhostUserConfigSize : UInt32 := 0x1000
def vhostUserMaxVrings : UInt64 := 0x8000

namespace VhostUserVirtioFeatures
def PROTOCOL_FEATURES : UInt64 := 0x40000000
end VhostUserVirtioFeatures

namespace VhostUserProtocolFeatures
def MQ : UInt64 := 0x1
def LOG_SHMFD : UInt64 := 0x2
def REPLY_ACK : UInt64 := 0x8
def BACKEND_REQ : UInt64 := 0x20
def PAGEFAULT : UInt64 := 0x100
def CONFIG : UInt64 := 0x200
def INFLIGHT_SHMFD : UInt64 := 0x1000
def RESET_DEVICE : UInt64 := 0x2000
def CONFIGURE_MEM_SLOTS : UInt64 := 0x8000
def SHARED_OBJECT : UInt64 := 0x40000
def DEVICE_STATE : UInt64 := 0x80000
def SHMEM : UInt64 := 0x400000
/-- `all()`: the 23 features the library has names for. -/
def ALL : UInt64 := 0x7fffff
end VhostUserProtocolFeatures

/-- `u64::checked_add`. -/
def checkedAdd (a b : UInt64) : Option UInt64 :=
  if a.toNat + b.toNat < 2 ^ 64 then some (a + b) else none

theorem checkedAdd_isSome {a b : UInt64} :
    (checkedAdd a b).isSome ↔ a.toNat + b.toNat < 2 ^ 64 := by
  unfold checkedAdd; split <;> simp_all

theorem eq_add_of_checkedAdd {a b c : UInt64} (h : checkedAdd a b = some c) : a + b = c := by
  unfold checkedAdd at h
  split at h
  · cases h
    rfl
  · cases h

/-! ## Requests -/

/-- The `Req` trait: a `u32` code and the checked conversion back. -/
class Req (R : Type) where
  toU32 : R → UInt32
  tryFrom : UInt32 → Option R
  tryFrom_toU32 : ∀ r, tryFrom (toU32 r) = some r

/-- Requests from the frontend to the backend. -/
inductive FrontendReq where
  | getFeatures | setFeatures | setOwner | resetOwner | setMemTable | setLogBase | setLogFd
  | setVringNum | setVringAddr | setVringBase | getVringBase | setVringKick | setVringCall
  | setVringErr | getProtocolFeatures | setProtocolFeatures | getQueueNum | setVringEnable
  | sendRarp | netSetMtu | setBackendReqFd | iotlbMsg | setVringEndian | getConfig | setConfig
  | createCryptoSession | closeCryptoSession | postcopyAdvise | postcopyListen | postcopyEnd
  | getInflightFd | setInflightFd | gpuSetSocket | resetDevice | vringKick | getMaxMemSlots
  | addMemReg | remMemReg | setStatus | getStatus | getSharedObject | setDeviceStateFd
  | checkDeviceState | getShmemConfig
deriving DecidableEq, Repr

namespace FrontendReq

/-- Every variant, in declaration order: the codes are `1, 2, …, 44`. -/
def all : List FrontendReq :=
  [getFeatures, setFeatures, setOwner, resetOwner, setMemTable, setLogBase, setLogFd,
   setVringNum, setVringAddr, setVringBase, getVringBase, setVringKick, setVringCall,
   setVringErr, getProtocolFeatures, setProtocolFeatures, getQueueNum, setVringEnable,
   sendRarp, netSetMtu, setBackendReqFd, iotlbMsg, setVringEndian, getConfig, setConfig,
   createCryptoSession, closeCryptoSession, postcopyAdvise, postcopyListen, postcopyEnd,
   getInflightFd, setInflightFd, gpuSetSocket, resetDevice, vringKick, getMaxMemSlots,
   addMemReg, remMemReg, setStatus, getStatus, getSharedObject, setDeviceStateFd,
   checkDeviceState, getShmemConfig]

def code (r : FrontendReq) : UInt32 := UInt32.ofNat (all.idxOf r + 1)

instance : Req FrontendReq where
  toU32 := code
  tryFrom v := all.find? fun r => r.code == v
  tryFrom_toU32 r := by cases r <;> decide

end FrontendReq

/-- Requests from the backend to the frontend. -/
inductive BackendReq where
  | iotlbMsg | configChangeMsg | vringHostNotifierMsg | vringCall | vringErr | sharedObjectAdd
  | sharedObjectRemove | sharedObjectLookup | shmemMap | shmemUnmap
deriving DecidableEq, Repr

namespace BackendReq

def all : List BackendReq :=
  [iotlbMsg, configChangeMsg, vringHostNotifierMsg, vringCall, vringErr, sharedObjectAdd,
   sharedObjectRemove, sharedObjectLookup, shmemMap, shmemUnmap]

def code (r : BackendReq) : UInt32 := UInt32.ofNat (all.idxOf r + 1)

instance : Req BackendReq where
  toU32 := code
  tryFrom v := all.find? fun r => r.code == v
  tryFrom_toU32 r := by cases r <;> decide

end BackendReq

/-! ## Header -/

namespace VhostUserHeaderFlag
def REPLY : UInt32 := 0x4
def NEED_REPLY : UInt32 := 0x8
def ALL_FLAGS : UInt32 := 0xc
def RESERVED_BITS : UInt32 := ~~~0xf
end VhostUserHeaderFlag

/-- `VhostUserMsgValidator`: syntax check of one message, `true` by default. -/
class VhostUserMsgValidator (T : Type) where
  isValid : T → Bool := fun _ => true

structure VhostUserMsgHeader (R : Type) where
  request : UInt32
  flags : UInt32
  size : UInt32
deriving DecidableEq, Repr

/-- The `MsgHeader` trait: what an `Endpoint` needs of its header type. -/
class MsgHeader (H : Type) extends ByteValued H, VhostUserMsgValidator H where
  maxMsgSize : Nat

theorem u32_or_and (a b c : UInt32) : (a ||| b) &&& c = (a &&& c) ||| (b &&& c) :=
  UInt32.toNat_inj.1 (by simp [Nat.and_or_distrib_right])

namespace VhostUserMsgHeader
variable {R : Type} [Req R]

/-- `Default`: protocol version 1, everything else zero. -/
instance : Inhabited (VhostUserMsgHeader R) := ⟨⟨0, 0x1, 0⟩⟩

def new (request : R) (flags size : UInt32) : VhostUserMsgHeader R :=
  ⟨Req.toU32 request, (flags &&& VhostUserHeaderFlag.ALL_FLAGS) ||| 0x1, size⟩

def getCode (h : VhostUserMsgHeader R) : Except Error R :=
  match Req.tryFrom h.request with
  | some r => .ok r
  | none => .error .invalidMessage

def getVersion (h : VhostUserMsgHeader R) : UInt32 := h.flags &&& 0x3
def isReply (h : VhostUserMsgHeader R) : Bool := (h.flags &&& VhostUserHeaderFlag.REPLY) != 0
def isNeedReply (h : VhostUserMsgHeader R) : Bool :=
  (h.flags &&& VhostUserHeaderFlag.NEED_REPLY) != 0
def getSize (h : VhostUserMsgHeader R) : UInt32 := h.size

def setNeedReply (h : VhostUserMsgHeader R) (needReply : Bool) : VhostUserMsgHeader R :=
  if needReply then { h with flags := h.flags ||| VhostUserHeaderFlag.NEED_REPLY }
  else { h with flags := h.flags &&& ~~~VhostUserHeaderFlag.NEED_REPLY }

/-- `self` is the reply to the request `req`. -/
def isReplyFor [DecidableEq R] (h req : VhostUserMsgHeader R) : Bool :=
  match h.getCode, req.getCode with
  | .ok code1, .ok code2 => h.isReply && !req.isReply && code1 == code2
  | _, _ => false

def isValid (h : VhostUserMsgHeader R) : Bool :=
  if h.getCode matches .error _ then false
  else if h.size.toNat > VhostUser.maxMsgSize then false
  else if h.getVersion != 0x1 then false
  else if (h.flags &&& VhostUserHeaderFlag.RESERVED_BITS) != 0 then false
  else true

instance : MsgHeader (VhostUserMsgHeader R) where
  size := 12
  asSlice h := u32le h.request ++ (u32le h.flags ++ u32le h.size)
  fromSlice bs := ⟨u32At 0 bs, u32At 4 bs, u32At 8 bs⟩
  length_asSlice h := by simp
  fromSlice_asSlice h rest := by simp [u32At_skip]
  isValid := isValid
  maxMsgSize := VhostUser.maxMsgSize

@[simp] theorem size_header : ByteValued.size (VhostUserMsgHeader R) = 12 := rfl

@[simp] theorem getCode_new (r : R) (f s : UInt32) : (new r f s).getCode = .ok r := by
  simp [new, getCode, Req.tryFrom_toU32]

@[simp] theorem getSize_new (r : R) (f s : UInt32) : (new r f s).getSize = s := rfl

theorem flags_new_and (r : R) (f s m : UInt32) :
    (new r f s).flags &&& m = (f &&& (VhostUserHeaderFlag.ALL_FLAGS &&& m)) ||| (0x1 &&& m) := by
  simp only [new, u32_or_and, UInt32.and_assoc]

theorem isReply_new (r : R) (f s : UInt32) :
    (new r f s).isReply = ((f &&& VhostUserHeaderFlag.REPLY) != 0) := by
  have hall : VhostUserHeaderFlag.ALL_FLAGS &&& VhostUserHeaderFlag.REPLY = VhostUserHeaderFlag.REPLY := rfl
  have hone : (0x1 : UInt32) &&& VhostUserHeaderFlag.REPLY = 0 := rfl
  rw [isReply, flags_new_and, hall, hone, UInt32.or_zero]

theorem isNeedReply_new (r : R) (f s : UInt32) :
    (new r f s).isNeedReply = ((f &&& VhostUserHeaderFlag.NEED_REPLY) != 0) := by
  have hall : VhostUserHeaderFlag.ALL_FLAGS &&& VhostUserHeaderFlag.NEED_REPLY = VhostUserHeaderFlag.NEED_REPLY := rfl
  have hone : (0x1 : UInt32) &&& VhostUserHeaderFlag.NEED_REPLY = 0 := rfl
  rw [isNeedReply, flags_new_and, hall, hone, UInt32.or_zero]

/-- A header flagged as a reply answers every request of its code. -/
theorem isReplyFor_new [DecidableEq R] (r : R) (f s f' s' : UInt32) :
    (new r f s).isReplyFor (new r f' s') =
      (((f &&& VhostUserHeaderFlag.REPLY) != 0) && !((f' &&& VhostUserHeaderFlag.REPLY) != 0)) := by
  simp only [isReplyFor, getCode_new, isReply_new, beq_self_eq_true, Bool.and_true]

@[simp] theorem getVersion_new (r : R) (f s : UInt32) : (new r f s).getVersion = 0x1 := by
  have hall : VhostUserHeaderFlag.ALL_FLAGS &&& (0x3 : UInt32) = 0 := rfl
  have hone : (0x1 : UInt32) &&& 0x3 = 0x1 := rfl
  rw [getVersion, flags_new_and, hall, hone, UInt32.and_zero, UInt32.zero_or]

theorem isValid_iff {h : VhostUserMsgHeader R} :
    h.isValid = true ↔ (∃ r, h.getCode = .ok r) ∧ h.size.toNat ≤ VhostUser.maxMsgSize ∧
      h.getVersion = 0x1 ∧ (h.flags &&& VhostUserHeaderFlag.RESERVED_BITS) = 0 := by
  unfold isValid
  cases hc : h.getCode with
  | error e => simp
  | ok r => simp

/-- A header made by `new` is valid as long as its size is in range. -/
theorem isValid_new (r : R) (f : UInt32) {s : UInt32} (hs : s.toNat ≤ VhostUser.maxMsgSize) :
    (new r f s).isValid = true := by
  have hall : VhostUserHeaderFlag.ALL_FLAGS &&& VhostUserHeaderFlag.RESERVED_BITS = 0 := rfl
  have hone : (0x1 : UInt32) &&& VhostUserHeaderFlag.RESERVED_BITS = 0 := rfl
  refine isValid_iff.2 ⟨⟨r, getCode_new r f s⟩, hs, getVersion_new r f s, ?_⟩
  rw [flags_new_and, hall, hone, UInt32.and_zero, UInt32.zero_or]

end VhostUserMsgHeader

/-! ## Bodies -/

/-- `bitflags::from_bits`: refused when a bit outside `all` is set. -/
def fromBits (all bits : UInt32) : Option UInt32 :=
  if bits &&& ~~~all = 0 then some bits else none

/-- An empty message. -/
structure VhostUserEmpty where
deriving DecidableEq, Repr, Inhabited

instance : ByteValued VhostUserEmpty where
  size := 0
  asSlice _ := []
  fromSlice _ := ⟨⟩
  length_asSlice _ := rfl
  fromSlice_asSlice _ _ := rfl

instance : VhostUserMsgValidator VhostUserEmpty where

structure VhostUserU64 where
  value : UInt64
deriving DecidableEq, Repr, Inhabited

instance : ByteValued VhostUserU64 where
  size := 8
  asSlice m := u64le m.value
  fromSlice bs := ⟨u64At 0 bs⟩
  length_asSlice m := by simp
  fromSlice_asSlice m rest := by simp

instance : VhostUserMsgValidator VhostUserU64 where

/-- Head of the `SET_MEM_TABLE` payload. -/
structure VhostUserMemory where
  numRegions : UInt32
  padding1 : UInt32
deriving DecidableEq, Repr, Inhabited

instance : ByteValued VhostUserMemory where
  size := 8
  asSlice m := u32le m.numRegions ++ u32le m.padding1
  fromSlice bs := ⟨u32At 0 bs, u32At 4 bs⟩
  length_asSlice m := by simp
  fromSlice_asSlice m rest := by simp [u32At_skip]

instance : VhostUserMsgValidator VhostUserMemory where
  isValid m :=
    if m.padding1 != 0 then false
    else if m.numRegions == 0 || m.numRegions.toNat > maxAttachedFdEntries then false
    else true

/-- One region record of `SET_MEM_TABLE`. -/
structure VhostUserMemoryRegion where
  guestPhysAddr : UInt64
  memorySize : UInt64
  userAddr : UInt64
  mmapOffset : UInt64
deriving DecidableEq, Repr, Inhabited

namespace VhostUserMemoryRegion

def isValidCommon (r : VhostUserMemoryRegion) : Bool :=
  r.memorySize != 0
    && (checkedAdd r.guestPhysAddr r.memorySize).isSome
    && (checkedAdd r.userAddr r.memorySize).isSome
    && (checkedAdd r.mmapOffset r.memorySize).isSome

instance : ByteValued VhostUserMemoryRegion where
  size := 32
  asSlice r := u64le r.guestPhysAddr ++ (u64le r.memorySize ++ (u64le r.userAddr ++ u64le r.mmapOffset))
  fromSlice bs := ⟨u64At 0 bs, u64At 8 bs, u64At 16 bs, u64At 24 bs⟩
  length_asSlice r := by simp
  fromSlice_asSlice r rest := by simp [u64At_skip]

instance : VhostUserMsgValidator VhostUserMemoryRegion where
  isValid := isValidCommon

theorem isValidCommon_iff {r : VhostUserMemoryRegion} :
    r.isValidCommon = true ↔ r.memorySize ≠ 0 ∧
      r.guestPhysAddr.toNat + r.memorySize.toNat < 2 ^ 64 ∧
      r.userAddr.toNat + r.memorySize.toNat < 2 ^ 64 ∧
      r.mmapOffset.toNat + r.memorySize.toNat < 2 ^ 64 := by
  simp only [isValidCommon, Bool.and_eq_true, checkedAdd_isSome, bne_iff_ne, ne_eq, and_assoc]

end VhostUserMemoryRegion

/-- Payload of `ADD_MEM_REG` and `REM_MEM_REG`. It derefs to its region, but its own
`VhostUserMsgValidator` is the default one (`message.rs:696`). -/
structure VhostUserSingleMemoryRegion where
  padding : UInt64
  region : VhostUserMemoryRegion
deriving DecidableEq, Repr, Inhabited

instance : ByteValued VhostUserSingleMemoryRegion where
  size := 40
  asSlice m := u64le m.padding ++ ByteValued.asSlice m.region
  fromSlice bs := ⟨u64At 0 bs, ByteValued.fromSlice (bs.drop 8)⟩
  length_asSlice m := by simp [ByteValued.size]
  fromSlice_asSlice m rest := by simp

instance : VhostUserMsgValidator VhostUserSingleMemoryRegion where

/-- Shared memory regions configuration, 256 sizes. -/
structure VhostUserShMemConfig where
  nregions : UInt32
  padding : UInt32
  memorySizes : Vector UInt64 256
deriving DecidableEq, Inhabited

instance : ByteValued VhostUserShMemConfig where
  size := 2056
  asSlice m := u32le m.nregions ++ (u32le m.padding ++ m.memorySizes.toList.flatMap u64le)
  fromSlice bs := ⟨u32At 0 bs, u32At 4 bs, Vector.ofFn fun i => u64At (8 * i) (bs.drop 8)⟩
  length_asSlice m := by
    rw [List.length_append, List.length_append, length_flatMap_u64le, Vector.length_toList]
    simp
  fromSlice_asSlice m rest := by
    obtain ⟨n, p, v⟩ := m
    have hn : u32At 0 (u32le n ++ (u32le p ++ (v.toList.flatMap u64le ++ rest))) = n := by simp
    have hp : u32At 4 (u32le n ++ (u32le p ++ (v.toList.flatMap u64le ++ rest))) = p := by
      rw [u32At_skip (by simp)]; simp
    have hv : (u32le n ++ (u32le p ++ (v.toList.flatMap u64le ++ rest))).drop 8
        = v.toList.flatMap u64le ++ rest := by
      rw [drop_skip (by simp), drop_skip (by simp), length_u32le, length_u32le]; rfl
    simp only [List.append_assoc, hn, hp, hv, VhostUserShMemConfig.mk.injEq, true_and]
    apply Vector.ext
    intro i hi
    rw [Vector.getElem_ofFn, u64At_flatMap _ _ _ (by simpa using hi), Vector.getElem_toList]

instance : VhostUserMsgValidator VhostUserShMemConfig where

/-- Vring index and one 32-bit value. -/
structure VhostUserVringState where
  index : UInt32
  num : UInt32
deriving DecidableEq, Repr, Inhabited

instance : ByteValued VhostUserVringState where
  size := 8
  asSlice m := u32le m.index ++ u32le m.num
  fromSlice bs := ⟨u32At 0 bs, u32At 4 bs⟩
  length_asSlice m := by simp
  fromSlice_asSlice m rest := by simp [u32At_skip]

instance : VhostUserMsgValidator VhostUserVringState where

/-- `VhostUserVringAddrFlags::all()`. -/
def vhostUserVringAddrFlagsAll : UInt32 := 0x1

structure VhostUserVringAddr where
  index : UInt32
  flags : UInt32
  descriptor : UInt64
  used : UInt64
  available : UInt64
  log : UInt64
deriving DecidableEq, Repr, Inhabited

instance : ByteValued VhostUserVringAddr where
  size := 40
  asSlice m := u32le m.index ++ (u32le m.flags ++ (u64le m.descriptor ++ (u64le m.used ++
    (u64le m.available ++ u64le m.log))))
  fromSlice bs := ⟨u32At 0 bs, u32At 4 bs, u64At 8 bs, u64At 16 bs, u64At 24 bs, u64At 32 bs⟩
  length_asSlice m := by simp
  fromSlice_asSlice m rest := by simp [u32At_skip, u64At_skip]

instance : VhostUserMsgValidator VhostUserVringAddr where
  isValid m :=
    if (m.flags &&& ~~~vhostUserVringAddrFlagsAll) != 0 then false
    else if m.descriptor &&& 0xf != 0 then false
    else if m.available &&& 0x1 != 0 then false
    else if m.used &&& 0x3 != 0 then false
    else true

/-- `VhostUserConfigFlags::all()`: `WRITABLE | LIVE_MIGRATION`. -/
def vhostUserConfigFlagsAll : UInt32 := 0x3

structure VhostUserConfig where
  offset : UInt32
  size : UInt32
  flags : UInt32
deriving DecidableEq, Repr, Inhabited

instance : ByteValued VhostUserConfig where
  size := 12
  asSlice m := u32le m.offset ++ (u32le m.size ++ u32le m.flags)
  fromSlice bs := ⟨u32At 0 bs, u32At 4 bs, u32At 8 bs⟩
  length_asSlice m := by simp
  fromSlice_asSlice m rest := by simp [u32At_skip]

instance : VhostUserMsgValidator VhostUserConfig where
  isValid m :=
    -- `size.checked_add(offset)`, a u32 addition
    if m.size.toNat + m.offset.toNat ≥ 2 ^ 32 then false
    else if (m.flags &&& ~~~vhostUserConfigFlagsAll) != 0 then false
    else if m.size == 0 || m.size + m.offset > vhostUserConfigSize then false
    else true

/-- 20 bytes of fields, padded to 24 by `repr(C)`. -/
structure VhostUserInflight where
  mmapSize : UInt64
  mmapOffset : UInt64
  numQueues : UInt16
  queueSize : UInt16
deriving DecidableEq, Repr, Inhabited

instance : ByteValued VhostUserInflight where
  size := 24
  asSlice m := u64le m.mmapSize ++ (u64le m.mmapOffset ++ (u16le m.numQueues ++
    (u16le m.queueSize ++ toLE 4 0)))
  fromSlice bs := ⟨u64At 0 bs, u64At 8 bs, u16At 16 bs, u16At 18 bs⟩
  length_asSlice m := by simp
  fromSlice_asSlice m rest := by simp [u64At_skip, u16At_skip]

instance : VhostUserMsgValidator VhostUserInflight where
  isValid m := if m.numQueues == 0 || m.queueSize == 0 then false else true

/-- Payload of `SET_LOG_BASE`. -/
structure VhostUserLog where
  mmapSize : UInt64
  mmapOffset : UInt64
deriving DecidableEq, Repr, Inhabited

instance : ByteValued VhostUserLog where
  size := 16
  asSlice m := u64le m.mmapSize ++ u64le m.mmapOffset
  fromSlice bs := ⟨u64At 0 bs, u64At 8 bs⟩
  length_asSlice m := by simp
  fromSlice_asSlice m rest := by simp [u64At_skip]

instance : VhostUserMsgValidator VhostUserLog where
  isValid m :=
    if m.mmapSize == 0 || (checkedAdd m.mmapOffset m.mmapSize).isNone then false else true

inductive VhostTransferStateDirection where
  | save | load
deriving DecidableEq, Repr

def VhostTransferStateDirection.code : VhostTransferStateDirection → UInt32
  | save => 0
  | load => 1

def VhostTransferStateDirection.tryFrom (v : UInt32) : Option VhostTransferStateDirection :=
  if v == 0 then some .save else if v == 1 then some .load else none

inductive VhostTransferStatePhase where
  | stopped
deriving DecidableEq, Repr

def VhostTransferStatePhase.code : VhostTransferStatePhase → UInt32
  | stopped => 0

def VhostTransferStatePhase.tryFrom (v : UInt32) : Option VhostTransferStatePhase :=
  if v == 0 then some .stopped else none

/-- A 16-byte UUID. -/
structure VhostUserSharedMsg where
  uuid : BitVec 128
deriving DecidableEq, Repr, Inhabited

instance : ByteValued VhostUserSharedMsg where
  size := 16
  asSlice m := toLE 16 m.uuid.toNat
  fromSlice bs := ⟨BitVec.ofNat 128 (readLE 16 bs)⟩
  length_asSlice m := by simp
  fromSlice_asSlice m rest := by
    have h : m.uuid.toNat < 256 ^ 16 := m.uuid.isLt
    rw [readLE_toLE h, BitVec.ofNat_toNat, BitVec.setWidth_eq]

instance : VhostUserMsgValidator VhostUserSharedMsg where
  isValid m := !(m.uuid == 0 || m.uuid == BitVec.allOnes 128)

structure VhostUserTransferDeviceState where
  direction : UInt32
  phase : UInt32
deriving DecidableEq, Repr, Inhabited

instance : ByteValued VhostUserTransferDeviceState where
  size := 8
  asSlice m := u32le m.direction ++ u32le m.phase
  fromSlice bs := ⟨u32At 0 bs, u32At 4 bs⟩
  length_asSlice m := by simp
  fromSlice_asSlice m rest := by simp [u32At_skip]

instance : VhostUserMsgValidator VhostUserTransferDeviceState where
  isValid m := (VhostTransferStateDirection.tryFrom m.direction).isSome
    && (VhostTransferStatePhase.tryFrom m.phase).isSome

/-- Backend request to map a file into a shared memory region. -/
structure VhostUserMMap where
  shmid : UInt8
  padding : BitVec 56
  fdOffset : UInt64
  shmOffset : UInt64
  len : UInt64
  flags : UInt64
deriving DecidableEq, Repr, Inhabited

instance : ByteValued VhostUserMMap where
  size := 40
  asSlice m := u8le m.shmid ++ (toLE 7 m.padding.toNat ++ (u64le m.fdOffset ++ (u64le m.shmOffset ++
    (u64le m.len ++ u64le m.flags))))
  fromSlice bs := ⟨u8At 0 bs, BitVec.ofNat 56 (readLE 7 (bs.drop 1)), u64At 8 bs, u64At 16 bs,
    u64At 24 bs, u64At 32 bs⟩
  length_asSlice m := by simp
  fromSlice_asSlice m rest := by
    have h : m.padding.toNat < 256 ^ 7 := m.padding.isLt
    simp [u64At_skip, readLE_toLE h]

instance : VhostUserMsgValidator VhostUserMMap where
  isValid m :=
    (checkedAdd m.fdOffset m.len).isSome && (checkedAdd m.shmOffset m.len).isSome
      && m.len != 0 && (m.flags &&& ~~~1) == 0

end VhostUser
