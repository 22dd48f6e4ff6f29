import Mathlib.Data.List.Forall2
import VhostUser.VhostMemory
/-!
# IOTLB messages of the in-kernel backends (`vhost/src/vhost_kern/mod.rs`, `vdpa.rs`)

A mapping is announced to the kernel by writing a `vhost_msg` to the device, or a `vhost_msg_v2` where the
backend feature for it was acknowledged; messages from the kernel are read by the parser of their version.
Whatever a handle is used for, and whichever calls fail, what it has written is the messages that were sent,
one after the other, each readable by one parser only (`iotlb_stream_reads`).

| here | there |
| --- | --- |
| `VhostAccess`, `VhostIotlbType`, `VhostIotlbMsg` | `backend.rs:157-207` |
| `VhostIotlbMsgRaw`, `VhostMsg`, `VhostMsgV2` | the `repr(C)` types of `vhost_binding.rs:166-240`; their padding is zero |
| `VhostMsg.parse`, `VhostMsgV2.parse` | `VhostIotlbMsgParser` (`mod.rs:395-442`); `none` is a `transmute` of no variant |
| `VhostKern`         | a handle: the acknowledged backend features, and **ghost** what was written |
| `sendIotlbMsg`, `setBackendFeatures` | `mod.rs:344-392`, `:326-335` |
| `dmaMap`, `dmaUnmap` | `vdpa.rs:278-302` |
-/
namespace VhostUser
open Bytes

/-! ## Messages -/

inductive VhostAccess where
  | no | readOnly | writeOnly | readWrite
deriving DecidableEq, Repr

inductive VhostIotlbType where
  | empty | miss | update | invalidate | accessFail | batchBegin | batchEnd
deriving DecidableEq, Repr

namespace VhostAccess

def toU8 : VhostAccess → UInt8
  | no => 0 | readOnly => 1 | writeOnly => 2 | readWrite => 3

def transmute (b : UInt8) : Option VhostAccess :=
  [no, readOnly, writeOnly, readWrite][b.toNat]?

theorem transmute_toU8 (a : VhostAccess) : transmute a.toU8 = some a := by cases a <;> rfl

end VhostAccess

namespace VhostIotlbType

def toU8 : VhostIotlbType → UInt8
  | empty => 0 | miss => 1 | update => 2 | invalidate => 3 | accessFail => 4 | batchBegin => 5 | batchEnd => 6

def transmute (b : UInt8) : Option VhostIotlbType :=
  [empty, miss, update, invalidate, accessFail, batchBegin, batchEnd][b.toNat]?

theorem transmute_toU8 (t : VhostIotlbType) : transmute t.toU8 = some t := by cases t <;> rfl

theorem toU8_eq_zero {t : VhostIotlbType} : t.toU8 = 0 ↔ t = empty := by cases t <;> decide

end VhostIotlbType

structure VhostIotlbMsg where
  iova : UInt64
  size : UInt64
  userspaceAddr : UInt64
  perm : VhostAccess
  msgType : VhostIotlbType
deriving DecidableEq, Repr

structure VhostIotlbMsgRaw where
  iova : UInt64
  size : UInt64
  uaddr : UInt64
  perm : UInt8
  type : UInt8
deriving DecidableEq, Repr

instance : ByteValued VhostIotlbMsgRaw where
  size := 32
  asSlice r :=
    u64le r.iova ++ (u64le r.size ++ (u64le r.uaddr ++ (u8le r.perm ++ (u8le r.type ++ List.replicate 6 0))))
  fromSlice bs := ⟨u64At 0 bs, u64At 8 bs, u64At 16 bs, u8At 24 bs, u8At 25 bs⟩
  length_asSlice r := by simp
  fromSlice_asSlice r rest := by simp [u64At_skip, u8At_skip]

/-- The union is as long as 64 bytes. -/
def unionOf (r : VhostIotlbMsgRaw) : List UInt8 := ByteValued.asSlice r ++ List.replicate 32 0

/-- The type is a `c_int`, here its bits. -/
structure VhostMsg where
  type : UInt32
  iotlb : VhostIotlbMsgRaw
deriving DecidableEq, Repr

structure VhostMsgV2 where
  type : UInt32
  reserved : UInt32
  iotlb : VhostIotlbMsgRaw
deriving DecidableEq, Repr

theorem length_unionOf (r : VhostIotlbMsgRaw) : (unionOf r).length = 64 := by
  rw [unionOf, List.length_append, ByteValued.length_asSlice, List.length_replicate]
  rfl

instance : ByteValued VhostMsg where
  size := 72
  asSlice m := u32le m.type ++ (List.replicate 4 0 ++ unionOf m.iotlb)
  fromSlice bs := ⟨u32At 0 bs, ByteValued.fromSlice (bs.drop 8)⟩
  length_asSlice m := by simp [length_unionOf]
  fromSlice_asSlice m rest := by simp [unionOf, drop_skip]

instance : ByteValued VhostMsgV2 where
  size := 72
  asSlice m := u32le m.type ++ (u32le m.reserved ++ unionOf m.iotlb)
  fromSlice bs := ⟨u32At 0 bs, u32At 4 bs, ByteValued.fromSlice (bs.drop 8)⟩
  length_asSlice m := by simp [length_unionOf]
  fromSlice_asSlice m rest := by simp [unionOf, drop_skip, u32At_skip]

/-! ## The parsers -/

/-- The variants of `vhost::Error` that appear here. -/
inductive IotlbError where
  | invalidIotlbMsg
  | ioctlError (e : IoError)
  | ioError (e : IoError)
deriving DecidableEq, Repr

def VHOST_IOTLB_MSG : UInt32 := 1
def VHOST_IOTLB_MSG_V2 : UInt32 := 2
def VHOST_BACKEND_F_IOTLB_MSG_V2 : UInt64 := 1

/-- Both parsers, once they have seen the type of the message. -/
def VhostIotlbMsgRaw.parse (r : VhostIotlbMsgRaw) (msg : VhostIotlbMsg) :
    Option (Except IotlbError Unit × VhostIotlbMsg) :=
  if r.type = 0 then some (.error .invalidIotlbMsg, msg)
  else match VhostAccess.transmute r.perm, VhostIotlbType.transmute r.type with
    | some perm, some msgType => some (.ok (), ⟨r.iova, r.size, r.uaddr, perm, msgType⟩)
    | _, _ => none

def VhostMsg.parse (m : VhostMsg) (msg : VhostIotlbMsg) : Option (Except IotlbError Unit × VhostIotlbMsg) :=
  if m.type ≠ VHOST_IOTLB_MSG then some (.error .invalidIotlbMsg, msg) else m.iotlb.parse msg

def VhostMsgV2.parse (m : VhostMsgV2) (msg : VhostIotlbMsg) : Option (Except IotlbError Unit × VhostIotlbMsg) :=
  if m.type ≠ VHOST_IOTLB_MSG_V2 then some (.error .invalidIotlbMsg, msg) else m.iotlb.parse msg

/-! ## Sending -/

def VhostIotlbMsg.toRaw (msg : VhostIotlbMsg) : VhostIotlbMsgRaw :=
  ⟨msg.iova, msg.size, msg.userspaceAddr, msg.perm.toU8, msg.msgType.toU8⟩

/-- Is the second version of the messages in use? -/
def usesV2 (backendFeatures : UInt64) : Bool := backendFeatures &&& (1 <<< VHOST_BACKEND_F_IOTLB_MSG_V2) != 0

structure VhostKern where
  backendFeaturesAcked : UInt64
  written : List UInt8
deriving DecidableEq

namespace VhostKern

/-- The device takes a message whole or fails. -/
def sendIotlbMsg (k : VhostKern) (msg : VhostIotlbMsg) (write : Except IoError Unit) : Except IotlbError Unit × VhostKern :=
  let bytes :=
    if usesV2 k.backendFeaturesAcked then ByteValued.asSlice (⟨VHOST_IOTLB_MSG_V2, 0, msg.toRaw⟩ : VhostMsgV2)
    else ByteValued.asSlice (⟨VHOST_IOTLB_MSG, msg.toRaw⟩ : VhostMsg)
  match write with
  | .error e => (.error (.ioError e), k)
  | .ok () => (.ok (), { k with written := k.written ++ bytes })

def setBackendFeatures (k : VhostKern) (features : UInt64) (ioctl : Except IoError Unit) :
    Except IotlbError Unit × VhostKern :=
  match ioctl with
  | .error e => (.error (.ioctlError e), k)
  | .ok () => (.ok (), { k with backendFeaturesAcked := features })

def mapping (iova size vaddr : UInt64) (readonly : Bool) : VhostIotlbMsg :=
  ⟨iova, size, vaddr, if readonly then .readOnly else .readWrite, .update⟩

def unmapping (iova size : UInt64) : VhostIotlbMsg := ⟨iova, size, 0, .no, .invalidate⟩

def dmaMap (k : VhostKern) (iova size vaddr : UInt64) (readonly : Bool) (write : Except IoError Unit) :
    Except IotlbError Unit × VhostKern :=
  k.sendIotlbMsg (mapping iova size vaddr readonly) write

def dmaUnmap (k : VhostKern) (iova size : UInt64) (write : Except IoError Unit) : Except IotlbError Unit × VhostKern :=
  k.sendIotlbMsg (unmapping iova size) write

/-! ## Runs -/

/-- A call, with what the kernel answers. -/
inductive Op where
  | setBackendFeatures (features : UInt64) (ioctl : Except IoError Unit)
  | sendIotlbMsg (msg : VhostIotlbMsg) (write : Except IoError Unit)
  | dmaMap (iova size vaddr : UInt64) (readonly : Bool) (write : Except IoError Unit)
  | dmaUnmap (iova size : UInt64) (write : Except IoError Unit)

def call (k : VhostKern) : Op → Except IotlbError Unit × VhostKern
  | .setBackendFeatures features ioctl => k.setBackendFeatures features ioctl
  | .sendIotlbMsg msg write => k.sendIotlbMsg msg write
  | .dmaMap iova size vaddr readonly write => k.dmaMap iova size vaddr readonly write
  | .dmaUnmap iova size write => k.dmaUnmap iova size write

def run (k : VhostKern) (ops : List Op) : VhostKern := ops.foldl (fun k op => (k.call op).2) k

/-- The message a call is to send. -/
def Op.msg? : Op → Option VhostIotlbMsg
  | setBackendFeatures _ _ => none
  | sendIotlbMsg msg _ => some msg
  | dmaMap iova size vaddr readonly _ => some (mapping iova size vaddr readonly)
  | dmaUnmap iova size _ => some (unmapping iova size)

/-- The kernel's answer. -/
def Op.answer : Op → Except IoError Unit
  | setBackendFeatures _ ioctl => ioctl
  | sendIotlbMsg _ write | dmaMap _ _ _ _ write | dmaUnmap _ _ write => write

/-- What was to be written: the messages whose call succeeded, in the version acknowledged last. -/
def sent : UInt64 → List Op → List (Bool × VhostIotlbMsg)
  | _, [] => []
  | acked, op :: ops =>
    match op.answer, op with
    | .error _, _ => sent acked ops
    | .ok (), .setBackendFeatures features _ => sent features ops
    | .ok (), op => op.msg?.toList.map (fun msg => (usesV2 acked, msg)) ++ sent acked ops

/-- What a parser makes of the message: it is read as it was sent, unless it has no type. -/
def reading (sentMsg msg : VhostIotlbMsg) : Option (Except IotlbError Unit × VhostIotlbMsg) :=
  if sentMsg.msgType = .empty then some (.error .invalidIotlbMsg, msg) else some (.ok (), sentMsg)

/-- The 72 bytes are the message for the parser of its version, and refused by the other one. -/
structure Reads (s : Bool × VhostIotlbMsg) (frame : List UInt8) : Prop where
  length : frame.length = 72
  v1 : ∀ msg, (ByteValued.fromSlice frame : VhostMsg).parse msg =
    if s.1 then some (.error .invalidIotlbMsg, msg) else reading s.2 msg
  v2 : ∀ msg, (ByteValued.fromSlice frame : VhostMsgV2).parse msg =
    if s.1 then reading s.2 msg else some (.error .invalidIotlbMsg, msg)

theorem parse_toRaw (sentMsg msg : VhostIotlbMsg) : sentMsg.toRaw.parse msg = reading sentMsg msg := by
  unfold VhostIotlbMsgRaw.parse reading VhostIotlbMsg.toRaw
  simp only [VhostIotlbType.toU8_eq_zero, VhostAccess.transmute_toU8, VhostIotlbType.transmute_toU8]

/-- The two messages begin alike. -/
theorem reads_frame (v2 : Bool) (msg : VhostIotlbMsg) :
    Reads (v2, msg) (if v2 then ByteValued.asSlice (⟨VHOST_IOTLB_MSG_V2, 0, msg.toRaw⟩ : VhostMsgV2)
      else ByteValued.asSlice (⟨VHOST_IOTLB_MSG, msg.toRaw⟩ : VhostMsg)) := by
  cases v2 with
  | true =>
    refine ⟨ByteValued.length_asSlice (⟨VHOST_IOTLB_MSG_V2, 0, msg.toRaw⟩ : VhostMsgV2), fun m => ?_, fun m => ?_⟩
    · have htype : (ByteValued.fromSlice (ByteValued.asSlice (⟨VHOST_IOTLB_MSG_V2, 0, msg.toRaw⟩ : VhostMsgV2)) :
          VhostMsg).type = VHOST_IOTLB_MSG_V2 := u32At_here _ _
      simp only [if_true, VhostMsg.parse, htype]
      rfl
    · simp only [if_true, fromSlice_asSlice_nil, VhostMsgV2.parse]
      exact parse_toRaw msg m
  | false =>
    refine ⟨ByteValued.length_asSlice (⟨VHOST_IOTLB_MSG, msg.toRaw⟩ : VhostMsg), fun m => ?_, fun m => ?_⟩
    · simp only [Bool.false_eq_true, if_false, fromSlice_asSlice_nil, VhostMsg.parse]
      exact parse_toRaw msg m
    · have htype : (ByteValued.fromSlice (ByteValued.asSlice (⟨VHOST_IOTLB_MSG, msg.toRaw⟩ : VhostMsg)) :
          VhostMsgV2).type = VHOST_IOTLB_MSG := u32At_here _ _
      simp only [Bool.false_eq_true, if_false, VhostMsgV2.parse, htype]
      rfl

/-- One call writes the message it is to send, if it has one and succeeds. -/
theorem call_sent (k : VhostKern) (op : Op) (ops : List Op) : ∃ frames,
    (k.call op).2.written = k.written ++ frames.flatten ∧
      ∃ now, List.Forall₂ Reads now frames ∧ sent k.backendFeaturesAcked (op :: ops) =
        now ++ sent (k.call op).2.backendFeaturesAcked ops := by
  have hsend (msg : VhostIotlbMsg) := reads_frame (usesV2 k.backendFeaturesAcked) msg
  cases op with
  | setBackendFeatures features ioctl =>
    refine ⟨[], ?_, [], .nil, ?_⟩
    · cases ioctl <;> exact (List.append_nil _).symm
    · cases ioctl <;> rfl
  | sendIotlbMsg msg write | dmaMap iova size vaddr readonly write | dmaUnmap iova size write =>
    cases write with
    | error e => exact ⟨[], (List.append_nil _).symm, [], .nil, rfl⟩
    | ok u => exact ⟨[_], by rw [List.flatten_singleton]; rfl, [_], .cons (hsend _) .nil, rfl⟩

/-- **What is written can be read back.** Whatever a handle is used for, with calls failing or not and the features
changing in between, the device was given the messages of the calls that succeeded, one after the other, each
in 72 bytes that the parser of its version reads as it was sent and the other parser refuses. -/
theorem iotlb_stream_reads (k : VhostKern) (ops : List Op) : ∃ frames,
    (k.run ops).written = k.written ++ frames.flatten ∧
      List.Forall₂ Reads (sent k.backendFeaturesAcked ops) frames := by
  induction ops generalizing k with
  | nil => exact ⟨[], (List.append_nil _).symm, .nil⟩
  | cons op ops ih =>
    obtain ⟨frames, hwritten, now, hnow, hsent⟩ := call_sent k op ops
    obtain ⟨rest, hwritten', hrest⟩ := ih (k.call op).2
    refine ⟨frames ++ rest, ?_, hsent ▸ List.rel_append hnow hrest⟩
    rw [List.flatten_append, ← List.append_assoc, ← hwritten]
    exact hwritten'

end VhostKern

end VhostUser
