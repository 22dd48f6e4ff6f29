import VhostUser.Lib.Scatter
import VhostUser.Message
/-!
# `Endpoint` over a Unix stream socket (`vhost/src/vhost_user/connection.rs`)

| here | there |
| --- | --- |
| `Io`, `Cell`, `Write`, `RxSock` | **kernel boundary**: what `send_with_fds` / `recv_with_fds` of vmm-sys-util answer, one `Io` per call |
| `getSubIovsOffset`       | `get_sub_iovs_offset` (`:602-620`) |
| `sendIovecAll`           | `Endpoint::send_iovec_all` (`:156-182`) |
| `sendHeader` `sendMessage` `sendMessageWithPayload` | the three message senders (`:203-280`) |
| `recvData`               | `Endpoint::recv_data` (`:282-298`): one receive, no descriptors |
| `recvIntoIovecAll`       | `Endpoint::recv_into_iovec_all` (`:372-413`) |
| `recvHeader` `recvBody` `recvPayloadIntoBuf` | the message receivers (`:437-593`) |

The socket is a schedule: the list of what its next calls will answer. A loop that has used up
the schedule is still waiting (`Outcome.blocked`); an index or slice out of range and a
subtraction below zero are a `panic`. A descriptor list travels with the first byte of the write that carries it.
-/
namespace VhostUser
open Bytes Scatter

/-- Answer of the kernel to one `sendmsg` / `recvmsg`: at most this many bytes, or an errno. -/
inductive Io where
  | bytes (n : Nat)
  | errno (e : Errno)
deriving DecidableEq, Repr

/-- One byte in flight and the descriptors attached to it. -/
structure Cell where
  byte : UInt8
  fds : List File
deriving DecidableEq, Repr

/-- One accepted `sendmsg`. -/
structure Write where
  bytes : List UInt8
  fds : List File
deriving DecidableEq, Repr

/-- The descriptors ride on the first byte. -/
def cells : List UInt8 → List File → List Cell
  | [], _ => []
  | b :: bs, fds => ⟨b, fds⟩ :: bs.map fun b => ⟨b, []⟩

theorem map_byte_cells (bs : List UInt8) (fds : List File) : (cells bs fds).map Cell.byte = bs := by
  cases bs with
  | nil => rfl
  | cons b bs => simp [cells, Function.comp_def]

theorem length_cells (bs : List UInt8) (fds : List File) : (cells bs fds).length = bs.length := by
  rw [← List.length_map Cell.byte, map_byte_cells]

def Write.cells (w : Write) : List Cell := VhostUser.cells w.bytes w.fds

/-- How a call ended: not yet, by a panic, or with a value. -/
inductive Outcome (α : Type) where
  | blocked
  | panic
  | ret (a : α)
deriving DecidableEq, Repr

def Outcome.map {α β : Type} (f : α → β) : Outcome α → Outcome β
  | .blocked => .blocked
  | .panic => .panic
  | .ret a => .ret (f a)

def getSubIovsOffset (iovLens : List Nat) (skipSize : Nat) : Nat × Nat := locate iovLens skipSize

/-! ## Sending -/

/-- Top of the send loop: done, out of range, or the buffers to hand to `sendmsg`. -/
inductive SendHead where
  | finished
  | panic
  | data (bufs : List (List UInt8))

def sendHead (iovs : List (List UInt8)) (dataSent : Nat) : SendHead :=
  let iovLens := iovs.map List.length
  let dataTotal := iovLens.sum
  if dataTotal < dataSent then .panic
  else if dataTotal - dataSent > 0 then
    let (nrSkip, offset) := getSubIovsOffset iovLens dataSent
    match iovs[nrSkip]? with
    | none => .panic
    | some iov => if offset ≤ iov.length then .data (iov.drop offset :: iovs.drop (nrSkip + 1)) else .panic
  else .finished

/-- The `while` of `send_iovec_all`; `dataSent` bytes are out, `writes` are the accepted calls. -/
def sendLoop (iovs : List (List UInt8)) (fds : List File) (sched : List Io) (dataSent : Nat)
    (writes : List Write) : Outcome (Except Error Nat × List Write) :=
  match sendHead iovs dataSent with
  | .finished => .ret (.ok dataSent, writes)
  | .panic => .panic
  | .data bufs =>
    let sfds := if dataSent = 0 then fds else []
    match sched with
    | [] => .blocked
    | .bytes n :: sched =>
      let chunk := bufs.flatten.take n
      if chunk.length = 0 then .ret (.ok dataSent, writes)
      else sendLoop iovs fds sched (dataSent + chunk.length) (writes ++ [⟨chunk, sfds⟩])
    | .errno e :: sched =>
      if (Error.fromErrno e).isSocketRetry then sendLoop iovs fds sched dataSent writes
      else .ret (.error (Error.fromErrno e), writes)
termination_by structural sched

/-- `fds` is `Option<&[RawFd]>` in the source, with `None` sent as no descriptors. -/
def sendIovecAll (iovs : List (List UInt8)) (fds : List File) (sched : List Io) :
    Outcome (Except Error Nat × List Write) :=
  sendLoop iovs fds sched 0 []

variable {H : Type} [MsgHeader H] [Inhabited H] {T : Type} [ByteValued T] [VhostUserMsgValidator T]
  [Inhabited T]

/-- The byte-count check every sender ends with. -/
def checkSent (total : Nat) (r : Except Error Nat × List Write) : Except Error Unit × List Write :=
  match r.1 with
  | .error e => (.error e, r.2)
  | .ok bytes => (if bytes ≠ total then .error .partialMessage else .ok (), r.2)

def sendHeader (hdr : H) (fds : List File) (sched : List Io) :
    Outcome (Except Error Unit × List Write) :=
  (sendIovecAll [ByteValued.asSlice hdr] fds sched).map (checkSent (ByteValued.size H))

def sendMessage (hdr : H) (body : T) (fds : List File) (sched : List Io) :
    Outcome (Except Error Unit × List Write) :=
  if ByteValued.size T > MsgHeader.maxMsgSize H then .ret (.error .oversizedMsg, [])
  else (sendIovecAll [ByteValued.asSlice hdr, ByteValued.asSlice body] fds sched).map
    (checkSent (ByteValued.size H + ByteValued.size T))

def sendMessageWithPayload (hdr : H) (body : T) (payload : List UInt8) (fds : List File)
    (sched : List Io) : Outcome (Except Error Unit × List Write) :=
  if ByteValued.size T > MsgHeader.maxMsgSize H then .ret (.error .oversizedMsg, [])
  else if payload.length > MsgHeader.maxMsgSize H - ByteValued.size T then
    .ret (.error .oversizedMsg, [])
  else if fds.length > maxAttachedFdEntries then .ret (.error .incorrectFds, [])
  else (sendIovecAll [ByteValued.asSlice hdr, ByteValued.asSlice body, payload] fds sched).map
    (checkSent (ByteValued.size H + ByteValued.size T + payload.length))

/-! ## Receiving -/

/-- A receiving socket: bytes in flight, what the next calls answer, and the errno
vmm-sys-util reports when descriptors do not fit the caller's array. -/
structure RxSock where
  stream : List Cell
  sched : List Io
  truncErr : Errno
deriving DecidableEq, Repr

/-- The next `n` bytes, stopping before another byte that carries descriptors. -/
def takeChunk : Nat → List Cell → List Cell
  | 0, _ => []
  | _ + 1, [] => []
  | n + 1, c :: cs => c :: (cs.take n).takeWhile fun c => c.fds.isEmpty

/-- The descriptors of a received chunk. -/
def chunkFds : List Cell → List File
  | [] => []
  | c :: _ => c.fds

/-- One `recv_with_fds` for `want` bytes and `cap` descriptors. -/
def recvWithFds (s : RxSock) (want cap : Nat) :
    Outcome (Except Error (List UInt8 × List File) × RxSock) :=
  match s.sched with
  | [] => .blocked
  | .errno e :: sched => .ret (.error (Error.fromErrno e), { s with sched := sched })
  | .bytes n :: sched =>
    let chunk := takeChunk (min n want) s.stream
    let s := { s with sched := sched, stream := s.stream.drop chunk.length }
    if (chunkFds chunk).length > cap then .ret (.error (Error.fromErrno s.truncErr), s)
    else .ret (.ok (chunk.map Cell.byte, chunkFds chunk), s)

/-- `Endpoint::recv_data`: a single receive with no room for descriptors. -/
def recvData (s : RxSock) (len : Nat) : Outcome (Except Error (Nat × List UInt8) × RxSock) :=
  let rbuf := List.replicate len (0 : UInt8)
  (recvWithFds s len 0).map fun
    | (.error e, s) => (.error e, s)
    | (.ok (bs, _), s) => (.ok (bs.length, overwrite rbuf 0 bs), s)

/-- `None` for no descriptors. -/
def toFiles : List File → Option (List File)
  | [] => none
  | fds => some fds

/-- Memory of the caller: the buffers its iovecs point into. -/
abbrev Mem := List (List UInt8)

/-- `Endpoint::recv_into_iovec`. -/
def recvIntoIovec (s : RxSock) (mem : Mem) (iovs : List IoVec) :
    Outcome (Except Error (Nat × Option (List File)) × RxSock × Mem) :=
  (recvWithFds s (iovs.map IoVec.len).sum maxAttachedFdEntries).map fun
    | (.error e, s) => (.error e, s, mem)
    | (.ok (bs, fds), s) => (.ok (bs.length, toFiles fds), s, fill mem iovs bs)

inductive RecvHead where
  | finished
  | panic
  | data (iovs : List IoVec)

def recvHead (iovs : List IoVec) (dataRead : Nat) : RecvHead :=
  let iovLens := iovs.map IoVec.len
  let dataTotal := iovLens.sum
  if dataTotal < dataRead then .panic
  else if dataTotal - dataRead > 0 then
    let (nrSkip, offset) := getSubIovsOffset iovLens dataRead
    match iovs[nrSkip]? with
    | none => .panic
    | some iov =>
      if offset ≤ iov.len then
        .data (⟨iov.base, iov.offset + offset, iov.len - offset⟩ :: iovs.drop (nrSkip + 1))
      else .panic
  else .finished

/-- The `while` of `recv_into_iovec_all`; `fuel` bounds the number of calls and is never the
reason to stop (`recvIntoIovecAll` gives one more than the schedule has answers). -/
def recvLoop (iovs : List IoVec) : Nat → RxSock → Mem → Nat → Option (List File) →
    Outcome (Except Error (Nat × Option (List File)) × RxSock × Mem)
  | 0, _, _, _, _ => .blocked
  | fuel + 1, s, mem, dataRead, rfds =>
    match recvHead iovs dataRead with
    | .finished => .ret (.ok (dataRead, rfds), s, mem)
    | .panic => .panic
    | .data data =>
      match recvIntoIovec s mem data with
      | .blocked => .blocked
      | .panic => .panic
      | .ret (.ok (0, _), s, mem) => .ret (.ok (dataRead, rfds), s, mem)
      | .ret (.ok (n, fds), s, mem) =>
        recvLoop iovs fuel s mem (dataRead + n) (if dataRead = 0 then fds else rfds)
      | .ret (.error e, s, mem) =>
        if e.isSocketRetry then recvLoop iovs fuel s mem dataRead rfds
        else .ret (.error e, s, mem)

def recvIntoIovecAll (s : RxSock) (mem : Mem) (iovs : List IoVec) :
    Outcome (Except Error (Nat × Option (List File)) × RxSock × Mem) :=
  recvLoop iovs (s.sched.length + 1) s mem 0 none

/-- Receive into the buffers `mem`, one iovec per buffer. -/
def recvMem (s : RxSock) (mem : Mem) :
    Outcome (Except Error (Nat × Option (List File)) × RxSock × Mem) :=
  recvIntoIovecAll s mem (windows 0 mem)

def recvHeader (s : RxSock) : Outcome (Except Error (H × Option (List File)) × RxSock) :=
  (recvMem s [ByteValued.asSlice (default : H)]).map fun
    | (.error e, s, _) => (.error e, s)
    | (.ok (bytes, files), s, mem) =>
      let hdr : H := ByteValued.fromSlice (mem.getD 0 [])
      if bytes = 0 then (.error .disconnected, s)
      else if bytes ≠ ByteValued.size H then (.error .partialMessage, s)
      else if !VhostUserMsgValidator.isValid hdr then (.error .invalidMessage, s)
      else (.ok (hdr, files), s)

def recvBody (s : RxSock) : Outcome (Except Error (H × T × Option (List File)) × RxSock) :=
  (recvMem s [ByteValued.asSlice (default : H), ByteValued.asSlice (default : T)]).map fun
    | (.error e, s, _) => (.error e, s)
    | (.ok (bytes, files), s, mem) =>
      let hdr : H := ByteValued.fromSlice (mem.getD 0 [])
      let body : T := ByteValued.fromSlice (mem.getD 1 [])
      if bytes ≠ ByteValued.size H + ByteValued.size T then (.error .partialMessage, s)
      else if !VhostUserMsgValidator.isValid hdr || !VhostUserMsgValidator.isValid body then
        (.error .invalidMessage, s)
      else (.ok (hdr, body, files), s)

/-- The filled `buf` is returned beside the result. -/
def recvPayloadIntoBuf (s : RxSock) (buf : List UInt8) :
    Outcome (Except Error (H × T × Nat × Option (List File)) × RxSock × List UInt8) :=
  (recvMem s [ByteValued.asSlice (default : H), ByteValued.asSlice (default : T), buf]).map fun
    | (.error e, s, mem) => (.error e, s, mem.getD 2 [])
    | (.ok (bytes, files), s, mem) =>
      let hdr : H := ByteValued.fromSlice (mem.getD 0 [])
      let body : T := ByteValued.fromSlice (mem.getD 1 [])
      let total := ByteValued.size H + ByteValued.size T
      if bytes < total then (.error .partialMessage, s, mem.getD 2 [])
      else if !VhostUserMsgValidator.isValid hdr || !VhostUserMsgValidator.isValid body then
        (.error .invalidMessage, s, mem.getD 2 [])
      else (.ok (hdr, body, bytes - total, files), s, mem.getD 2 [])

end VhostUser
