import VhostUser.Connection
import VhostUser.Lib.EState
/-!
# Serving one request: what the two request handlers share

`BackendReqHandler` and `FrontendReqHandler` receive a request in the same way and differ in the
requests they know. This module has the common frame.

| here | there |
| --- | --- |
| `recvRequest` | head of `handle_request` up to the `match` on the code (`backend_req_handler.rs:412-437`, `frontend_req_handler.rs:218-245`) |
| `serve`       | `check_state`, the receive, the dispatch |
| `readUnaligned` | `ptr::read_unaligned` at the front of a buffer, a `panic` when the buffer is too short |
| `usizeSub`    | subtraction of `usize` values, a `panic` below zero |

`Ctx` is what one call works on: the handler's own fields, the object it drives, the sending half
of its socket and, as a ghost, the calls made on the object. `?` is `orFail`. Complete messages
leave through `send`, which stands for `Endpoint::send_iovec_all` (`Transmission`).
-/
namespace VhostUser
open Bytes EState

/-- Why a handler stopped before its end: a panic, or an `Err` passed up by `?`. -/
inductive Stop where
  | panic
  | err (e : Error)
deriving DecidableEq, Repr

/-- `η` the handler's fields, `β` the object it drives, `κ` the calls on it, `τ` the socket. -/
structure Ctx (η β κ τ : Type) where
  handler : η
  backend : β
  sock : τ
  calls : List κ

/-- The two interfaces a handler uses: the object's methods and the sending socket. -/
structure Service (κ : Type) (Res : κ → Type) (β τ : Type) where
  invoke : (c : κ) → β → Res c × β
  send : List UInt8 → List File → τ → Except Error Unit × τ

abbrev Handling (η β κ τ : Type) := EStateM Stop (Ctx η β κ τ)

section Steps
variable {η β κ τ : Type} {Res : κ → Type} {α : Type}

def fail (e : Error) : Handling η β κ τ α := throw (.err e)

/-- The `?` operator. -/
def orFail : Except Error α → Handling η β κ τ α
  | .ok a => pure a
  | .error e => fail e

/-- Call a method of the object; its result is a value, not yet an error of the handler. -/
def call (svc : Service κ Res β τ) (c : κ) : Handling η β κ τ (Res c) := do
  let x ← get
  let (r, b) := svc.invoke c x.backend
  set { x with backend := b, calls := x.calls ++ [c] }
  pure r

def getHandler : Handling η β κ τ η := do
  let x ← get
  pure x.handler

def setHandler (h : η) : Handling η β κ τ Unit := modify fun x => { x with handler := h }

def sendBytes (svc : Service κ Res β τ) (bytes : List UInt8) (fds : List File) :
    Handling η β κ τ Unit := do
  let x ← get
  let (r, sock) := svc.send bytes fds x.sock
  set { x with sock := sock }
  orFail r

def readUnaligned (T : Type) [ByteValued T] (buf : List UInt8) : Handling η β κ τ T :=
  if ByteValued.size T ≤ buf.length then pure (ByteValued.fromSlice buf) else throw .panic

/-- `a - b` on `usize`. -/
def usizeSub (a b : Nat) : Handling η β κ τ Nat :=
  if b ≤ a then pure (a - b) else throw .panic

/-- `main_sock.send_message`. -/
def sendMsg {R : Type} [Req R] {T : Type} [ByteValued T] (svc : Service κ Res β τ)
    (hdr : VhostUserMsgHeader R) (body : T) (fds : List File) : Handling η β κ τ Unit :=
  if ByteValued.size T > maxMsgSize then fail .oversizedMsg
  else sendBytes svc (ByteValued.asSlice hdr ++ ByteValued.asSlice body) fds

/-- `main_sock.send_message_with_payload`. -/
def sendMsgWithPayload {R : Type} [Req R] {T : Type} [ByteValued T] (svc : Service κ Res β τ)
    (hdr : VhostUserMsgHeader R) (body : T) (payload : List UInt8) (fds : List File) :
    Handling η β κ τ Unit :=
  if ByteValued.size T > maxMsgSize then fail .oversizedMsg
  else do
    if payload.length > (← usizeSub maxMsgSize (ByteValued.size T)) then fail .oversizedMsg
    else if fds.length > maxAttachedFdEntries then fail .incorrectFds
    else sendBytes svc (ByteValued.asSlice hdr ++ (ByteValued.asSlice body ++ payload)) fds

/-! Running the primitives. -/

@[simp] theorem orFail_ok_apply (a : α) (x : Ctx η β κ τ) :
    (orFail (.ok a) : Handling η β κ τ α) x = .ok a x := rfl

@[simp] theorem orFail_error_apply (e : Error) (x : Ctx η β κ τ) :
    (orFail (.error e) : Handling η β κ τ α) x = .error (.err e) x := rfl

@[simp] theorem call_apply (svc : Service κ Res β τ) (c : κ) (x : Ctx η β κ τ) :
    call svc c x = .ok (svc.invoke c x.backend).1
      { x with backend := (svc.invoke c x.backend).2, calls := x.calls ++ [c] } := rfl

@[simp] theorem getHandler_apply (x : Ctx η β κ τ) :
    (getHandler : Handling η β κ τ η) x = .ok x.handler x := rfl

@[simp] theorem readUnaligned_asSlice {T : Type} [ByteValued T] (t : T) (x : Ctx η β κ τ) :
    (readUnaligned T (ByteValued.asSlice t) : Handling η β κ τ T) x = .ok t x := by
  simp [readUnaligned, fromSlice_asSlice_nil, EState.pure_apply]

theorem keeps_orFail {γ : Type} {p : Ctx η β κ τ → γ} (r : Except Error α) :
    Keeps p (orFail r : Handling η β κ τ α) := by
  cases r with
  | ok a => exact .pure a
  | error e => exact .throw _

/-! Sending touches nothing but the socket. -/

section Sending
variable {R : Type} [Req R] {T : Type} [ByteValued T] {γ : Type} {p : Ctx η β κ τ → γ}

theorem keeps_sendBytes (hp : ∀ x sock, p { x with sock := sock } = p x) (svc : Service κ Res β τ)
    (bytes : List UInt8) (fds : List File) :
    Keeps p (sendBytes svc bytes fds : Handling η β κ τ Unit) := by
  intro x
  rw [sendBytes, bind_of_ok (get_apply x)]
  exact (keeps_orFail _ { x with sock := _ }).trans (hp x _)

theorem keeps_sendMsg (hp : ∀ x sock, p { x with sock := sock } = p x) (svc : Service κ Res β τ)
    (hdr : VhostUserMsgHeader R) (body : T) (fds : List File) :
    Keeps p (sendMsg svc hdr body fds : Handling η β κ τ Unit) :=
  .ite (.throw _) (keeps_sendBytes hp svc _ fds)

theorem keeps_sendMsgWithPayload (hp : ∀ x sock, p { x with sock := sock } = p x) (svc : Service κ Res β τ)
    (hdr : VhostUserMsgHeader R) (body : T) (payload : List UInt8) (fds : List File) :
    Keeps p (sendMsgWithPayload svc hdr body payload fds : Handling η β κ τ Unit) := by
  refine .ite (.throw _) (.bind (.ite (.pure _) (.throw _)) fun _ => ?_)
  exact .ite (.throw _) (.ite (.throw _) (keeps_sendBytes hp svc _ fds))

end Sending

/-- The step ends with a value or an error, never in a panic. -/
def NoPanic (y : Handling η β κ τ α) : Prop := ∀ x x', y x ≠ .error .panic x'

theorem NoPanic.bind {α' : Type} {y : Handling η β κ τ α} {f : α → Handling η β κ τ α'} (hy : NoPanic y)
    (hf : ∀ a, NoPanic (f a)) : NoPanic (y >>= f) := by
  intro x x' h
  rw [bind_apply] at h
  cases hr : y x with
  | ok a x₁ => rw [hr] at h; exact hf a x₁ x' h
  | error e x₁ =>
    rw [hr] at h
    cases h
    exact hy x _ hr

theorem noPanic_orFail (r : Except Error α) : NoPanic (orFail r : Handling η β κ τ α) := by
  intro x x'
  cases r with
  | ok a => simp
  | error e => simp

theorem noPanic_sendBytes (svc : Service κ Res β τ) (bytes : List UInt8) (fds : List File) :
    NoPanic (sendBytes svc bytes fds : Handling η β κ τ Unit) := by
  intro x x' h
  rw [sendBytes, bind_of_ok (get_apply x)] at h
  exact noPanic_orFail _ { x with sock := _ } x' h

theorem noPanic_sendMsg {R : Type} [Req R] {T : Type} [ByteValued T] (svc : Service κ Res β τ)
    (hdr : VhostUserMsgHeader R) (body : T) (fds : List File) :
    NoPanic (sendMsg svc hdr body fds : Handling η β κ τ Unit) := by
  unfold sendMsg
  split
  · exact noPanic_orFail (.error _)
  · exact noPanic_sendBytes svc _ fds

theorem noPanic_sendMsgWithPayload {R : Type} [Req R] {T : Type} [ByteValued T] (svc : Service κ Res β τ)
    (hdr : VhostUserMsgHeader R) (body : T) (payload : List UInt8) (fds : List File) :
    NoPanic (sendMsgWithPayload svc hdr body payload fds : Handling η β κ τ Unit) := by
  unfold sendMsgWithPayload
  split
  · exact noPanic_orFail (.error _)
  · rename_i hfits
    rw [usizeSub, if_pos (by omega), pure_bind]
    split
    · exact noPanic_orFail (.error _)
    · split
      · exact noPanic_orFail (.error _)
      · exact noPanic_sendBytes svc _ fds

end Steps

/-! ## Receiving -/

section Receive
variable {R : Type} [Req R]

/-- A request as the dispatch sees it: header, payload length and bytes, attached files. -/
structure Request (R : Type) where
  hdr : VhostUserMsgHeader R
  size : Nat
  buf : List UInt8
  files : Option (List File)
deriving DecidableEq

/-- A payload that arrived short is refused. -/
def takePayload (hdr : VhostUserMsgHeader R) (files : Option (List File)) (len : Nat) :
    Except Error (Nat × List UInt8) × RxSock → Except Error (Request R) × RxSock
  | (.error e, s) => (.error e, s)
  | (.ok (size2, rbuf), s) =>
    if size2 ≠ len then (.error .invalidMessage, s) else (.ok ⟨hdr, size2, rbuf, files⟩, s)

/-- The header is received by the looping reader, the payload by a single `recv_data`. `lenOk` is the
extra length check of the frontend's handler. -/
def recvRequest (checkAttachedFiles : VhostUserMsgHeader R → Option (List File) → Except Error Unit)
    (lenOk : Nat → Bool) (s : RxSock) : Outcome (Except Error (Request R) × RxSock) :=
  match recvHeader s with
  | .blocked => .blocked
  | .panic => .panic
  | .ret (.error e, s) => .ret (.error e, s)
  | .ret (.ok (hdr, files), s) =>
    match checkAttachedFiles hdr files with
    | .error e => .ret (.error e, s)
    | .ok () =>
      let len := hdr.getSize.toNat
      if len = 0 then .ret (.ok ⟨hdr, 0, [], files⟩, s)
      else if !lenOk len then .ret (.error .invalidMessage, s)
      else (recvData s len).map (takePayload hdr files len)

variable {η β κ τ α : Type}

/-- `handle_request` around its dispatch. -/
def serve (checkState : η → Except Error Unit) (recv : RxSock → Outcome (Except Error (Request R) × RxSock))
    (dispatch : Request R → Handling η β κ τ α) (x : Ctx η β κ τ) (s : RxSock) :
    Outcome (Except Error α × Ctx η β κ τ × RxSock) :=
  match checkState x.handler with
  | .error e => .ret (.error e, x, s)
  | .ok () =>
    match recv s with
    | .blocked => .blocked
    | .panic => .panic
    | .ret (.error e, s) => .ret (.error e, x, s)
    | .ret (.ok req, s) =>
      match dispatch req x with
      | .ok a x => .ret (.ok a, x, s)
      | .error .panic _ => .panic
      | .error (.err e) x => .ret (.error e, x, s)

end Receive

end VhostUser
