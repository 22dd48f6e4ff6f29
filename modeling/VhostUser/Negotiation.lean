import VhostUser.RingStates
import VhostUser.WellFormed
/-!
# Two copies of one negotiation

`BackendReqHandler` keeps the acknowledged virtio and protocol features to gate requests
(`backend_req_handler.rs:331-347`); the `VhostUserHandler` behind it keeps them again
(`handler.rs:93-110`). The requests that negotiate write the two copies separately:

| request | dispatcher | handler |
| --- | --- | --- |
| `SET_FEATURES`          | always (`backend_req_handler.rs:464-470`) | if the device offers them (`handler.rs:297-303`) |
| `SET_PROTOCOL_FEATURES` | always (`:538-547`) | always (`:521-527`) |
| `RESET_OWNER`           | no                  | both words become 0 (`:271-277`) |
| `RESET_DEVICE`          | no                  | the virtio word becomes 0 (`:279-291`) |

So the copies part at a refused `SET_FEATURES` and at a reset (`copies_agree_iff`), and a word can
hold what was never offered (`negotiated_offered_iff`).
-/
namespace VhostUser
open Bytes EState Trace

namespace BackendReqHandler

/-! ## Messages of the negotiation -/

/-- A request without payload, no reply. -/
def Plain (r : FrontendReq) (req : Request FrontendReq) : Prop :=
  req.hdr.getCode = .ok r ∧ req.hdr.isReply = false ∧ req.size = 0

/-- A request that carries the value `v`, no reply. -/
def Asks (r : FrontendReq) (v : UInt64) (req : Request FrontendReq) : Prop :=
  req.hdr.getCode = .ok r ∧ req.hdr.isReply = false ∧ req.size = 8 ∧ u64At 0 req.buf = v

/-- `GET_FEATURES`, `SET_FEATURES`, `GET_PROTOCOL_FEATURES`, `SET_PROTOCOL_FEATURES`, `RESET_OWNER` or
`RESET_DEVICE`. -/
def Negotiates (req : Request FrontendReq) : Prop :=
  req.hdr.getCode ∈ ([.ok .getFeatures, .ok .setFeatures, .ok .getProtocolFeatures, .ok .setProtocolFeatures,
    .ok .resetOwner, .ok .resetDevice] : List (Except Error FrontendReq))

/-- What the messages of the negotiation are taken for: the calls of the dispatcher in state `h`. -/
inductive Taken (h : BackendReqHandler) (req : Request FrontendReq) : List Call → Prop where
  | features (v : UInt64) : Asks .setFeatures v req → Taken h req [.setFeatures v]
  | protocol (v : UInt64) : Asks .setProtocolFeatures v req → Taken h req [.setProtocolFeatures v]
  | owner : Plain .resetOwner req → Taken h req [.resetOwner]
  | device : Plain .resetDevice req → h.ackedProtocolFeatures &&& VhostUserProtocolFeatures.RESET_DEVICE ≠ 0 →
      Taken h req [.resetDevice]
  | read (cs : List Call) : (∀ v, ¬Asks .setFeatures v req) → (∀ v, ¬Asks .setProtocolFeatures v req) →
      ¬Plain .resetOwner req →
      (Plain .resetDevice req → h.ackedProtocolFeatures &&& VhostUserProtocolFeatures.RESET_DEVICE = 0) →
      cs ∈ ([[], [.getFeatures], [.getProtocolFeatures]] : List (List Call)) → Taken h req cs

section Taken
variable {p : Platform} {h : BackendReqHandler} {req : Request FrontendReq}

theorem checkRequestSize_delivered (hreq : Delivered checkAttachedFiles req) (n : Nat) :
    checkRequestSize req.hdr req.size n =
      if req.hdr.isReply = false ∧ req.size = n then .ok () else .error .invalidMessage := by
  have hversion := (VhostUserMsgHeader.isValid_iff.1 hreq.valid).2.2.1
  split
  · rename_i hok
    exact checkRequestSize_ok.2 ⟨hreq.size_eq.symm.trans hok.2, hok.1, hversion, hok.2⟩
  · rename_i hbad
    unfold checkRequestSize
    rw [if_pos]
    by_contra hgood
    simp only [Bool.or_eq_true, decide_eq_true_eq, bne_iff_ne, not_or, not_not, ne_eq, Bool.not_eq_true] at hgood
    exact hbad ⟨hgood.1.1.2, hgood.2⟩

theorem extractBody_u64 (hreq : Delivered checkAttachedFiles req) :
    extractBody VhostUserU64 req.hdr req.size req.buf =
      if req.hdr.isReply = false ∧ req.size = 8 then .ok ⟨u64At 0 req.buf⟩ else .error (.err .invalidMessage) := by
  have hlen := hreq.length_eq
  have hsize : ByteValued.size VhostUserU64 = 8 := rfl
  unfold extractBody
  rw [hsize, checkRequestSize_delivered hreq]
  split
  · rename_i hok
    rw [readAt_ok (by omega)]
    rfl
  · rfl

theorem taken_of_negotiates (p : Platform) (h : BackendReqHandler) (hreq : Delivered checkAttachedFiles req)
    (hneg : Negotiates req) : Taken h req (callsOf (parse p h req)) := by
  have hbody := extractBody_u64 hreq
  have hplain := checkRequestSize_delivered hreq 0
  obtain ⟨hdr, size, buf, files⟩ := req
  dsimp only at hbody hplain
  have hread (c : Call) (hc : [c] ∈ ([[], [.getFeatures], [.getProtocolFeatures]] : List (List Call)))
      (hparse : parse p h ⟨hdr, size, buf, files⟩ = (do orStop (checkRequestSize hdr size 0); pure (.ok c))) :
      callsOf (parse p h ⟨hdr, size, buf, files⟩) ∈
        ([[], [.getFeatures], [.getProtocolFeatures]] : List (List Call)) := by
    rw [hparse, hplain]
    split
    · exact hc
    · exact List.mem_cons_self
  simp only [Negotiates, List.mem_cons, List.not_mem_nil, or_false] at hneg
  obtain hcode | hcode | hcode | hcode | hcode | hcode := hneg
  · exact .read _ (by simp [Asks, hcode]) (by simp [Asks, hcode]) (by simp [Plain, hcode]) (by simp [Plain, hcode])
      (hread .getFeatures (by simp) (by simp only [parse, hcode]))
  · by_cases hok : hdr.isReply = false ∧ size = 8
    · rw [if_pos hok] at hbody
      simp only [parse, hcode, hbody]
      exact .features _ ⟨hcode, hok.1, hok.2, rfl⟩
    · rw [if_neg hok] at hbody
      simp only [parse, hcode, hbody]
      refine .read [] (fun v hv => hok ⟨hv.2.1, hv.2.2.1⟩) ?_ ?_ ?_ (by simp)
      all_goals simp [Asks, Plain, hcode]
  · exact .read _ (by simp [Asks, hcode]) (by simp [Asks, hcode]) (by simp [Plain, hcode]) (by simp [Plain, hcode])
      (hread .getProtocolFeatures (by simp) (by simp only [parse, hcode]))
  · by_cases hok : hdr.isReply = false ∧ size = 8
    · rw [if_pos hok] at hbody
      simp only [parse, hcode, hbody]
      exact .protocol _ ⟨hcode, hok.1, hok.2, rfl⟩
    · rw [if_neg hok] at hbody
      simp only [parse, hcode, hbody]
      refine .read [] ?_ (fun v hv => hok ⟨hv.2.1, hv.2.2.1⟩) ?_ ?_ (by simp)
      all_goals simp [Asks, Plain, hcode]
  · by_cases hok : hdr.isReply = false ∧ size = 0
    · rw [if_pos hok] at hplain
      simp only [parse, hcode, hplain]
      exact .owner ⟨hcode, hok.1, hok.2⟩
    · rw [if_neg hok] at hplain
      simp only [parse, hcode, hplain]
      refine .read [] ?_ ?_ (fun hp => hok ⟨hp.2.1, hp.2.2⟩) ?_ (by simp)
      all_goals simp [Asks, Plain, hcode]
  · by_cases hgate : h.ackedProtocolFeatures &&& VhostUserProtocolFeatures.RESET_DEVICE ≠ 0
    · have hproto := checkProtoFeature_ok.2 hgate
      by_cases hok : hdr.isReply = false ∧ size = 0
      · rw [if_pos hok] at hplain
        simp only [parse, hcode, hplain, hproto]
        exact .device ⟨hcode, hok.1, hok.2⟩ hgate
      · rw [if_neg hok] at hplain
        simp only [parse, hcode, hplain, hproto]
        refine .read [] ?_ ?_ ?_ (fun hp => absurd ⟨hp.2.1, hp.2.2⟩ hok) (by simp)
        all_goals simp [Asks, Plain, hcode]
    · have hproto : checkProtoFeature h VhostUserProtocolFeatures.RESET_DEVICE =
          .error (.inactiveOperation VhostUserProtocolFeatures.RESET_DEVICE) := by
        rw [checkProtoFeature, if_neg hgate]
      simp only [parse, hcode, hproto]
      refine .read [] ?_ ?_ ?_ (fun _ => not_not.1 hgate) (by simp)
      all_goals simp [Asks, Plain, hcode]

end Taken

/-! ## The words and who writes them -/

end BackendReqHandler

/-- The acknowledged features as one of the two objects has them. -/
structure Words where
  virtio : UInt64
  protocol : UInt64
deriving DecidableEq, Repr

namespace BackendReqHandler

def words (h : BackendReqHandler) : Words := ⟨h.ackedVirtioFeatures, h.ackedProtocolFeatures⟩

/-- What the dispatcher makes of its words at a call. -/
def record : Call → Words → Words
  | .setFeatures v, w => { w with virtio := v }
  | .setProtocolFeatures v, w => { w with protocol := v }
  | _, w => w

section Record
variable {β τ : Type} (svc : Svc β τ)

theorem words_answer (hdr : VhostUserMsgHeader FrontendReq) (c : Call) (res : c.Res)
    (x : Ctx BackendReqHandler β Call τ) :
    (final (answer svc hdr c res x)).handler.words = record c x.handler.words ∧
      (final (answer svc hdr c res x)).handler.error = x.handler.error := by
  have hkeep (hup : ∀ f ∈ updateOf c res, ∀ h, (f h).words = h.words ∧ (f h).error = h.error) :=
    keeps_answer (q := fun x => (x.handler.words, x.handler.error)) svc (fun _ _ => rfl) hdr c res
      (fun f hf x => Prod.ext (hup f hf x.handler).1 (hup f hf x.handler).2) x
  simp only [Prod.mk.injEq] at hkeep
  have hack (h : BackendReqHandler) (r : Except Error Unit) :=
    keeps_sendAckMessage (p := fun x => (x.handler.words, x.handler.error)) svc (fun _ _ => rfl) hdr r
      { x with handler := h }
  simp only [Prod.mk.injEq] at hack
  cases c with
  | setFeatures v => exact hack (updateReplyAckFlag { x.handler with ackedVirtioFeatures := v }) res
  | setProtocolFeatures v => exact hack (updateReplyAckFlag { x.handler with ackedProtocolFeatures := v }) res
  | getFeatures | getProtocolFeatures =>
    apply hkeep
    intro f hf h
    cases res with
    | ok v =>
      cases hf
      exact ⟨rfl, rfl⟩
    | error e => cases hf
  | _ => exact hkeep fun f hf => by cases hf

/-- The dispatcher's words after a request: what it records of its calls. -/
theorem words_dispatch (p : Platform) (req : Request FrontendReq) (x : Ctx BackendReqHandler β Call τ) :
    (final (dispatch svc p req x)).handler.words =
        (callsOf (parse p x.handler req)).foldl (fun w c => record c w) x.handler.words ∧
      (final (dispatch svc p req x)).handler.error = x.handler.error := by
  rw [dispatch_eq]
  obtain s | e | c := parse p x.handler req
  · exact ⟨rfl, rfl⟩
  · have hack := keeps_sendAckMessage (p := fun x => (x.handler.words, x.handler.error)) svc (fun _ _ => rfl)
      req.hdr (.error e) x
    simp only [Prod.mk.injEq] at hack
    exact hack
  · rw [perform, bind_of_ok (call_apply _ _ _)]
    exact words_answer svc req.hdr c _ _

end Record

end BackendReqHandler

namespace VhostUserHandler
variable {B M : Type}

def words (h : VhostUserHandler B M) : Words := ⟨h.ackedFeatures, h.ackedProtocolFeatures⟩

/-- What `SET_FEATURES` asks for is on offer. -/
def Offers (d : Deps B M) (h : VhostUserHandler B M) (v : UInt64) : Prop :=
  v &&& ~~~(d.backend.features h.backend) = 0

theorem words_enableUnlessProtocol (v : UInt64) (h : VhostUserHandler B M) :
    ∃ h', enableUnlessProtocol v h = (.ok (), h') ∧ h'.words = h.words := by
  unfold enableUnlessProtocol
  split
  · obtain ⟨hs, hall⟩ := setEnabledAll_eq true (List.range h.vrings.length) h
    exact ⟨_, hall, rfl⟩
  · exact ⟨h, rfl, rfl⟩

theorem setFeatures_of_offers {d : Deps B M} {h : VhostUserHandler B M} {v : UInt64} (hv : h.Offers d v) :
    (h.setFeatures d v).2.words = { h.words with virtio := v } := by
  obtain ⟨h', hen, hw⟩ := words_enableUnlessProtocol v { h with ackedFeatures := v, featuresAcked := true }
  have hmask : ¬(v &&& ~~~(d.backend.features h.backend) ≠ 0) := not_not.2 hv
  rw [setFeatures, if_neg hmask, hen]
  exact hw

theorem setFeatures_of_not_offers {d : Deps B M} {h : VhostUserHandler B M} {v : UInt64} (hv : ¬h.Offers d v) :
    h.setFeatures d v = (.error .invalidParam, h) := if_pos hv

theorem words_resetDevice (d : Deps B M) (h : VhostUserHandler B M) :
    (h.resetDevice d).2.words = { h.words with virtio := 0 } := by
  obtain ⟨hs, hall⟩ := setEnabledAll_eq false (List.range h.vrings.length) h
  rw [resetDevice, hall]
  rfl

end VhostUserHandler

/-! ## Runs of the negotiation -/

section Run
variable {B M τ : Type} (d : Deps B M) (send : List UInt8 → List File → τ → Except Error Unit × τ) (p : Platform)

/-- A dispatcher in front of a `VhostUserHandler`. -/
abbrev Daemon (B M τ : Type) := Ctx BackendReqHandler (VhostUserHandler B M) Call τ

/-- `handle_request` with the socket in a given state; the daemon after it, whatever it returned. -/
def serveOne (x : Daemon B M τ) (s : RxSock) : Daemon B M τ :=
  match BackendReqHandler.handleRequest ⟨fun c h => h.invoke d c, send⟩ p x s with
  | .ret (_, x', _) => x'
  | _ => x

/-- The request that arrives. -/
def Receives (s : RxSock) (req : Request FrontendReq) : Prop :=
  ∃ s', recvRequest BackendReqHandler.checkAttachedFiles (fun _ => true) s = .ret (.ok req, s')

theorem Receives.unique {s : RxSock} {req req' : Request FrontendReq} (h : Receives s req)
    (h' : Receives s req') : req = req' := by
  obtain ⟨t, ht⟩ := h
  obtain ⟨t', ht'⟩ := h'
  cases ht.symm.trans ht'
  rfl

theorem Receives.forall_iff {s : RxSock} {req : Request FrontendReq} (h : Receives s req)
    {P : Request FrontendReq → Prop} : (∀ req', Receives s req' → P req') ↔ P req := by
  constructor
  · exact fun hall => hall req h
  · intro hP req' h'
    rwa [h'.unique h]

/-- Whatever arrives is a message of the negotiation. -/
def Negotiating (_ : Daemon B M τ) (s : RxSock) : Prop :=
  ∀ req, Receives s req → BackendReqHandler.Negotiates req

theorem serveOne_silent {x : Daemon B M τ} {s : RxSock} (h : ∀ req, ¬Receives s req) :
    serveOne d send p x s = x := by
  unfold serveOne BackendReqHandler.handleRequest serve
  cases hstate : BackendReqHandler.checkState x.handler with
  | error e => rfl
  | ok u =>
    cases hrecv : recvRequest BackendReqHandler.checkAttachedFiles (fun _ => true) s with
    | blocked => rfl
    | panic => rfl
    | ret r =>
      obtain ⟨e | req, s'⟩ := r
      · rfl
      · exact absurd ⟨s', hrecv⟩ (h req)

/-- A message of the negotiation leads to the calls it is taken for, and to nothing else. -/
theorem serveOne_received {x : Daemon B M τ} {s : RxSock} {req : Request FrontendReq}
    (hstate : x.handler.error = none) (hrecv : Receives s req) (hneg : BackendReqHandler.Negotiates req) :
    ∃ cs, BackendReqHandler.Taken x.handler req cs ∧
      (serveOne d send p x s).handler.error = none ∧
      (serveOne d send p x s).handler.words = cs.foldl (fun w c => BackendReqHandler.record c w) x.handler.words ∧
      (serveOne d send p x s).backend = cs.foldl (fun h c => (h.invoke d c).2) x.backend := by
  obtain ⟨s', hs⟩ := hrecv
  obtain ⟨r, hr⟩ := BackendReqHandler.handleRequest_received ⟨fun c h => h.invoke d c, send⟩ (p := p) hstate hs
  obtain ⟨hwords, herror⟩ := BackendReqHandler.words_dispatch ⟨fun c h => h.invoke d c, send⟩ p req x
  have hbackend := BackendReqHandler.backend_dispatch ⟨fun c h => h.invoke d c, send⟩ p req x
  simp only [serveOne, hr]
  exact ⟨_, BackendReqHandler.taken_of_negotiates p x.handler (recvRequest_delivered hs) hneg,
    herror.trans hstate, hwords, hbackend⟩

theorem error_serveOne {x : Daemon B M τ} {s : RxSock} (hstate : x.handler.error = none)
    (hneg : Negotiating x s) : (serveOne d send p x s).handler.error = none := by
  by_cases hrecv : ∃ req, Receives s req
  · obtain ⟨req, hreq⟩ := hrecv
    obtain ⟨cs, -, herror, -⟩ := serveOne_received d send p hstate hreq (hneg req hreq)
    exact herror
  · rw [serveOne_silent d send p (not_exists.1 hrecv)]
    exact hstate

/-- A dispatcher and a handler as their constructors make them. -/
def fresh (h : VhostUserHandler B M) (sock : τ) : Daemon B M τ := ⟨.new, h, sock, []⟩

theorem words_new {d : Deps B M} {b : B} {mem : M} {heap : LogHeap} {cell : Nat} {h : VhostUserHandler B M}
    (hnew : VhostUserHandler.new d b mem heap cell = some h) : h.words = ⟨0, 0⟩ := by
  obtain ⟨vrings, -, rfl⟩ := VhostUserHandler.new_eq hnew
  rfl

end Run

/-! ## The copies agree -/

section Agree
open BackendReqHandler
variable {B M τ : Type} {d : Deps B M} {send : List UInt8 → List File → τ → Except Error Unit × τ} {p : Platform}

def Agree (x : Daemon B M τ) : Prop := x.handler.words = x.backend.words

instance (x : Daemon B M τ) : Decidable (Agree x) := inferInstanceAs (Decidable (_ = _))

/-- The message does not part the copies: features that are not on offer are those already recorded,
and a reset finds nothing to reset. -/
def KeepsAgreement (d : Deps B M) (x : Daemon B M τ) (s : RxSock) : Prop :=
  ∀ req, Receives s req →
    (∀ v, Asks .setFeatures v req → x.backend.Offers d v ∨ v = x.handler.ackedVirtioFeatures) ∧
    (Plain .resetOwner req → x.handler.words = ⟨0, 0⟩) ∧
    (Plain .resetDevice req → x.handler.ackedProtocolFeatures &&& VhostUserProtocolFeatures.RESET_DEVICE ≠ 0 →
      x.handler.ackedVirtioFeatures = 0)

theorem agree_serveOne_iff {x : Daemon B M τ} {s : RxSock} (hstate : x.handler.error = none) (hagree : Agree x)
    (hneg : Negotiating x s) : Agree (serveOne d send p x s) ↔ KeepsAgreement d x s := by
  by_cases hrecv : ∃ req, Receives s req
  case neg =>
    rw [not_exists] at hrecv
    rw [serveOne_silent d send p hrecv]
    exact iff_of_true hagree fun req h => absurd h (hrecv req)
  obtain ⟨req, hreq⟩ := hrecv
  obtain ⟨cs, htaken, -, hwords, hbackend⟩ := serveOne_received d send p hstate hreq (hneg req hreq)
  rw [KeepsAgreement, hreq.forall_iff, Agree, hwords, hbackend]
  cases htaken with
  | features v hasks =>
    obtain ⟨hcode, hreply, hsize, hv⟩ := hasks
    have hasked (v' : UInt64) (h : Asks .setFeatures v' req) : v' = v := h.2.2.2.symm.trans hv
    by_cases hoffers : x.backend.Offers d v
    · refine iff_of_true ?_ ⟨fun v' h => .inl ((hasked v' h).symm ▸ hoffers), ?_, ?_⟩
      · refine Eq.trans ?_ (VhostUserHandler.setFeatures_of_offers hoffers).symm
        exact congrArg (fun w : Words => { w with virtio := v }) hagree
      · simp [Plain, hcode]
      · simp [Plain, hcode]
    · -- the handler keeps its word, the dispatcher does not
      have hinner : (x.backend.invoke d (.setFeatures v)).2.words = x.handler.words := by
        refine Eq.trans ?_ hagree.symm
        exact congrArg (fun r => r.2.words) (VhostUserHandler.setFeatures_of_not_offers hoffers)
      have hsame : ({ x.handler.words with virtio := v } : Words) = x.handler.words ↔
          v = x.handler.ackedVirtioFeatures := by
        simp [words]
      have hrest : Plain .resetOwner req → x.handler.words = ⟨0, 0⟩ := by simp [Plain, hcode]
      have hrest' : ¬Plain .resetDevice req := by simp [Plain, hcode]
      refine Iff.trans (Eq.congr_right hinner) (hsame.trans ?_)
      constructor
      · exact fun h => ⟨fun v' hv' => .inr ((hasked v' hv').trans h), hrest, fun hp => absurd hp hrest'⟩
      · rintro ⟨h, -⟩
        exact (h v ⟨hcode, hreply, hsize, hv⟩).resolve_left hoffers
  | protocol v hasks =>
    obtain ⟨hcode, -⟩ := hasks
    refine iff_of_true ?_ ⟨?_, ?_, ?_⟩
    · exact congrArg (fun w : Words => { w with protocol := v }) hagree
    all_goals simp [Asks, Plain, hcode]
  | owner hplain =>
    have hcode := hplain.1
    constructor
    · intro h
      exact ⟨by simp [Asks, hcode], fun _ => h, by simp [Plain, hcode]⟩
    · rintro ⟨-, h, -⟩
      exact h hplain
  | device hplain hgate =>
    have hcode := hplain.1
    have hinner : (x.backend.invoke d .resetDevice).2.words = { x.handler.words with virtio := 0 } := by
      rw [hagree]
      exact VhostUserHandler.words_resetDevice d x.backend
    have hsame : x.handler.words = { x.handler.words with virtio := 0 } ↔ x.handler.ackedVirtioFeatures = 0 := by
      simp [words]
    refine Iff.trans (Eq.congr_right hinner) (hsame.trans ?_)
    constructor
    · exact fun h => ⟨by simp [Asks, hcode], by simp [Plain, hcode], fun _ _ => h⟩
    · rintro ⟨-, -, h⟩
      exact h hplain hgate
  | read cs hf hp ho hd hcs =>
    refine iff_of_true ?_ ⟨fun v h => absurd h (hf v), fun h => absurd h ho, fun h hg => absurd (hd h) hg⟩
    simp only [List.mem_cons, List.not_mem_nil, or_false] at hcs
    obtain rfl | rfl | rfl := hcs
    · exact hagree
    · exact hagree
    · exact hagree

/-- **The two copies of the negotiation agree** in every state between requests, exactly when no
message of the run parts them. -/
theorem copies_agree_iff {b : B} {mem : M} {heap : LogHeap} {cell : Nat} {h : VhostUserHandler B M}
    (hnew : VhostUserHandler.new d b mem heap cell = some h) (sock : τ) (ss : List RxSock)
    (hneg : Along (serveOne d send p) Negotiating (fresh h sock) ss) :
    Visits (serveOne d send p) Agree (fresh h sock) ss ↔
      Along (serveOne d send p) (KeepsAgreement d) (fresh h sock) ss := by
  refine visits_iff_along (J := fun x => x.handler.error = none) ?_ ?_ ss _ rfl (words_new hnew).symm hneg
  · exact fun x s hstate _ hs _ => error_serveOne d send p hstate hs
  · exact fun x s hstate hagree hs => agree_serveOne_iff hstate hagree hs

end Agree

/-! Messages of the examples. -/

/-- `r` with the value `v`. -/
def asking (r : FrontendReq) (v : UInt64) : Request FrontendReq :=
  ⟨.new r 0 8, 8, ByteValued.asSlice (⟨v⟩ : VhostUserU64), none⟩

/-- `r` alone. -/
def plainly (r : FrontendReq) : Request FrontendReq := ⟨.new r 0 0, 0, [], none⟩

/-- The message on the socket. -/
def onWire (req : Request FrontendReq) : RxSock := BackendReqHandler.arrives req.hdr req.buf []

theorem receives_setFeatures : Receives (onWire (asking .setFeatures VhostUserVirtioFeatures.PROTOCOL_FEATURES))
    (asking .setFeatures VhostUserVirtioFeatures.PROTOCOL_FEATURES) := ⟨⟨[], [], .EINTR⟩, by decide⟩

theorem receives_setProtocolFeatures :
    Receives (onWire (asking .setProtocolFeatures VhostUserProtocolFeatures.REPLY_ACK))
      (asking .setProtocolFeatures VhostUserProtocolFeatures.REPLY_ACK) := ⟨⟨[], [], .EINTR⟩, by decide⟩

theorem receives_resetOwner : Receives (onWire (plainly .resetOwner)) (plainly .resetOwner) :=
  ⟨⟨[], [.bytes 0], .EINTR⟩, by decide⟩

theorem Receives.negotiating {B M τ : Type} {x : Daemon B M τ} {s : RxSock} {req : Request FrontendReq}
    (h : Receives s req) (hneg : BackendReqHandler.Negotiates req) : Negotiating x s :=
  h.forall_iff.2 hneg

/-- The plain device behind a socket that takes every message. -/
def plainServe : Daemon Unit (List GuestRegionMmap) Unit → RxSock → Daemon Unit (List GuestRegionMmap) Unit :=
  serveOne (plainDeps true) (fun _ _ t => (.ok (), t)) ⟨false, fun _ _ => .ok 1⟩

/-- The features are acknowledged, then `RESET_OWNER`: the handler forgets, the dispatcher does not. -/
theorem copies_part_reset_owner :
    Along plainServe Negotiating (fresh plainHandler ())
      [onWire (asking .setFeatures VhostUserVirtioFeatures.PROTOCOL_FEATURES), onWire (plainly .resetOwner)] ∧
    ¬Visits plainServe Agree (fresh plainHandler ())
      [onWire (asking .setFeatures VhostUserVirtioFeatures.PROTOCOL_FEATURES), onWire (plainly .resetOwner)] := by
  refine ⟨⟨?_, ?_, trivial⟩, fun h => absurd h.last (by decide)⟩
  · exact receives_setFeatures.negotiating (by unfold BackendReqHandler.Negotiates; decide)
  · exact receives_resetOwner.negotiating (by unfold BackendReqHandler.Negotiates; decide)

/-- `VHOST_USER_F_PROTOCOL_FEATURES` and `REPLY_ACK`, which the plain device offers. -/
def acknowledge : List RxSock :=
  [onWire (asking .setFeatures VhostUserVirtioFeatures.PROTOCOL_FEATURES),
    onWire (asking .setProtocolFeatures VhostUserProtocolFeatures.REPLY_ACK)]

theorem negotiating_acknowledge : Along plainServe Negotiating (fresh plainHandler ()) acknowledge := by
  refine ⟨?_, ?_, trivial⟩
  · exact receives_setFeatures.negotiating (by unfold BackendReqHandler.Negotiates; decide)
  · exact receives_setProtocolFeatures.negotiating (by unfold BackendReqHandler.Negotiates; decide)

theorem copies_agree_acknowledge : Visits plainServe Agree (fresh plainHandler ()) acknowledge := by
  refine (copies_agree_iff (new_plainHandler true) () acknowledge negotiating_acknowledge).2 ⟨?_, ?_, trivial⟩
  · refine receives_setFeatures.forall_iff.2 ⟨?_, ?_, ?_⟩
    · rintro v ⟨-, -, -, rfl⟩
      exact .inl (by unfold VhostUserHandler.Offers; decide)
    · exact fun h => absurd h.1 (by decide)
    · exact fun h => absurd h.1 (by decide)
  · refine receives_setProtocolFeatures.forall_iff.2 ⟨?_, ?_, ?_⟩
    · exact fun v h => absurd h.1 (by decide)
    · exact fun h => absurd h.1 (by decide)
    · exact fun h => absurd h.1 (by decide)

/-! ## The words hold what was offered -/

section Offered
open BackendReqHandler
variable {B M τ : Type} {d : Deps B M} {send : List UInt8 → List File → τ → Except Error Unit × τ} {p : Platform}

/-- No bit outside the offered features. -/
def Words.Within (w : Words) (virtio protocol : UInt64) : Prop :=
  w.virtio &&& ~~~virtio = 0 ∧ w.protocol &&& ~~~protocol = 0

/-- What `GET_PROTOCOL_FEATURES` offers: the library adds `REPLY_ACK` to the device's own. -/
def offeredProtocol (d : Deps B M) (x : Daemon B M τ) : UInt64 :=
  d.backend.protocolFeatures x.backend.backend ||| VhostUserProtocolFeatures.REPLY_ACK

/-- Both copies are among the offered features. -/
def Offered (d : Deps B M) (x : Daemon B M τ) : Prop :=
  x.handler.words.Within (d.backend.features x.backend.backend) (offeredProtocol d x) ∧
    x.backend.words.Within (d.backend.features x.backend.backend) (offeredProtocol d x)

/-- The message asks for a feature that is not on offer. -/
def AsksMore (d : Deps B M) (x : Daemon B M τ) (req : Request FrontendReq) : Prop :=
  (∃ v, Asks .setFeatures v req ∧ v &&& ~~~(d.backend.features x.backend.backend) ≠ 0) ∨
    ∃ v, Asks .setProtocolFeatures v req ∧ v &&& ~~~(offeredProtocol d x) ≠ 0

def AsksWithin (d : Deps B M) (x : Daemon B M τ) (s : RxSock) : Prop :=
  ∀ req, Receives s req → ¬AsksMore d x req

/-- A message that asks for more fails and leaves all words as they are. -/
def RefusesMore (d : Deps B M) (send : List UInt8 → List File → τ → Except Error Unit × τ) (p : Platform)
    (x : Daemon B M τ) (s : RxSock) : Prop :=
  ∀ req, Receives s req → AsksMore d x req →
    (∃ e x' s', handleRequest ⟨fun c h => h.invoke d c, send⟩ p x s = .ret (.error e, x', s')) ∧
      (serveOne d send p x s).handler.words = x.handler.words ∧
      (serveOne d send p x s).backend.words = x.backend.words

theorem offered_serveOne_iff {F P : UInt64} (hF : ∀ b, d.backend.features b = F)
    (hP : ∀ b, d.backend.protocolFeatures b = P) {x : Daemon B M τ} {s : RxSock}
    (hstate : x.handler.error = none) (hoffered : Offered d x) (hneg : Negotiating x s) :
    Offered d (serveOne d send p x s) ↔ AsksWithin d x s := by
  by_cases hrecv : ∃ req, Receives s req
  case neg =>
    rw [not_exists] at hrecv
    rw [serveOne_silent d send p hrecv]
    exact iff_of_true hoffered fun req h => absurd h (hrecv req)
  obtain ⟨req, hreq⟩ := hrecv
  obtain ⟨cs, htaken, -, hwords, hbackend⟩ := serveOne_received d send p hstate hreq (hneg req hreq)
  rw [AsksWithin, hreq.forall_iff, AsksMore]
  simp only [Offered, offeredProtocol, hF, hP, hwords, hbackend] at hoffered ⊢
  obtain ⟨houter, hinner⟩ := hoffered
  cases htaken with
  | features v hasks =>
    have hnone : ¬∃ v, Asks .setProtocolFeatures v req ∧
        v &&& ~~~(P ||| VhostUserProtocolFeatures.REPLY_ACK) ≠ 0 := by
      simp [Asks, hasks.1]
    constructor
    · rintro ⟨⟨hv, -⟩, -⟩ (⟨v', hasks', hmore⟩ | hmore)
      · rw [← hasks'.2.2.2, hasks.2.2.2] at hmore
        exact hmore hv
      · exact hnone hmore
    · intro hless
      have hv : v &&& ~~~F = 0 := by
        by_contra hmore
        exact hless (.inl ⟨v, hasks, hmore⟩)
      have hoffers : x.backend.Offers d v := by rwa [VhostUserHandler.Offers, hF]
      refine ⟨⟨hv, houter.2⟩, ?_⟩
      have hset := VhostUserHandler.setFeatures_of_offers hoffers
      exact hset.symm ▸ ⟨hv, hinner.2⟩
  | protocol v hasks =>
    have hnone : ¬∃ v, Asks .setFeatures v req ∧ v &&& ~~~F ≠ 0 := by simp [Asks, hasks.1]
    constructor
    · rintro ⟨⟨-, hv⟩, -⟩ (hmore | ⟨v', hasks', hmore⟩)
      · exact hnone hmore
      · rw [← hasks'.2.2.2, hasks.2.2.2] at hmore
        exact hmore hv
    · intro hless
      have hv : v &&& ~~~(P ||| VhostUserProtocolFeatures.REPLY_ACK) = 0 := by
        by_contra hmore
        exact hless (.inr ⟨v, hasks, hmore⟩)
      exact ⟨⟨houter.1, hv⟩, ⟨hinner.1, hv⟩⟩
  | owner hplain =>
    refine iff_of_true ⟨houter, ?_⟩ (by simp [Asks, hplain.1])
    exact ⟨UInt64.zero_and, UInt64.zero_and⟩
  | device hplain hgate =>
    refine iff_of_true ⟨houter, ?_⟩ (by simp [Asks, hplain.1])
    have hreset := VhostUserHandler.words_resetDevice d x.backend
    exact hreset.symm ▸ ⟨UInt64.zero_and, hinner.2⟩
  | read cs hf hp ho hd hcs =>
    refine iff_of_true ?_ ?_
    · simp only [List.mem_cons, List.not_mem_nil, or_false] at hcs
      obtain rfl | rfl | rfl := hcs
      · exact ⟨houter, hinner⟩
      · exact ⟨houter, hinner⟩
      · exact ⟨houter, hinner⟩
    · rintro (⟨v, hasks, -⟩ | ⟨v, hasks, -⟩)
      · exact hf v hasks
      · exact hp v hasks

/-- **The negotiated features are among the offered ones, and asking for more is refused**, in every run
in which no message asks for more. -/
theorem negotiated_offered_iff {F P : UInt64} (hF : ∀ b, d.backend.features b = F)
    (hP : ∀ b, d.backend.protocolFeatures b = P) {b : B} {mem : M} {heap : LogHeap} {cell : Nat}
    {h : VhostUserHandler B M} (hnew : VhostUserHandler.new d b mem heap cell = some h) (sock : τ)
    (ss : List RxSock) (hneg : Along (serveOne d send p) Negotiating (fresh h sock) ss) :
    (Visits (serveOne d send p) (Offered d) (fresh h sock) ss ∧
        Along (serveOne d send p) (RefusesMore d send p) (fresh h sock) ss) ↔
      Along (serveOne d send p) (AsksWithin d) (fresh h sock) ss := by
  have hstart : Offered d (fresh h sock : Daemon B M τ) := by
    refine ⟨⟨UInt64.zero_and, UInt64.zero_and⟩, ?_⟩
    rw [fresh, words_new hnew]
    exact ⟨UInt64.zero_and, UInt64.zero_and⟩
  have hiff : Visits (serveOne d send p) (Offered d) (fresh h sock) ss ↔
      Along (serveOne d send p) (AsksWithin d) (fresh h sock) ss := by
    refine visits_iff_along (J := fun x => x.handler.error = none) ?_ ?_ ss _ rfl hstart hneg
    · exact fun x s hstate _ hs _ => error_serveOne d send p hstate hs
    · exact fun x s hstate hoffered hs => offered_serveOne_iff hF hP hstate hoffered hs
  rw [hiff, and_iff_left_iff_imp]
  intro hless
  exact hless.mono fun x s h req hreq hmore => absurd hmore (h req hreq)

end Offered

/-- `SET_PROTOCOL_FEATURES` with `RESET_DEVICE`, which the plain device does not offer: `handle_request`
succeeds and both copies have the bit. -/
theorem negotiated_not_offered :
    Along plainServe Negotiating (fresh plainHandler ())
      [onWire (asking .setProtocolFeatures VhostUserProtocolFeatures.RESET_DEVICE)] ∧
    ¬(Visits plainServe (Offered (plainDeps true)) (fresh plainHandler ())
        [onWire (asking .setProtocolFeatures VhostUserProtocolFeatures.RESET_DEVICE)] ∧
      Along plainServe (RefusesMore (plainDeps true) (fun _ _ t => (.ok (), t)) ⟨false, fun _ _ => .ok 1⟩)
        (fresh plainHandler ()) [onWire (asking .setProtocolFeatures VhostUserProtocolFeatures.RESET_DEVICE)]) := by
  refine ⟨⟨?_, trivial⟩, fun h => ?_⟩
  · have hreq : Receives (onWire (asking .setProtocolFeatures VhostUserProtocolFeatures.RESET_DEVICE))
        (asking .setProtocolFeatures VhostUserProtocolFeatures.RESET_DEVICE) := ⟨⟨[], [], .EINTR⟩, by decide⟩
    exact hreq.negotiating (by unfold BackendReqHandler.Negotiates; decide)
  · exact absurd h.1.last.1.2 (by decide)

theorem negotiated_offered_acknowledge :
    Visits plainServe (Offered (plainDeps true)) (fresh plainHandler ()) acknowledge := by
  refine ((negotiated_offered_iff (d := plainDeps true) (fun _ => rfl) (fun _ => rfl) (new_plainHandler true) ()
    acknowledge negotiating_acknowledge).2 ⟨?_, ?_, trivial⟩).1
  · refine receives_setFeatures.forall_iff.2 ?_
    rintro (⟨v, ⟨-, -, -, rfl⟩, hmore⟩ | ⟨v, hasks, -⟩)
    · exact absurd hmore (by decide)
    · exact absurd hasks.1 (by decide)
  · refine receives_setProtocolFeatures.forall_iff.2 ?_
    rintro (⟨v, hasks, -⟩ | ⟨v, ⟨-, -, -, rfl⟩, hmore⟩)
    · exact absurd hasks.1 (by decide)
    · exact absurd hmore (by decide)

end VhostUser
