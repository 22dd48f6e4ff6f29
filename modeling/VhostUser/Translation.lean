import VhostUser.Memory
/-!
# Translating ring addresses (`vmm_va_to_gpa`, `vhost-user-backend/src/handler.rs:181-189`)

The loop adds `vmm_addr + size` without a check. The sum cannot overflow for a mapping made by
`SET_MEM_TABLE`: `set_mem_table` of the request handler validates every `VhostUserMemoryRegion`
(`is_valid_common`, `message.rs:540-547`). `ADD_MEM_REG` carries a `VhostUserSingleMemoryRegion`,
whose validator is the default one (`message.rs:696`), so its `user_addr` is not checked anywhere.

`translation_right_iff` traces this from the message to the loop: over runs of memory messages that
completed, translation is right for every address exactly when every `ADD_MEM_REG` fits.
-/
namespace VhostUser
open Bytes EState Trace

/-! ## The loop -/

/-- `vmm_addr <= va < vmm_addr + size`, without wrapping. -/
def AddrMapping.Covers (m : AddrMapping) (va : UInt64) : Prop :=
  m.vmmAddr.toNat ≤ va.toNat ∧ va.toNat < m.vmmAddr.toNat + m.size.toNat

/-- The sum the loop computes fits a `u64`. -/
def AddrMapping.VmmFits (m : AddrMapping) : Prop := m.vmmAddr.toNat + m.size.toNat < 2 ^ 64

namespace VhostUserHandler

/-- Over mappings whose ends fit, the first one that covers the address translates it. -/
theorem vmmVaToGpaIn_spec {va : UInt64} {ms : List AddrMapping}
    (hall : ∀ m ∈ ms, m.VmmFits ∧ Extent m.key) :
    (vmmVaToGpaIn va ms = some none ∧ ∀ m ∈ ms, ¬ m.Covers va) ∨
      ∃ m ∈ ms, m.Covers va ∧ ∃ g, vmmVaToGpaIn va ms = some (some g) ∧
        g.toNat = m.gpaBase.toNat + (va.toNat - m.vmmAddr.toNat) := by
  induction ms with
  | nil => exact .inl ⟨rfl, by simp⟩
  | cons m ms ih =>
    have hm := hall m (by simp)
    have hfits : m.vmmAddr.toNat + m.size.toNat < 2 ^ 64 := hm.1
    have hgpa : m.gpaBase.toNat + m.size.toNat < 2 ^ 64 := hm.2.fits
    have hsum : (m.vmmAddr + m.size).toNat = m.vmmAddr.toNat + m.size.toNat := by
      rw [UInt64.toNat_add, Nat.mod_eq_of_lt hfits]
    by_cases hcov : m.Covers va
    · have hge : m.vmmAddr ≤ va := UInt64.le_iff_toNat_le.2 hcov.1
      have hlt : va < m.vmmAddr + m.size := UInt64.lt_iff_toNat_lt.2 (by rw [hsum]; exact hcov.2)
      have hoff : (va - m.vmmAddr).toNat = va.toNat - m.vmmAddr.toNat := UInt64.toNat_sub_of_le _ _ hge
      have hsmall : (va - m.vmmAddr).toNat + m.gpaBase.toNat < 2 ^ 64 := by
        have := hcov.2
        omega
      refine .inr ⟨m, by simp, hcov, va - m.vmmAddr + m.gpaBase, ?_, ?_⟩
      · simp only [vmmVaToGpaIn, ge_iff_le, hge, if_true, checkedAdd, hfits, hlt, hsmall, Option.map_some]
      · rw [UInt64.toNat_add, Nat.mod_eq_of_lt hsmall, hoff, Nat.add_comm]
    · have hnext : vmmVaToGpaIn va (m :: ms) = vmmVaToGpaIn va ms := by
        by_cases hge : m.vmmAddr ≤ va
        · have hnlt : ¬ va < m.vmmAddr + m.size := fun hlt =>
            hcov ⟨UInt64.le_iff_toNat_le.1 hge, by rw [← hsum]; exact UInt64.lt_iff_toNat_lt.1 hlt⟩
          simp only [vmmVaToGpaIn, ge_iff_le, hge, if_true, checkedAdd, hfits, hnlt, if_false]
        · simp only [vmmVaToGpaIn, ge_iff_le, hge, if_false]
      rw [hnext]
      rcases ih fun m' hm' => hall m' (List.mem_cons_of_mem m hm') with
        ⟨hnone, hno⟩ | ⟨m', hm', hcov', g, hg, hgv⟩
      · refine .inl ⟨hnone, ?_⟩
        simp only [List.mem_cons, forall_eq_or_imp]
        exact ⟨hcov, hno⟩
      · exact .inr ⟨m', List.mem_cons_of_mem m hm', hcov', g, hg, hgv⟩

/-- The last address reaches the sum of every mapping up to the first that overflows. -/
theorem vmmVaToGpaIn_overflow {ms : List AddrMapping} (h : ∃ m ∈ ms, ¬ m.VmmFits) :
    vmmVaToGpaIn (UInt64.ofNat (2 ^ 64 - 1)) ms = none := by
  induction ms with
  | nil => simp at h
  | cons m ms ih =>
    have htop : (UInt64.ofNat (2 ^ 64 - 1)).toNat = 2 ^ 64 - 1 := rfl
    have hge : m.vmmAddr ≤ UInt64.ofNat (2 ^ 64 - 1) := by
      have := m.vmmAddr.toNat_lt
      rw [UInt64.le_iff_toNat_le, htop]
      omega
    by_cases hfits : m.vmmAddr.toNat + m.size.toNat < 2 ^ 64
    · have hnlt : ¬ UInt64.ofNat (2 ^ 64 - 1) < m.vmmAddr + m.size := by
        have := (m.vmmAddr + m.size).toNat_lt
        rw [UInt64.lt_iff_toNat_lt, htop]
        omega
      have hrest : ∃ m' ∈ ms, ¬ m'.VmmFits := by
        obtain ⟨m', hm', hno⟩ := h
        rcases List.mem_cons.1 hm' with rfl | hm'
        · exact absurd hfits hno
        · exact ⟨m', hm', hno⟩
      simp only [vmmVaToGpaIn, ge_iff_le, hge, if_true, checkedAdd, hfits, hnlt, if_false]
      exact ih hrest
    · simp only [vmmVaToGpaIn, ge_iff_le, hge, if_true, checkedAdd, hfits, if_false]

variable {B M : Type} {d : Deps B M} {h : VhostUserHandler B M}

/-- The call for `va` does not overflow, finds a mapping exactly when one covers `va`, and an
address it returns lies in an installed region, at the offset `va` has in its mapping. -/
def Translates (vm : VmMemory M) (h : VhostUserHandler B M) (va : UInt64) : Prop :=
  ∃ r, h.vmmVaToGpa va = some r ∧ (r.isSome ↔ ∃ m ∈ h.mappings, m.Covers va) ∧
    ∀ g, r = some g → ∃ m ∈ h.mappings, m.Covers va ∧ ∃ reg ∈ vm.regions h.atomicMem,
      reg.guestBase.toNat ≤ g.toNat ∧ g.toNat < reg.guestBase.toNat + reg.size.toNat ∧
        g.toNat - reg.guestBase.toNat = va.toNat - m.vmmAddr.toNat

/-- Every mapping belongs to an installed region. -/
def Backed (vm : VmMemory M) (mem : M) (mappings : List AddrMapping) : Prop :=
  ∀ m ∈ mappings, Extent m.key ∧ ∃ reg ∈ vm.regions mem, reg.key = m.key

theorem translates_iff (hb : Backed d.vm h.atomicMem h.mappings) :
    (∀ va, Translates d.vm h va) ↔ ∀ m ∈ h.mappings, m.VmmFits := by
  constructor
  · intro ht m hm
    by_contra hno
    obtain ⟨r, hr, -⟩ := ht (UInt64.ofNat (2 ^ 64 - 1))
    rw [vmmVaToGpa, vmmVaToGpaIn_overflow ⟨m, hm, hno⟩] at hr
    cases hr
  · intro hfits va
    rcases @vmmVaToGpaIn_spec va h.mappings fun m hm => ⟨hfits m hm, (hb m hm).1⟩ with
      ⟨hnone, hno⟩ | ⟨m, hm, hcov, g, hg, hgv⟩
    · refine ⟨none, hnone, ?_, fun g hg => by cases hg⟩
      simp only [Option.isSome_none, Bool.false_eq_true, false_iff, not_exists, not_and]
      exact hno
    · refine ⟨some g, hg, by simpa using ⟨m, hm, hcov⟩, fun g' hg' => ?_⟩
      cases hg'
      obtain ⟨-, reg, hreg, hkey⟩ := hb m hm
      have hbase : reg.guestBase = m.gpaBase := congrArg Prod.fst hkey
      have hsize : reg.size = m.size := congrArg Prod.snd hkey
      have hlo := hcov.1
      have hhi := hcov.2
      refine ⟨m, hm, hcov, reg, hreg, ?_, ?_, ?_⟩ <;> rw [hbase, hgv]
      · omega
      · rw [hsize]; omega
      · omega

theorem Planned.backed {r : MemRequest} {p : MemPlan M} (hp : Planned d h r p)
    (hb : Backed d.vm h.atomicMem h.mappings) : Backed d.vm p.mem p.mappings := by
  intro m hm
  cases hp with
  | @table ctx files mem ms hmap hne hsorted =>
    obtain ⟨-, hkeys, hext, -⟩ := mapRegions_ok hmap
    have hmem : m.key ∈ (d.vm.regions mem).map (·.key) := hkeys ▸ List.mem_map_of_mem hm
    obtain ⟨reg, hreg, hkey⟩ := List.mem_map.1 hmem
    exact ⟨hkey ▸ hext reg hreg, reg, hreg, hkey⟩
  | insert hg hperm hsorted =>
    obtain ⟨hkey, hext, -⟩ := newRegion_ok hg
    rcases List.mem_append.1 hm with hold | hnew
    · obtain ⟨hext', reg, hreg, hkey'⟩ := hb m hold
      exact ⟨hext', reg, hperm.symm.subset (List.mem_cons_of_mem _ hreg), hkey'⟩
    · rw [List.mem_singleton.1 hnew, ← hkey]
      exact ⟨hext, _, hperm.symm.subset (List.mem_cons_self ..), rfl⟩
  | @remove region g pre post mem hkey hold hnew =>
    obtain ⟨hin, hbase⟩ := List.mem_filter.1 hm
    obtain ⟨hext, reg, hreg, hkey'⟩ := hb m hin
    have hne : reg ≠ g := by
      rintro rfl
      exact of_decide_eq_true hbase (congrArg Prod.fst (hkey'.symm.trans hkey))
    refine ⟨hext, reg, ?_, hkey'⟩
    rw [hold] at hreg
    rw [hnew]
    simp only [List.mem_append, List.mem_cons, hne, false_or] at hreg ⊢
    exact hreg

/-- The frontend addresses of the regions the request adds end below `2 ^ 64`. -/
def UserFits : MemRequest → Prop
  | .setMemTable ctx files => ∀ rf ∈ ctx.zip files, (addrMapping rf.1).VmmFits
  | .addMemRegion region _ => (addrMapping region.region).VmmFits
  | .removeMemRegion _ => True

theorem Planned.fits_iff {r : MemRequest} {p : MemPlan M} (hp : Planned d h r p)
    (hfits : ∀ m ∈ h.mappings, m.VmmFits) : (∀ m ∈ p.mappings, m.VmmFits) ↔ UserFits r := by
  cases hp with
  | table hmap hne hsorted =>
    rw [(mapRegions_ok hmap).1]
    simp only [UserFits, List.forall_mem_map]
  | insert hg hperm hsorted =>
    simp only [UserFits, List.mem_append, List.mem_singleton]
    exact ⟨fun hall => hall _ (.inr rfl), fun hnew m hm => hm.elim (hfits m) fun he => he ▸ hnew⟩
  | remove hkey hold hnew => exact iff_of_true (fun m hm => hfits m (List.mem_of_mem_filter hm)) trivial

end VhostUserHandler

/-! ## Memory messages -/

namespace BackendReqHandler
variable {B M τ : Type}

/-- The handler behind a `BackendReqHandler` with the sending socket `send`. -/
def handlerSvc (d : Deps B M) (send : List UInt8 → List File → τ → Except Error Unit × τ) :
    Svc (VhostUserHandler B M) τ :=
  ⟨VhostUserHandler.invoke d, send⟩

/-- The request a memory message stands for, after the checks of its parser. -/
inductive Decodes (req : Request FrontendReq) : MemRequest → Prop
  | table {ctx : List VhostUserMemoryRegion} {files : List File} :
    req.hdr.getCode = .ok .setMemTable → (∀ r ∈ ctx, r.isValidCommon = true) →
      Decodes req (.setMemTable ctx files)
  | insert {file : File} : req.hdr.getCode = .ok .addMemReg →
      Decodes req (.addMemRegion (ByteValued.fromSlice req.buf) file)
  | remove : req.hdr.getCode = .ok .remMemReg →
      Decodes req (.removeMemRegion (ByteValued.fromSlice req.buf))

variable {d : Deps B M} {send : List UInt8 → List File → τ → Except Error Unit × τ} {p : Platform}
  {x : Ctx BackendReqHandler (VhostUserHandler B M) Call τ}

/-- `x'` is `x` with the call of `r` made, or with no call made at all. -/
def Serves (d : Deps B M) (req : Request FrontendReq)
    (x x' : Ctx BackendReqHandler (VhostUserHandler B M) Call τ) : Prop :=
  (x'.calls = x.calls ∧ x'.backend = x.backend) ∨
    ∃ r, Decodes req r ∧ x'.calls = x.calls ++ [r.toCall] ∧ x'.backend = (r.run d x.backend).2

/-- The call and its acknowledgement. -/
theorem serves_call {req : Request FrontendReq} {r : MemRequest} (hr : Decodes req r)
    {res : Except Error Unit} :
    Serves d req x (final (sendAckMessage (handlerSvc d send) req.hdr res
      { x with backend := (r.run d x.backend).2, calls := x.calls ++ [r.toCall] })) := by
  have hk := keeps_sendAckMessage (handlerSvc d send) (p := fun x => (x.calls, x.backend))
    (fun _ _ => rfl) req.hdr res { x with backend := (r.run d x.backend).2, calls := x.calls ++ [r.toCall] }
  exact .inr ⟨r, hr, congrArg Prod.fst hk, congrArg Prod.snd hk⟩

theorem dispatch_setMemTable {req : Request FrontendReq} (hcode : req.hdr.getCode = .ok .setMemTable) :
    Serves d req x (final (dispatch (handlerSvc d send) p req x)) := by
  simp only [dispatch, hcode, bind_apply]
  rcases setMemTable_cases (handlerSvc d send) req.hdr req.size req.buf req.files x with
    ⟨e, hx⟩ | ⟨e, hx⟩ | ⟨regions, files, hvalid, hx⟩
  · have hk := keeps_sendAckMessage (handlerSvc d send) (p := fun x => (x.calls, x.backend))
      (fun _ _ => rfl) req.hdr (.error e) x
    simp only [hx]
    exact .inl ⟨congrArg Prod.fst hk, congrArg Prod.snd hk⟩
  · simp only [hx]
    exact .inl ⟨rfl, rfl⟩
  · simp only [hx, call_apply]
    exact serves_call (.table hcode hvalid)

theorem dispatch_addMemReg {req : Request FrontendReq} (hcode : req.hdr.getCode = .ok .addMemReg) :
    Serves d req x (final (dispatch (handlerSvc d send) p req x)) := by
  have hskip : Serves d req x x := .inl ⟨rfl, rfl⟩
  simp only [dispatch, hcode, bind_apply, getHandler_apply]
  cases checkProtoFeature x.handler VhostUserProtocolFeatures.CONFIGURE_MEM_SLOTS with
  | error e => exact hskip
  | ok _ =>
    simp only [orFail_ok_apply]
    cases req.files with
    | none => exact hskip
    | some files =>
      by_cases hone : files.length = 1
      · obtain ⟨file, rfl⟩ := List.length_eq_one_iff.1 hone
        rcases @extractRequestBody_cases _ τ VhostUserSingleMemoryRegion _ _ req.hdr req.size req.buf x with
          hx | ⟨e, hx⟩
        · simp only [List.length_singleton, ne_eq, not_true, if_false, bind_apply, hx, call_apply]
          exact serves_call (.insert hcode)
        · simp only [List.length_singleton, ne_eq, not_true, if_false, bind_apply, hx]
          exact hskip
      · simp only [hone, ne_eq, not_false_iff, if_true, bind_apply]
        exact hskip

theorem dispatch_remMemReg {req : Request FrontendReq} (hcode : req.hdr.getCode = .ok .remMemReg) :
    Serves d req x (final (dispatch (handlerSvc d send) p req x)) := by
  have hskip : Serves d req x x := .inl ⟨rfl, rfl⟩
  simp only [dispatch, hcode, bind_apply, getHandler_apply]
  cases checkProtoFeature x.handler VhostUserProtocolFeatures.CONFIGURE_MEM_SLOTS with
  | error e => exact hskip
  | ok _ =>
    rcases @extractRequestBody_cases _ τ VhostUserSingleMemoryRegion _ _ req.hdr req.size req.buf x with
      hx | ⟨e, hx⟩
    · simp only [orFail_ok_apply, hx, call_apply]
      exact serves_call (.remove hcode)
    · simp only [orFail_ok_apply, hx]
      exact hskip

/-- `SET_MEM_TABLE`, `ADD_MEM_REG` and `REM_MEM_REG`. -/
def isMemCode : FrontendReq → Bool
  | .setMemTable | .addMemReg | .remMemReg => true
  | _ => false

/-- **What a memory message does** to the handler behind the request handler. -/
theorem dispatch_memory {req : Request FrontendReq} {k : FrontendReq} (hcode : req.hdr.getCode = .ok k)
    (hk : isMemCode k = true) : Serves d req x (final (dispatch (handlerSvc d send) p req x)) := by
  cases k with
  | setMemTable => exact dispatch_setMemTable hcode
  | addMemReg => exact dispatch_addMemReg hcode
  | remMemReg => exact dispatch_remMemReg hcode
  | _ => cases hk

/-! ## Runs of memory messages -/

/-- A message as the dispatch sees it, with the answers `mmap` gives it. -/
abbrev MemMessage := Mmap × Request FrontendReq

def memDispatch (d : Deps B M) (send : List UInt8 → List File → τ → Except Error Unit × τ) (p : Platform)
    (x : Ctx BackendReqHandler (VhostUserHandler B M) Call τ) (a : MemMessage) :
    Ctx BackendReqHandler (VhostUserHandler B M) Call τ :=
  final (dispatch (handlerSvc { d with mmap := a.1 } send) p a.2 x)

/-- A memory message was delivered, and the handler's method returned `Ok`. -/
def Completed (d : Deps B M) (send : List UInt8 → List File → τ → Except Error Unit × τ) (p : Platform)
    (x : Ctx BackendReqHandler (VhostUserHandler B M) Call τ) (a : MemMessage) : Prop :=
  (∃ k, a.2.hdr.getCode = .ok k ∧ isMemCode k = true) ∧
    ∃ r : MemRequest, (memDispatch d send p x a).calls = x.calls ++ [r.toCall] ∧
      (r.run { d with mmap := a.1 } x.backend).1 = .ok ()

/-- An `ADD_MEM_REG` message adds a region whose frontend addresses end below `2 ^ 64`. -/
def AddFits (a : MemMessage) : Prop :=
  a.2.hdr.getCode = .ok .addMemReg →
    (VhostUserHandler.addrMapping
      (ByteValued.fromSlice a.2.buf : VhostUserSingleMemoryRegion).region).VmmFits

theorem toCall_inj {r r' : MemRequest} (h : r.toCall = r'.toCall) : r = r' := by
  cases r <;> cases r' <;> simp_all [MemRequest.toCall]

/-- A completed message carried out the plan of the request it stands for. -/
theorem completed_cases (hvm : VmMemorySpec d.vm) {a : MemMessage} (hc : Completed d send p x a) :
    ∃ r pl, Decodes a.2 r ∧ VhostUserHandler.Planned { d with mmap := a.1 } x.backend r pl ∧
      (memDispatch d send p x a).backend.atomicMem = pl.mem ∧
      (memDispatch d send p x a).backend.mappings = pl.mappings := by
  obtain ⟨⟨k, hcode, hk⟩, r, hcalls, hok⟩ := hc
  rcases @dispatch_memory B M τ { d with mmap := a.1 } send p x a.2 k hcode hk with
    ⟨hnone, -⟩ | ⟨r', hdec, hcalls', hback⟩
  · exact absurd (hcalls.symm.trans hnone) (by simp)
  · obtain rfl : r = r' := toCall_inj (by simpa using hcalls.symm.trans hcalls')
    obtain ⟨pl, b, hpl, -, hh⟩ := VhostUserHandler.run_ok (d := { d with mmap := a.1 }) (h := x.backend)
      (r := r) (Prod.ext hok rfl)
    have hback' : (memDispatch d send p x a).backend = _ := hback.trans hh
    refine ⟨r, pl, hdec, VhostUserHandler.planned (d := { d with mmap := a.1 }) hvm hpl, ?_, ?_⟩
    · rw [hback']
    · rw [hback']

/-- The validators leave only `ADD_MEM_REG` unchecked. -/
theorem Decodes.userFits_iff {a : MemMessage} {r : MemRequest} (hd : Decodes a.2 r) :
    VhostUserHandler.UserFits r ↔ AddFits a := by
  cases hd with
  | table hcode hvalid =>
    refine iff_of_true (fun rf hrf => ?_) fun hadd => ?_
    · exact (VhostUserMemoryRegion.isValidCommon_iff.1 (hvalid rf.1 (List.of_mem_zip hrf).1)).2.2.1
    · rw [hcode] at hadd
      cases hadd
  | insert hcode => exact ⟨fun hf _ => hf, fun hf => hf hcode⟩
  | remove hcode =>
    refine iff_of_true trivial fun hadd => ?_
    rw [hcode] at hadd
    cases hadd

/-- **Ring address translation is safe and right** in every state of a run of completed memory
messages, for every address, exactly when every `ADD_MEM_REG` among them fits. -/
theorem translation_right_iff (hvm : VmMemorySpec d.vm) {b : B} {mem : M} {heap : LogHeap} {n : Nat}
    (hnew : VhostUserHandler.new d b mem heap n = some x.backend) (as : List MemMessage)
    (hc : Along (memDispatch d send p) (Completed d send p) x as) :
    Visits (memDispatch d send p) (fun x => ∀ va, VhostUserHandler.Translates d.vm x.backend va) x as ↔
      ∀ a ∈ as, AddFits a := by
  have hnone : x.backend.mappings = [] := VhostUserHandler.mappings_new hnew
  have hb : VhostUserHandler.Backed d.vm x.backend.atomicMem x.backend.mappings := by
    simp [VhostUserHandler.Backed, hnone]
  rw [← @along_iff_forall _ _ (memDispatch d send p) AddFits as x]
  refine visits_iff_along (J := fun x => VhostUserHandler.Backed d.vm x.backend.atomicMem x.backend.mappings)
    (fun x a hb _ hc _ => ?_) (fun x a hb ht hc => ?_) as x hb ?_ hc
  · obtain ⟨r, pl, -, hpl, hmem, hms⟩ := completed_cases hvm hc
    rw [hmem, hms]
    exact hpl.backed hb
  · obtain ⟨r, pl, hdec, hpl, hmem, hms⟩ := completed_cases hvm hc
    have hb' : VhostUserHandler.Backed d.vm (memDispatch d send p x a).backend.atomicMem
        (memDispatch d send p x a).backend.mappings := by
      rw [hmem, hms]
      exact hpl.backed hb
    rw [VhostUserHandler.translates_iff hb', hms, ← hdec.userFits_iff]
    exact hpl.fits_iff ((VhostUserHandler.translates_iff hb).1 ht)
  · rw [VhostUserHandler.translates_iff hb]
    simp [hnone]

/-! `ADD_MEM_REG` of one page at a frontend address, to a device that takes it. -/

def addRegionMsg (userAddr : UInt64) : MemMessage :=
  (fun _ _ _ => .ok 0x7f00,
    ⟨VhostUserMsgHeader.new .addMemReg 0 40, 40,
      ByteValued.asSlice (⟨0, 0x1000, 0x1000, userAddr, 0⟩ : VhostUserSingleMemoryRegion), some [5]⟩)

def memSlotsCtx : Ctx BackendReqHandler (VhostUserHandler Unit (List GuestRegionMmap)) Call Unit :=
  ⟨⟨0, 0, VhostUserProtocolFeatures.CONFIGURE_MEM_SLOTS, false, none⟩, plainHandler, (), []⟩

def memSlotsStep := memDispatch (plainDeps true) (fun _ _ (u : Unit) => (.ok (), u)) ⟨false, fun _ _ => .ok 1⟩

/-- A page below the end of the address space: translation stays right. -/
theorem translation_right_low :
    Visits memSlotsStep (fun x => ∀ va, VhostUserHandler.Translates vmRef x.backend va) memSlotsCtx
      [addRegionMsg 0x7000] := by
  refine (translation_right_iff (d := plainDeps true) (x := memSlotsCtx) vmRef_spec
    (new_plainHandler true) [addRegionMsg 0x7000] ⟨⟨⟨.addMemReg, by decide, rfl⟩, ?_⟩, trivial⟩).2 ?_
  · exact ⟨.addMemRegion ⟨0, 0x1000, 0x1000, 0x7000, 0⟩ 5, by decide, by decide⟩
  · simp only [List.mem_singleton, forall_eq]
    exact fun _ => by unfold AddrMapping.VmmFits; decide

/-- The last page of the address space: accepted, and the end of its mapping overflows. -/
theorem translation_overflow_top :
    Completed (plainDeps true) (fun _ _ (u : Unit) => (.ok (), u)) ⟨false, fun _ _ => .ok 1⟩ memSlotsCtx
      (addRegionMsg (UInt64.ofNat (2 ^ 64 - 0x1000))) ∧
    (memSlotsStep memSlotsCtx (addRegionMsg (UInt64.ofNat (2 ^ 64 - 0x1000)))).backend.vmmVaToGpa
      (UInt64.ofNat (2 ^ 64 - 1)) = none ∧
    ¬ Visits memSlotsStep (fun x => ∀ va, VhostUserHandler.Translates vmRef x.backend va) memSlotsCtx
      [addRegionMsg (UInt64.ofNat (2 ^ 64 - 0x1000))] := by
  have hnone : (memSlotsStep memSlotsCtx (addRegionMsg (UInt64.ofNat (2 ^ 64 - 0x1000)))).backend.vmmVaToGpa
      (UInt64.ofNat (2 ^ 64 - 1)) = none := by decide
  refine ⟨⟨⟨.addMemReg, by decide, rfl⟩, ?_⟩, hnone, fun hv => ?_⟩
  · exact ⟨.addMemRegion ⟨0, 0x1000, 0x1000, UInt64.ofNat (2 ^ 64 - 0x1000), 0⟩ 5, by decide, by decide⟩
  · obtain ⟨r, hr, -⟩ := hv.last (UInt64.ofNat (2 ^ 64 - 1))
    exact absurd (hnone.symm.trans hr) (by simp)

end BackendReqHandler

end VhostUser
