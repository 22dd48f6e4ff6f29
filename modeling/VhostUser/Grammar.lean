import VhostUser.Dispatch
/-!
# The variable-length payloads and their grammar

`SET_MEM_TABLE`, `GET_CONFIG` and `SET_CONFIG` carry a body followed by a payload whose length
the body declares. `MemTable` and `ConfigBody` say, on the bytes, which payloads are well formed;
the parsers of `backend_req_handler.rs:748-852` call the backend for those and for no others.
-/
namespace VhostUser
open Bytes EState

theorem VhostUserMemory.isValid_iff {m : VhostUserMemory} :
    VhostUserMsgValidator.isValid m = true ↔
      m.padding1 = 0 ∧ 1 ≤ m.numRegions.toNat ∧ m.numRegions.toNat ≤ 32 := by
  have hzero : m.numRegions = 0 ↔ m.numRegions.toNat = 0 := UInt32.toNat_inj.symm
  simp only [VhostUserMsgValidator.isValid, maxAttachedFdEntries]
  by_cases hp : m.padding1 = 0
  · simp [hp, hzero]
    omega
  · simp [hp]

theorem VhostUserConfig.isValid_iff {m : VhostUserConfig} :
    VhostUserMsgValidator.isValid m = true ↔
      1 ≤ m.size.toNat ∧ m.offset.toNat + m.size.toNat ≤ 0x1000 ∧ m.flags &&& ~~~0x3 = 0 := by
  have hzero : m.size = 0 ↔ m.size.toNat = 0 := UInt32.toNat_inj.symm
  simp only [VhostUserMsgValidator.isValid, vhostUserConfigFlagsAll, vhostUserConfigSize]
  by_cases hover : m.size.toNat + m.offset.toNat ≥ 2 ^ 32
  · simp only [hover, if_true]
    constructor
    · intro h; cases h
    · rintro ⟨_, h, _⟩; omega
  · have hsum : (m.size + m.offset > 0x1000) ↔ 0x1000 < m.size.toNat + m.offset.toNat := by
      rw [gt_iff_lt, UInt32.lt_iff_toNat_lt, UInt32.toNat_add, Nat.mod_eq_of_lt (by omega)]
      rfl
    by_cases hflags : m.flags &&& ~~~0x3 = 0
    · simp [hflags, hzero, hsum]
      omega
    · simp [hflags]

namespace BackendReqHandler

/-- The record `i` of a memory table, 32 bytes from `8 + 32 i` on. -/
def recordAt (payload : List UInt8) (i : Nat) : VhostUserMemoryRegion :=
  ⟨u64At (8 + 32 * i) payload, u64At (8 + 32 * i + 8) payload, u64At (8 + 32 * i + 16) payload,
    u64At (8 + 32 * i + 24) payload⟩

/-- The number of regions a memory table declares. -/
def regionCount (payload : List UInt8) : Nat := (u32At 0 payload).toNat

/-- A non-empty range of guest, user and file addresses that stays inside `u64`. -/
def InRange (r : VhostUserMemoryRegion) : Prop :=
  r.memorySize ≠ 0 ∧
    r.guestPhysAddr.toNat + r.memorySize.toNat < 2 ^ 64 ∧
    r.userAddr.toNat + r.memorySize.toNat < 2 ^ 64 ∧
    r.mmapOffset.toNat + r.memorySize.toNat < 2 ^ 64

/-- A `SET_MEM_TABLE` payload that comes with `n` files. -/
def MemTable (payload : List UInt8) (n : Nat) : Prop :=
  payload.length = 8 + 32 * regionCount payload ∧
    1 ≤ regionCount payload ∧ regionCount payload ≤ 32 ∧
    u32At 4 payload = 0 ∧ n = regionCount payload ∧
    ∀ i < regionCount payload, InRange (recordAt payload i)

/-- A `GET_CONFIG` or `SET_CONFIG` payload: offset, size `s`, flags and `s` bytes. -/
def ConfigBody (payload : List UInt8) : Prop :=
  payload.length = 12 + (u32At 4 payload).toNat ∧ 1 ≤ (u32At 4 payload).toNat ∧
    (u32At 0 payload).toNat + (u32At 4 payload).toNat ≤ 0x1000 ∧
    u32At 8 payload &&& ~~~0x3 = 0

instance (r : VhostUserMemoryRegion) : Decidable (InRange r) :=
  inferInstanceAs (Decidable (_ ∧ _))
instance (payload : List UInt8) (n : Nat) : Decidable (MemTable payload n) :=
  inferInstanceAs (Decidable (_ ∧ _))
instance (payload : List UInt8) : Decidable (ConfigBody payload) :=
  inferInstanceAs (Decidable (_ ∧ _))

theorem fromSlice_drop_eq_recordAt (payload : List UInt8) (i : Nat) :
    ByteValued.fromSlice (payload.drop (8 + 32 * i)) = recordAt payload i := by
  simp only [ByteValued.fromSlice, recordAt, u64At, List.drop_drop, Nat.add_zero]

/-- Records that fit are read one after the other. -/
theorem recordsAt_ok {n i : Nat} {payload : List UInt8} (h : 8 + 32 * (i + n) ≤ payload.length) :
    recordsAt n (payload.drop (8 + 32 * i)) = .ok ((List.range' i n).map (recordAt payload)) := by
  induction n generalizing i with
  | zero => rfl
  | succ n ih =>
    have hfit : ByteValued.size VhostUserMemoryRegion ≤ (payload.drop (8 + 32 * i)).length := by
      rw [List.length_drop]
      show 32 ≤ _
      omega
    have hnext : (payload.drop (8 + 32 * i)).drop (ByteValued.size VhostUserMemoryRegion) =
        payload.drop (8 + 32 * (i + 1)) := by
      rw [List.drop_drop]
      rfl
    rw [recordsAt, readAt, if_pos hfit, hnext, ih (by omega), fromSlice_drop_eq_recordAt, List.range'_succ,
      List.map_cons]
    rfl

theorem isValid_recordAt_iff {payload : List UInt8} {i : Nat} :
    VhostUserMsgValidator.isValid (recordAt payload i) = true ↔ InRange (recordAt payload i) :=
  VhostUserMemoryRegion.isValidCommon_iff

theorem all_isValid_iff {payload : List UInt8} {k : Nat} :
    ((List.range' 0 k).map (recordAt payload)).all VhostUserMsgValidator.isValid = true ↔
      ∀ i < k, InRange (recordAt payload i) := by
  simp [isValid_recordAt_iff]

theorem readAt_ok {T : Type} [ByteValued T] {buf : List UInt8} (h : ByteValued.size T ≤ buf.length) :
    readAt T buf = .ok (ByteValued.fromSlice buf) := if_pos h

theorem subAt_ok {a b : Nat} (h : b ≤ a) : subAt a b = .ok (a - b) := if_pos h

/-- The call `SET_MEM_TABLE` makes, if its payload is well formed. -/
theorem callsOf_parseMemTable {hdr : VhostUserMsgHeader FrontendReq} {buf : List UInt8}
    (files : Option (List File)) (hok : checkRequestSize hdr buf.length hdr.getSize.toNat = .ok ()) :
    callsOf (parseMemTable hdr buf.length buf files) =
      if MemTable buf (files.getD []).length then
        [.setMemTable ((List.range' 0 (regionCount buf)).map (recordAt buf)) (files.getD [])]
      else [] := by
  have hsize : ByteValued.size VhostUserMemory = 8 := rfl
  have hrec : ByteValued.size VhostUserMemoryRegion = 32 := rfl
  have hcount : (ByteValued.fromSlice buf : VhostUserMemory).numRegions.toNat = regionCount buf := rfl
  have hpad : (ByteValued.fromSlice buf : VhostUserMemory).padding1 = u32At 4 buf := rfl
  unfold parseMemTable
  rw [hok]
  dsimp only
  rw [hsize]
  -- the checks of the source, in its order; each one that fails breaks one clause of the grammar
  split
  · rename_i hshort
    rw [if_neg fun h : MemTable buf _ => by have := h.1; omega]
    rfl
  · rename_i hshort
    rw [readAt_ok (by rw [hsize]; omega)]
    simp only [bind, Except.bind, Bool.not_eq_true', hcount, hrec]
    split
    · rename_i hvalid
      rw [if_neg fun h : MemTable buf _ => ?_]
      · rfl
      · have hbody := VhostUserMemory.isValid_iff.2 ⟨hpad.trans h.2.2.2.1, hcount ▸ h.2.1, hcount ▸ h.2.2.1⟩
        rw [hvalid] at hbody
        cases hbody
    · rename_i hvalid
      obtain ⟨hpad0, hpos, hmax⟩ := VhostUserMemory.isValid_iff.1 (Bool.eq_true_of_not_eq_false hvalid)
      rw [hcount] at hpos hmax
      split
      · rename_i hlen
        rw [if_neg fun h : MemTable buf _ => by have := h.1; omega]
        rfl
      · rename_i hlen
        cases files with
        | none =>
          rw [if_neg fun h : MemTable buf _ => by have := h.2.2.2.2.1; simp at this; omega]
          rfl
        | some files =>
          rw [Option.getD_some]
          dsimp only
          split
          · rename_i hfiles
            rw [if_neg fun h : MemTable buf _ => hfiles h.2.2.2.2.1]
            rfl
          · rename_i hfiles
            have hrecords : recordsAt (regionCount buf) (buf.drop 8) =
                .ok ((List.range' 0 (regionCount buf)).map (recordAt buf)) := by
              exact recordsAt_ok (n := regionCount buf) (i := 0) (by omega)
            rw [hrecords]
            dsimp only
            split
            · rename_i hall
              rw [if_pos ⟨by omega, hpos, hmax, hpad0, not_not.1 hfiles, all_isValid_iff.1 hall⟩]
              rfl
            · rename_i hall
              rw [if_neg fun h : MemTable buf _ => hall (all_isValid_iff.2 h.2.2.2.2.2)]
              rfl

/-- The body of a configuration message is valid and declares the bytes that follow it. -/
theorem configBody_iff {buf : List UInt8} (h : 12 ≤ buf.length) :
    ConfigBody buf ↔ VhostUserMsgValidator.isValid (ByteValued.fromSlice buf : VhostUserConfig) = true ∧
      buf.length - 12 = (u32At 4 buf).toNat := by
  have hsize : (ByteValued.fromSlice buf : VhostUserConfig).size = u32At 4 buf := rfl
  have hoffset : (ByteValued.fromSlice buf : VhostUserConfig).offset = u32At 0 buf := rfl
  have hflags : (ByteValued.fromSlice buf : VhostUserConfig).flags = u32At 8 buf := rfl
  rw [VhostUserConfig.isValid_iff, hsize, hoffset, hflags, ConfigBody]
  constructor
  · rintro ⟨hlen, hpos, hmax, hbits⟩
    exact ⟨⟨hpos, hmax, hbits⟩, by omega⟩
  · rintro ⟨⟨hpos, hmax, hbits⟩, hlen⟩
    exact ⟨by omega, hpos, hmax, hbits⟩

/-- The flags of a valid configuration body survive `from_bits`. -/
theorem fromBits_configBody {buf : List UInt8} (h : ConfigBody buf) :
    fromBits vhostUserConfigFlagsAll (ByteValued.fromSlice buf : VhostUserConfig).flags = some (u32At 8 buf) :=
  if_pos h.2.2.2

theorem callsOf_parseGetConfig {buf : List UInt8} (hlen : buf.length ≤ maxMsgSize) :
    callsOf (parseGetConfig buf) =
      if ConfigBody buf then [.getConfig (u32At 0 buf) (u32At 4 buf) (u32At 8 buf)] else [] := by
  have hsize : ByteValued.size VhostUserConfig = 12 := rfl
  have hdeclared : (ByteValued.fromSlice buf : VhostUserConfig).size.toNat = (u32At 4 buf).toNat := rfl
  unfold parseGetConfig
  dsimp only
  rw [hsize]
  by_cases hshort : buf.length < 12
  · rw [if_pos (by simp [hshort]), if_neg fun h : ConfigBody buf => by have := h.1; omega]
    rfl
  · have hiff : ConfigBody buf ↔ _ := configBody_iff (by omega)
    rw [if_neg (by simp; omega), readAt_ok (by rw [hsize]; omega)]
    simp only [bind, Except.bind, Bool.not_eq_true', hdeclared]
    split
    · rename_i hvalid
      rw [if_neg fun h : ConfigBody buf => by rw [(hiff.1 h).1] at hvalid; cases hvalid]
      rfl
    · rename_i hvalid
      rw [subAt_ok (by omega)]
      dsimp only
      split
      · rename_i hne
        rw [if_neg fun h : ConfigBody buf => hne (hiff.1 h).2]
        rfl
      · rename_i heq
        have hbody := hiff.2 ⟨Bool.eq_true_of_not_eq_false hvalid, not_not.1 heq⟩
        rw [if_pos hbody, fromBits_configBody hbody]
        rfl

/-- `SET_CONFIG` is decided as `GET_CONFIG` is, and takes the rest of the payload along. -/
theorem callsOf_parseSetConfig_eq (buf : List UInt8) : callsOf (parseSetConfig buf.length buf) =
    (callsOf (parseGetConfig buf)).map fun
      | .getConfig offset _ flags => .setConfig offset (buf.drop 12) flags
      | c => c := by
  have hsize : ByteValued.size VhostUserConfig = 12 := rfl
  unfold parseSetConfig parseGetConfig
  dsimp only
  rw [hsize]
  by_cases hbad : (decide (buf.length > maxMsgSize) || decide (buf.length < 12)) = true
  · rw [if_pos hbad, if_pos hbad]
    rfl
  · have hlen : 12 ≤ buf.length := by
      simp at hbad
      omega
    rw [if_neg hbad, if_neg hbad, readAt_ok (by rw [hsize]; exact hlen), subAt_ok hlen]
    simp only [bind, Except.bind]
    cases VhostUserMsgValidator.isValid (ByteValued.fromSlice buf : VhostUserConfig) with
    | false => rfl
    | true =>
      by_cases hbody : buf.length - 12 = (ByteValued.fromSlice buf : VhostUserConfig).size.toNat
      · cases fromBits vhostUserConfigFlagsAll (ByteValued.fromSlice buf : VhostUserConfig).flags with
        | none => simp [hbody, throw, throwThe, MonadExceptOf.throw, pure, Except.pure]
        | some flags => simp [hbody, hlen, pure, Except.pure]
      · simp [hbody, throw, throwThe, MonadExceptOf.throw, pure, Except.pure]

theorem callsOf_parseSetConfig {buf : List UInt8} (hlen : buf.length ≤ maxMsgSize) :
    callsOf (parseSetConfig buf.length buf) =
      if ConfigBody buf then [.setConfig (u32At 0 buf) (buf.drop 12) (u32At 8 buf)] else [] := by
  rw [callsOf_parseSetConfig_eq, callsOf_parseGetConfig hlen]
  split <;> rfl

theorem checkRequestSize_ok {hdr : VhostUserMsgHeader FrontendReq} {size expected : Nat} :
    checkRequestSize hdr size expected = .ok () ↔
      hdr.getSize.toNat = expected ∧ hdr.isReply = false ∧ hdr.getVersion = 0x1 ∧ size = expected := by
  unfold checkRequestSize
  split
  · rename_i h
    simp only [Bool.or_eq_true, decide_eq_true_eq, bne_iff_ne] at h
    simp only [reduceCtorEq, false_iff]
    rintro ⟨h1, h2, h3, h4⟩
    simp [h1, h2, h3, h4] at h
  · rename_i h
    simp only [Bool.or_eq_true, decide_eq_true_eq, bne_iff_ne, not_or, not_not, ne_eq,
      Bool.not_eq_true] at h
    simp only [true_iff]
    exact ⟨h.1.1.1, h.1.1.2, h.1.2, h.2⟩

section Parsers
variable {β τ : Type} (svc : Svc β τ)

/-- The parsers of the variable-length payloads call the backend exactly for the payloads of the
grammar, with what these payloads spell out. -/
theorem parsers_accept_grammar (hdr : VhostUserMsgHeader FrontendReq) (payload : List UInt8)
    (files : Option (List File)) (x : Ctx BackendReqHandler β Call τ)
    (hhdr : hdr.isValid = true) (hreply : hdr.isReply = false) (hsize : hdr.getSize.toNat = payload.length) :
    (final (setMemTable svc hdr payload.length payload files x)).calls =
        x.calls ++ (if MemTable payload (files.getD []).length then
          [.setMemTable ((List.range (regionCount payload)).map (recordAt payload)) (files.getD [])]
        else []) ∧
      (final (getConfig svc hdr payload x)).calls =
        x.calls ++ (if ConfigBody payload then
          [.getConfig (u32At 0 payload) (u32At 4 payload) (u32At 8 payload)]
        else []) ∧
      (final (setConfig svc payload.length payload x)).calls =
        x.calls ++ (if ConfigBody payload then
          [.setConfig (u32At 0 payload) (payload.drop 12) (u32At 8 payload)]
        else []) := by
  obtain ⟨_, hmax, hversion, _⟩ := VhostUserMsgHeader.isValid_iff.1 hhdr
  have hok : checkRequestSize hdr payload.length hdr.getSize.toNat = .ok () :=
    checkRequestSize_ok.2 ⟨rfl, hreply, hversion, hsize.symm⟩
  have hlen : payload.length ≤ maxMsgSize := hsize ▸ hmax
  have hack (res : Except Error Unit) : Keeps (fun x => x.calls) (sendAckMessage svc hdr res) :=
    keeps_sendAckMessage svc (fun _ _ => rfl) hdr res
  refine ⟨?_, ?_, ?_⟩
  · rw [← final_bind_of_keeps hack, setMemTable_eq, (final_perform svc hdr _ x).1,
      callsOf_parseMemTable files hok, List.range_eq_range']
  · rw [getConfig_eq, (final_perform svc hdr _ x).1, callsOf_parseGetConfig hlen]
  · rw [← final_bind_of_keeps hack, setConfig_eq, (final_perform svc hdr _ x).1,
      callsOf_parseSetConfig hlen]

end Parsers

/-- A table of two regions, the higher one first. -/
def twoRegions : List UInt8 :=
  ByteValued.asSlice (⟨2, 0⟩ : VhostUserMemory) ++
    (ByteValued.asSlice (⟨0x4000, 0x1000, 0x9000, 0x2000⟩ : VhostUserMemoryRegion) ++
      ByteValued.asSlice (⟨0x1000, 0x2000, 0x7000, 0⟩ : VhostUserMemoryRegion))

/-- The regions and the files arrive in the order of the table. -/
theorem parsers_accept_twoRegions :
    (final (setMemTable refusing (.new .setMemTable 0 72) twoRegions.length twoRegions (some [8, 7]) freshCtx)).calls =
      [.setMemTable [⟨0x4000, 0x1000, 0x9000, 0x2000⟩, ⟨0x1000, 0x2000, 0x7000, 0⟩] [8, 7]] :=
  (parsers_accept_grammar refusing (.new .setMemTable 0 72) twoRegions (some [8, 7]) freshCtx
    (by decide) (by decide) (by decide)).1.trans (by decide)

end BackendReqHandler

end VhostUser
