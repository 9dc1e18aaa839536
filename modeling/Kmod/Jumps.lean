import Kmod.HiLo

/-!
# PC-relative jumps and the range checks

The four PC-relative jump and branch kinds (`BRANCH`, `JAL`, `RVC_BRANCH`,
`RVC_JUMP`) scatter the offset `V - L` over their format's immediate bits. For
every even offset the format can hold, the ISA's decoding of the patched word is
the offset and every other bit is the original word's
(`jump_relocations_encode_offset`). Out of reach they still return `Ok`: the
word then decodes to the offset wrapped into the reach, with bit 0 dropped
(`jump_relocations_wrap_offset`).

The absolute `HI20` has no range check either, although `LO12_I` and `LO12_S`
skip theirs because `HI20` is meant to have filtered the value: it returns `Ok`
for every value and keeps bits 12 to 31 of `V + 0x800`
(`applyRelocation_hi20_truncates`), so a value beyond 32 bits loses its high
bits (`hi20_far_value_truncated`). The kinds that do check are `R_RISCV_32` (the
value must fit in `u32`) and the auipc-paired `PCREL_HI20`, `CALL` and `CALL_PLT`
(the offset must lie in `[-2^31 - 2^11, 2^31 - 2^11)`); they fail exactly on the
values that do not fit, before writing anything. `range_checks_of_riscv_kinds`
gathers the four behaviours.
-/

namespace Kmod

open Riscv64RelocationType

/-! ## The formats -/

/-- The ISA format a PC-relative jump kind patches: the instruction width, the
offsets it reaches (`[-2^reach, 2^reach)`), how its immediate decodes, and which
bits hold it. -/
structure JumpFormat where
  width : Nat
  reach : Nat
  imm : BitVec width → BitVec 64
  field : Nat → Prop

/-- The format of each PC-relative jump kind, as the RISC-V ISA manual gives it. -/
def Riscv64RelocationType.jumpFormat : Riscv64RelocationType → Option JumpFormat
  | .rRiscvBranch => some ⟨32, 12, Isa.bImm, Isa.bField⟩
  | .rRiscvJal => some ⟨32, 20, Isa.jImm, Isa.jField⟩
  | .rRiscvRvcBranch => some ⟨16, 8, Isa.cbImm, Isa.cbField⟩
  | .rRiscvRvcJump => some ⟨16, 11, Isa.cjImm, Isa.cjField⟩
  | _ => none

theorem getLsbD_zero_eq_false_iff {o : BitVec 64} : o.getLsbD 0 = false ↔ o.toNat % 2 = 0 := by
  simp only [BitVec.getLsbD, Nat.testBit, Nat.shiftRight_zero, Nat.one_and_eq_mod_two,
    bne_eq_false_iff_eq]

/-! ## Jumps -/

/-- The patch of a jump kind `k` with format `f`, for an even offset in its reach. -/
def JumpPatched (k : Riscv64RelocationType) (f : JumpFormat) (L V : BitVec 64) (m : Mem) : Prop :=
  ∃ m', k.applyRelocation L V m = .ok () m' ∧ f.imm (m'.load L f.width) = V - L ∧
    ∀ i < f.width, ¬ f.field i → (m'.load L f.width).getLsbD i = (m.load L f.width).getLsbD i

section Jumps

variable {L V : BitVec 64} (m : Mem)

theorem jumpPatched_branch (hr : -(2 ^ 12 : Int) ≤ (V - L).toInt ∧ (V - L).toInt < 2 ^ 12)
    (h0 : (V - L).getLsbD 0 = false) : JumpPatched .rRiscvBranch ⟨32, 12, Isa.bImm, Isa.bField⟩ L V m :=
  ⟨_, rfl, by simpa using bImm_spliceBranch _ hr h0,
    fun _ hi hf => by simpa using getLsbD_spliceBranch_of_not_bField _ hi hf⟩

theorem jumpPatched_jal (hr : -(2 ^ 20 : Int) ≤ (V - L).toInt ∧ (V - L).toInt < 2 ^ 20)
    (h0 : (V - L).getLsbD 0 = false) : JumpPatched .rRiscvJal ⟨32, 20, Isa.jImm, Isa.jField⟩ L V m :=
  ⟨_, rfl, by simpa using jImm_spliceJal _ hr h0,
    fun _ hi hf => by simpa using getLsbD_spliceJal_of_not_jField _ hi hf⟩

theorem jumpPatched_rvcBranch (hr : -(2 ^ 8 : Int) ≤ (V - L).toInt ∧ (V - L).toInt < 2 ^ 8)
    (h0 : (V - L).getLsbD 0 = false) :
    JumpPatched .rRiscvRvcBranch ⟨16, 8, Isa.cbImm, Isa.cbField⟩ L V m :=
  ⟨_, rfl, by simpa using cbImm_spliceRvcBranch _ hr h0,
    fun _ hi hf => by simpa using getLsbD_spliceRvcBranch_of_not_cbField _ hi hf⟩

theorem jumpPatched_rvcJump (hr : -(2 ^ 11 : Int) ≤ (V - L).toInt ∧ (V - L).toInt < 2 ^ 11)
    (h0 : (V - L).getLsbD 0 = false) :
    JumpPatched .rRiscvRvcJump ⟨16, 11, Isa.cjImm, Isa.cjField⟩ L V m :=
  ⟨_, rfl, by simpa using cjImm_spliceRvcJump _ hr h0,
    fun _ hi hf => by simpa using getLsbD_spliceRvcJump_of_not_cjField _ hi hf⟩

end Jumps

/-- Every PC-relative jump kind, on every original word and every even offset in
its format's reach, returns `Ok` with a word whose ISA immediate is the offset and
whose other bits are the original's. -/
theorem jump_relocations_encode_offset (k : Riscv64RelocationType) (f : JumpFormat)
    (hk : k.jumpFormat = some f) (L V : BitVec 64) (m : Mem)
    (hr : -(2 ^ f.reach : Int) ≤ (V - L).toInt ∧ (V - L).toInt < 2 ^ f.reach)
    (he : (V - L).toNat % 2 = 0) : JumpPatched k f L V m := by
  have h0 := getLsbD_zero_eq_false_iff.2 he
  cases k <;> cases hk
  · exact jumpPatched_branch m hr h0
  · exact jumpPatched_jal m hr h0
  · exact jumpPatched_rvcBranch m hr h0
  · exact jumpPatched_rvcJump m hr h0

theorem branch_sixteen_ahead_patched :
    JumpPatched .rRiscvBranch ⟨32, 12, Isa.bImm, Isa.bField⟩ 0x1000 0x1010 (fun _ => 0) :=
  jump_relocations_encode_offset .rRiscvBranch _ rfl 0x1000 0x1010 _ (by decide) (by decide)

/-- A jump kind patches the offset wrapped into its format's reach, bit 0 dropped. -/
theorem applyRelocation_jump_wrap (k : Riscv64RelocationType) (f : JumpFormat)
    (hk : k.jumpFormat = some f) (L V : BitVec 64) (m : Mem) :
    ∃ m', k.applyRelocation L V m = .ok () m' ∧ f.imm (m'.load L f.width) = Isa.wrap f.reach (V - L) ∧
      ∀ i < f.width, ¬ f.field i → (m'.load L f.width).getLsbD i = (m.load L f.width).getLsbD i := by
  cases k <;> cases hk
  · exact ⟨_, rfl, by simpa using bImm_spliceBranch_wrap _ _,
      fun _ hi hf => by simpa using getLsbD_spliceBranch_of_not_bField _ hi hf⟩
  · exact ⟨_, rfl, by simpa using jImm_spliceJal_wrap _ _,
      fun _ hi hf => by simpa using getLsbD_spliceJal_of_not_jField _ hi hf⟩
  · exact ⟨_, rfl, by simpa using cbImm_spliceRvcBranch_wrap _ _,
      fun _ hi hf => by simpa using getLsbD_spliceRvcBranch_of_not_cbField _ hi hf⟩
  · exact ⟨_, rfl, by simpa using cjImm_spliceRvcJump_wrap _ _,
      fun _ hi hf => by simpa using getLsbD_spliceRvcJump_of_not_cjField _ hi hf⟩

/-- Every PC-relative jump kind returns `Ok` on every offset, in its reach or not: the patched
word decodes to the offset wrapped into the format's reach with bit 0 dropped, and every other
bit is the original word's. The jump lands at `V` exactly when the wrap changes nothing. -/
theorem jump_relocations_wrap_offset (k : Riscv64RelocationType) (f : JumpFormat)
    (hk : k.jumpFormat = some f) (L V : BitVec 64) (m : Mem) :
    ∃ m', k.applyRelocation L V m = .ok () m' ∧ f.imm (m'.load L f.width) = Isa.wrap f.reach (V - L) ∧
      ∀ i < f.width, ¬ f.field i → (m'.load L f.width).getLsbD i = (m.load L f.width).getLsbD i :=
  applyRelocation_jump_wrap k f hk L V m

/-- A branch 4 KiB ahead, one past the B-type reach, is patched to branch 4 KiB back. -/
theorem branch_4k_ahead_lands_4k_back :
    ∃ m', rRiscvBranch.applyRelocation 0 0x1000 (fun _ => 0) = .ok () m' ∧
      Isa.bImm (m'.load 0 32) = -0x1000 := by
  obtain ⟨m', h, hi, -⟩ := jump_relocations_wrap_offset rRiscvBranch _ rfl 0 0x1000 (fun _ => 0)
  exact ⟨m', h, hi.trans (by decide)⟩

/-! ## Range checks -/

section Checks

variable (p : Ptr) (V : BitVec 64) (m : Mem)

theorem fits_u32_iff : V = (V.setWidth 32).setWidth 64 ↔ V.toNat < 2 ^ 32 := by
  rw [BitVec.toNat_eq, BitVec.toNat_setWidth, BitVec.toNat_setWidth]
  have := V.isLt
  omega

theorem applyRRiscv32Rela_err_iff :
    (∃ e, applyRRiscv32Rela p V m = .err e m) ↔ 2 ^ 32 ≤ V.toNat := by
  by_cases h : V = (V.setWidth 32).setWidth 64
  · simpa [applyRRiscv32Rela_ok p V m h] using (fits_u32_iff V).1 h
  · simpa [applyRRiscv32Rela_err p V m h] using mt (fits_u32_iff V).2 h

theorem applyRRiscvPcrelHi20Rela_err_iff :
    (∃ e, applyRRiscvPcrelHi20Rela p V m = .err e m) ↔
      riscvInsnValid32bitOffset (V - p.addr) = false := by
  cases h : riscvInsnValid32bitOffset (V - p.addr)
  · simp [applyRRiscvPcrelHi20Rela_err p V m h]
  · simp [applyRRiscvPcrelHi20Rela_ok p V m h]

theorem applyRRiscvCallPair_err_iff (name : String) :
    (∃ e, applyRRiscvCallPair name p V m = .err e m) ↔
      riscvInsnValid32bitOffset (V - p.addr) = false := by
  cases h : riscvInsnValid32bitOffset (V - p.addr)
  · simp [applyRRiscvCallPair_err p V m name h]
  · simp [applyRRiscvCallPair_ok p V m name h]

end Checks

/-- `HI20` returns `Ok` on every value. Its `lui` immediate is bits 12 to 31 of `V + 0x800`,
sign-extended, whatever the bits above; the low twelve bits of the word are the original's. -/
theorem applyRelocation_hi20_truncates (L V : BitVec 64) (m : Mem) :
    ∃ m', rRiscvHi20.applyRelocation L V m = .ok () m' ∧
      Isa.uImm (m'.load L 32) = ((V + 0x800#64).extractLsb' 12 20 ++ 0#12).signExtend 64 ∧
      ∀ i < 12, (m'.load L 32).getLsbD i = (m.load L 32).getLsbD i := by
  refine ⟨m.store L (spliceHi20 (m.load L 32) ((V + 0x800#64) &&& 0xfffff000#64)), rfl, ?_,
    fun i hi => ?_⟩
  · rw [Mem.load_store, uImm_spliceHi20, extractLsb'_hi20_mask]
  · rw [Mem.load_store, getLsbD_spliceHi20_mask _ _ hi]

/-- `R_RISCV_32` and the auipc-paired kinds fail, keeping memory as it was, exactly
on the values their fields cannot hold. The four jump kinds and `HI20` have no check: they
return `Ok` on every value, the jumps with the offset wrapped into their reach and `HI20`
with bits 12 to 31 of `V + 0x800` only. -/
theorem range_checks_of_riscv_kinds (L V : BitVec 64) (m : Mem) :
    ((∃ e, rRiscv32.applyRelocation L V m = .err e m) ↔ 2 ^ 32 ≤ V.toNat) ∧
    (∀ k ∈ [rRiscvPcrelHi20, rRiscvCall, rRiscvCallPlt],
      (∃ e, k.applyRelocation L V m = .err e m) ↔
        ¬ (-(2 ^ 31 + 2 ^ 11 : Int) ≤ (V - L).toInt ∧ (V - L).toInt < 2 ^ 31 - 2 ^ 11)) ∧
    (∀ (k : Riscv64RelocationType) f, k.jumpFormat = some f →
      ∃ m', k.applyRelocation L V m = .ok () m' ∧
        f.imm (m'.load L f.width) = Isa.wrap f.reach (V - L) ∧
        ∀ i < f.width, ¬ f.field i → (m'.load L f.width).getLsbD i = (m.load L f.width).getLsbD i) ∧
    (∃ m', rRiscvHi20.applyRelocation L V m = .ok () m' ∧
      Isa.uImm (m'.load L 32) = ((V + 0x800#64).extractLsb' 12 20 ++ 0#12).signExtend 64 ∧
      ∀ i < 12, (m'.load L 32).getLsbD i = (m.load L 32).getLsbD i) := by
  refine ⟨applyRRiscv32Rela_err_iff ⟨L⟩ V m, ?_,
    fun k f hk => applyRelocation_jump_wrap k f hk L V m, applyRelocation_hi20_truncates L V m⟩
  have hr : riscvInsnValid32bitOffset (V - L) = false ↔
      ¬ (-(2 ^ 31 + 2 ^ 11 : Int) ≤ (V - L).toInt ∧ (V - L).toInt < 2 ^ 31 - 2 ^ 11) := by
    rw [← Bool.not_eq_true, riscvInsnValid32bitOffset_iff]
  simp only [List.mem_cons, List.mem_singleton, List.not_mem_nil, or_false]
  rintro k (rfl | rfl | rfl)
  · exact (applyRRiscvPcrelHi20Rela_err_iff ⟨L⟩ V m).trans hr
  all_goals exact (applyRRiscvCallPair_err_iff ⟨L⟩ V m _).trans hr

/-- `HI20` at `0x1000` of the value `0x123456789`, beyond 32 bits: `Ok`, with the `lui`
immediate `0x23456000`, the value's bit 32 lost. -/
theorem hi20_far_value_truncated :
    ∃ m', rRiscvHi20.applyRelocation 0x1000 0x123456789 (fun _ => 0) = .ok () m' ∧
      Isa.uImm (m'.load 0x1000 32) = 0x23456000 := by
  obtain ⟨m', h, hi, -⟩ := (range_checks_of_riscv_kinds 0x1000 0x123456789 (fun _ => 0)).2.2.2
  exact ⟨m', h, hi.trans (by decide)⟩

end Kmod
