import Kmod.HiLo
import Kmod.Run

/-!
# Builds with overflow checks

The relocation path uses Rust's plain integer operators. A release build wraps on overflow,
which is what the rest of the model computes. A build with overflow checks (the debug profile)
panics instead, and keeps the `debug_assert!` on `sh_entsize`. This file models that build:
the same code with checked operators (`uAdd`, `uSub`, `sAdd`, `sSub`), from the routines
(`applyRelocationDebug`) up to `applyRelocateAddDebug`.

For the routines the exact condition of a panic is `overflows`: a routine panics with an
overflow message where it holds and is its release version where it does not
(`applyRelocationDebug_of_overflows`, `applyRelocationDebug_of_not_overflows`). The driver's
own checks are characterised in `Kmod.DebugDriver`.
-/
namespace Kmod

open RelocM

/-! ## Checked operators -/

/-- `a + b` on a `w`-bit unsigned integer, with overflow checks. -/
def uAdd {w : Nat} (a b : BitVec w) : Except Fault (BitVec w) :=
  if a.toNat + b.toNat < 2 ^ w then pure (a + b)
  else throw (.panic "attempt to add with overflow")

/-- `a - b` on a `w`-bit unsigned integer, with overflow checks. -/
def uSub {w : Nat} (a b : BitVec w) : Except Fault (BitVec w) :=
  if b.toNat ≤ a.toNat then pure (a - b)
  else throw (.panic "attempt to subtract with overflow")

/-- `x` is a value of the signed `w`-bit type. -/
abbrev InSigned (w : Nat) (x : Int) : Prop := -(2 ^ (w - 1) : Int) ≤ x ∧ x < 2 ^ (w - 1)

/-- `a + b` on a `w`-bit signed integer, with overflow checks. -/
def sAdd {w : Nat} (a b : BitVec w) : Except Fault (BitVec w) :=
  if InSigned w (a.toInt + b.toInt) then pure (a + b)
  else throw (.panic "attempt to add with overflow")

/-- `a - b` on a `w`-bit signed integer, with overflow checks. -/
def sSub {w : Nat} (a b : BitVec w) : Except Fault (BitVec w) :=
  if InSigned w (a.toInt - b.toInt) then pure (a - b)
  else throw (.panic "attempt to subtract with overflow")

/-- `Ptr::add` with overflow checks. -/
def Ptr.addDebug (p : Ptr) (offset : Nat) : Except Fault Ptr := do
  pure ⟨← uAdd p.addr (BitVec.ofNat 64 offset)⟩

/-! ## The panics a debug build adds -/

/-- The panics a debug build adds to the release build: the overflow checks, and the assertion
on `sh_entsize`. -/
def DebugPanic (s : String) : Prop :=
  s = "attempt to add with overflow" ∨ s = "attempt to subtract with overflow" ∨
    s = "assertion failed: rel_section.sh_entsize == 24"

instance : DecidablePred DebugPanic := fun _ => inferInstanceAs (Decidable (_ ∨ _ ∨ _))

@[simp] theorem RelocM.lift_pure {α : Type} (a : α) : RelocM.lift (pure a) = pure a := rfl

/-! ## The routines with overflow checks -/

namespace Riscv64RelocationType

/-- The jump and branch routines: `address as i64 - location.0 as i64`, then the splice. -/
def applyPcRelSpliceDebug (w : Nat) (splice : BitVec w → BitVec 64 → BitVec w) (location : Ptr)
    (address : BitVec 64) : RelocM Unit := do
  let offset ← lift (sSub address location.addr)
  let originalInst ← location.read w
  location.write (splice originalInst offset)

/-- `apply_r_riscv_branch_rela`, debug build. -/
def applyRRiscvBranchRelaDebug : Ptr → BitVec 64 → RelocM Unit :=
  applyPcRelSpliceDebug 32 spliceBranch

/-- `apply_r_riscv_jal_rela`, debug build. -/
def applyRRiscvJalRelaDebug : Ptr → BitVec 64 → RelocM Unit :=
  applyPcRelSpliceDebug 32 spliceJal

/-- `apply_r_riscv_rvc_branch_rela`, debug build. -/
def applyRRiscvRvcBranchRelaDebug : Ptr → BitVec 64 → RelocM Unit :=
  applyPcRelSpliceDebug 16 spliceRvcBranch

/-- `apply_r_riscv_rvc_jump_rela`, debug build. -/
def applyRRiscvRvcJumpRelaDebug : Ptr → BitVec 64 → RelocM Unit :=
  applyPcRelSpliceDebug 16 spliceRvcJump

/-- `apply_r_riscv_pcrel_hi20_rela`, debug build. -/
def applyRRiscvPcrelHi20RelaDebug (location : Ptr) (address : BitVec 64) : RelocM Unit := do
  let offset ← lift (sSub address location.addr)
  if !riscvInsnValid32bitOffset offset then
    fail (offsetError "R_RISCV_PCREL_HI20" location address)
  else
    let hi20 := (← lift (sAdd offset 0x800#64)) &&& 0xfffff000#64
    let originalInst ← location.read 32
    location.write (spliceHi20 originalInst hi20)

/-- `apply_r_riscv_hi20_rela`, debug build: `address + 0x800` on `u64`. -/
def applyRRiscvHi20RelaDebug (location : Ptr) (address : BitVec 64) : RelocM Unit := do
  let hi20 := (← lift (uAdd address 0x800#64)) &&& 0xfffff000#64
  let originalInst ← location.read 32
  location.write (spliceHi20 originalInst hi20)

/-- `apply_r_riscv_lo12_i_rela`, debug build: the split on `i32`. -/
def applyRRiscvLo12IRelaDebug (location : Ptr) (address : BitVec 64) : RelocM Unit := do
  let address : BitVec 32 := address.setWidth 32
  let hi20 := (← lift (sAdd address 0x800#32)) &&& 0xfffff000#32
  let lo12 ← lift (sSub address hi20)
  let originalInst ← location.read 32
  location.write (spliceLo12I originalInst (lo12 &&& 0xfff#32))

/-- `apply_r_riscv_lo12_s_rela`, debug build. -/
def applyRRiscvLo12SRelaDebug (location : Ptr) (address : BitVec 64) : RelocM Unit := do
  let address : BitVec 32 := address.setWidth 32
  let hi20 := (← lift (sAdd address 0x800#32)) &&& 0xfffff000#32
  let lo12 ← lift (sSub address hi20)
  let originalInst ← location.read 32
  location.write (spliceLo12S originalInst lo12)

/-- `apply_r_riscv_call_plt_rela` and `apply_r_riscv_call_rela`, debug build. -/
def applyRRiscvCallPairDebug (name : String) (location : Ptr) (address : BitVec 64) :
    RelocM Unit := do
  let offset ← lift (sSub address location.addr)
  if !riscvInsnValid32bitOffset offset then
    fail (offsetError name location address)
  else
    let hi20 := (← lift (sAdd offset 0x800#64)) &&& 0xfffff000#64
    let lo12 := (← lift (sSub offset hi20)) &&& 0xfff#64
    let originalAuipc ← location.read 32
    location.write (spliceHi20 originalAuipc hi20)
    let originalJalrPtr ← lift (location.addDebug 4)
    let originalJalr ← originalJalrPtr.read 32
    originalJalrPtr.write (spliceLo12I originalJalr (lo12.setWidth 32))

/-- `apply_r_riscv_call_plt_rela`, debug build. -/
def applyRRiscvCallPltRelaDebug : Ptr → BitVec 64 → RelocM Unit :=
  applyRRiscvCallPairDebug "R_RISCV_CALL_PLT"

/-- `apply_r_riscv_call_rela`, debug build. -/
def applyRRiscvCallRelaDebug : Ptr → BitVec 64 → RelocM Unit :=
  applyRRiscvCallPairDebug "R_RISCV_CALL"

/-- `apply_r_riscv_subN_rela`, debug build: `value - address as uN`. -/
def applyRRiscvSubRelaDebug (w : Nat) (location : Ptr) (address : BitVec 64) : RelocM Unit := do
  let value ← location.read w
  location.write (← lift (uSub value (address.setWidth w)))

/-- `apply_r_riscv_sub16_rela`, debug build. -/
def applyRRiscvSub16RelaDebug : Ptr → BitVec 64 → RelocM Unit := applyRRiscvSubRelaDebug 16

/-- `apply_r_riscv_sub32_rela`, debug build. -/
def applyRRiscvSub32RelaDebug : Ptr → BitVec 64 → RelocM Unit := applyRRiscvSubRelaDebug 32

/-- `apply_r_riscv_sub64_rela`, debug build. -/
def applyRRiscvSub64RelaDebug : Ptr → BitVec 64 → RelocM Unit := applyRRiscvSubRelaDebug 64

/-- `Riscv64RelocationType::apply_relocation`, debug build. -/
def applyRelocationDebug (self : Riscv64RelocationType) (location address : BitVec 64) :
    RelocM Unit :=
  let location : Ptr := ⟨location⟩
  match self with
  | .rRiscvBranch => applyRRiscvBranchRelaDebug location address
  | .rRiscvJal => applyRRiscvJalRelaDebug location address
  | .rRiscvRvcBranch => applyRRiscvRvcBranchRelaDebug location address
  | .rRiscvRvcJump => applyRRiscvRvcJumpRelaDebug location address
  | .rRiscvPcrelHi20 => applyRRiscvPcrelHi20RelaDebug location address
  | .rRiscvHi20 => applyRRiscvHi20RelaDebug location address
  | .rRiscvLo12I => applyRRiscvLo12IRelaDebug location address
  | .rRiscvLo12S => applyRRiscvLo12SRelaDebug location address
  | .rRiscvCallPlt => applyRRiscvCallPltRelaDebug location address
  | .rRiscvCall => applyRRiscvCallRelaDebug location address
  | .rRiscvSub16 => applyRRiscvSub16RelaDebug location address
  | .rRiscvSub32 => applyRRiscvSub32RelaDebug location address
  | .rRiscvSub64 => applyRRiscvSub64RelaDebug location address
  | k => k.applyRelocation location.addr address

end Riscv64RelocationType

/-! ## Where the checks fire

The `i32` split of `LO12_I`/`LO12_S` overflows only in its first addition, and the `i64`
split of an offset that passed `riscv_insn_valid_32bit_offset` never does; so each routine
panics exactly on `overflows`. -/

theorem hi20_mask_eq_shift (x : BitVec 32) : x &&& 0xfffff000#32 = (x >>> 12) <<< 12 := by
  ext i
  rw [getLsbD_hi20_mask (le_refl _) x i.isLt, BitVec.getLsbD_shiftLeft, BitVec.getLsbD_ushiftRight]
  by_cases h : 12 ≤ (i : Nat)
  · simp [h, Nat.add_sub_cancel' h, show ¬ (i : Nat) < 12 by omega]
  · simp [h, show (i : Nat) < 12 by omega]

theorem toNat_hi20_mask_32 (x : BitVec 32) :
    (x &&& 0xfffff000#32).toNat = x.toNat / 4096 * 4096 := by
  rw [hi20_mask_eq_shift, BitVec.toNat_shiftLeft, BitVec.toNat_ushiftRight, Nat.shiftLeft_eq,
    Nat.shiftRight_eq_div_pow]
  have := x.isLt
  omega

/-- Once `address + 0x800` fits in `i32`, `address - hi20` does too. -/
theorem inSigned_lo12_32 (x : BitVec 32) (h : x.toInt + 2048 < 2 ^ 31) :
    InSigned 32 (x.toInt + (0x800#32).toInt) ∧
      InSigned 32 (x.toInt - ((x + 0x800#32) &&& 0xfffff000#32).toInt) := by
  rw [BitVec.toInt_eq_toNat_cond, BitVec.toInt_eq_toNat_cond ((x + 0x800#32) &&& 0xfffff000#32),
    toNat_hi20_mask_32, BitVec.toNat_add] at *
  have := x.isLt
  have h8 : (0x800#32).toInt = 2048 := by decide
  simp only [InSigned, h8, BitVec.toNat_ofNat, Nat.reducePow, Nat.reduceMod,
    Nat.add_one_sub_one] at *
  split at h <;> split <;> omega

/-- An offset that passes `riscv_insn_valid_32bit_offset` is far from the `i64` edges, and
the `0xfffff000` mask keeps `hi20` below `2^32`, so neither half of the split overflows. -/
theorem inSigned_split_64 (o : BitVec 64) (h : riscvInsnValid32bitOffset o = true) :
    InSigned 64 (o.toInt + (0x800#64).toInt) ∧
      InSigned 64 (o.toInt - ((o + 0x800#64) &&& 0xfffff000#64).toInt) := by
  rw [Riscv64RelocationType.riscvInsnValid32bitOffset_iff] at h
  have hb : ((o + 0x800#64) &&& 0xfffff000#64).toNat ≤ 0xfffff000 := by
    rw [BitVec.toNat_and]; exact Nat.and_le_right
  rw [BitVec.toInt_eq_toNat_cond ((o + 0x800#64) &&& 0xfffff000#64)]
  have h8 : (0x800#64).toInt = 2048 := by decide
  simp only [InSigned, h8, Nat.add_one_sub_one]
  split <;> omega

namespace Riscv64RelocationType

/-! One lemma per debug routine: its release version, or the panic of the check that fires. -/

section Spec

variable (p : Ptr) (V : BitVec 64) (m : Mem)

theorem applyPcRelSpliceDebug_apply (w : Nat) (splice : BitVec w → BitVec 64 → BitVec w) :
    applyPcRelSpliceDebug w splice p V m =
      if InSigned 64 (V.toInt - p.addr.toInt) then
        .ok () (m.store p.addr (splice (m.load p.addr w) (V - p.addr)))
      else .panic "attempt to subtract with overflow" := by
  unfold applyPcRelSpliceDebug sSub
  split_ifs <;> rfl

theorem applyRRiscvPcrelHi20RelaDebug_apply :
    applyRRiscvPcrelHi20RelaDebug p V m =
      if InSigned 64 (V.toInt - p.addr.toInt) then applyRRiscvPcrelHi20Rela p V m
      else .panic "attempt to subtract with overflow" := by
  unfold applyRRiscvPcrelHi20RelaDebug applyRRiscvPcrelHi20Rela
  by_cases h : InSigned 64 (V.toInt - p.addr.toInt)
  · simp only [sSub, if_pos h, RelocM.lift_pure, RelocM.pure_bind]
    split_ifs with hv
    · rfl
    · rw [sAdd, if_pos (inSigned_split_64 _ (by simpa using hv)).1]; rfl
  · simp only [sSub, if_neg h]; rfl

theorem applyRRiscvHi20RelaDebug_apply :
    applyRRiscvHi20RelaDebug p V m =
      if V.toNat + 0x800 < 2 ^ 64 then applyRRiscvHi20Rela p V m
      else .panic "attempt to add with overflow" := by
  unfold applyRRiscvHi20RelaDebug applyRRiscvHi20Rela uAdd
  rw [show (0x800#64).toNat = 0x800 from rfl]
  split_ifs <;> rfl

theorem applyRRiscvLo12IRelaDebug_apply :
    applyRRiscvLo12IRelaDebug p V m =
      if (V.setWidth 32).toInt + 2048 < 2 ^ 31 then applyRRiscvLo12IRela p V m
      else .panic "attempt to add with overflow" := by
  unfold applyRRiscvLo12IRelaDebug applyRRiscvLo12IRela
  have h8 : (0x800#32).toInt = 2048 := by decide
  split_ifs with h
  · have hs := inSigned_lo12_32 _ h
    simp only [sAdd, if_pos hs.1, sSub, if_pos hs.2, RelocM.lift_pure, RelocM.pure_bind]
  · rw [sAdd, if_neg fun hc => h (h8 ▸ hc.2)]; rfl

theorem applyRRiscvLo12SRelaDebug_apply :
    applyRRiscvLo12SRelaDebug p V m =
      if (V.setWidth 32).toInt + 2048 < 2 ^ 31 then applyRRiscvLo12SRela p V m
      else .panic "attempt to add with overflow" := by
  unfold applyRRiscvLo12SRelaDebug applyRRiscvLo12SRela
  have h8 : (0x800#32).toInt = 2048 := by decide
  split_ifs with h
  · have hs := inSigned_lo12_32 _ h
    simp only [sAdd, if_pos hs.1, sSub, if_pos hs.2, RelocM.lift_pure, RelocM.pure_bind]
  · rw [sAdd, if_neg fun hc => h (h8 ▸ hc.2)]; rfl

theorem applyRRiscvCallPairDebug_apply (name : String) :
    applyRRiscvCallPairDebug name p V m =
      if ¬ InSigned 64 (V.toInt - p.addr.toInt) then .panic "attempt to subtract with overflow"
      else if riscvInsnValid32bitOffset (V - p.addr) ∧ 2 ^ 64 ≤ p.addr.toNat + 4 then
        .panic "attempt to add with overflow"
      else applyRRiscvCallPair name p V m := by
  unfold applyRRiscvCallPairDebug applyRRiscvCallPair
  by_cases h : InSigned 64 (V.toInt - p.addr.toInt)
  · rw [if_neg (not_not_intro h), sSub, if_pos h]
    simp only [RelocM.lift_pure, RelocM.pure_bind]
    by_cases hv : riscvInsnValid32bitOffset (V - p.addr) = true
    · have hs := inSigned_split_64 _ hv
      have h4 : (BitVec.ofNat 64 4).toNat = 4 := rfl
      simp only [hv, Bool.not_true, Bool.false_eq_true, if_false, true_and, sAdd, sSub,
        if_pos hs.1, if_pos hs.2, Ptr.addDebug, uAdd, h4, RelocM.lift_pure, RelocM.pure_bind]
      split_ifs <;> first | omega | rfl
    · rw [Bool.not_eq_true] at hv
      simp only [hv, Bool.not_false, Bool.false_eq_true, false_and, if_false, if_true]
  · rw [if_pos h, sSub, if_neg h]; rfl

theorem applyRRiscvSubRelaDebug_apply (w : Nat) :
    applyRRiscvSubRelaDebug w p V m =
      if (V.setWidth w).toNat ≤ (m.load p.addr w).toNat then
        .ok () (m.store p.addr (m.load p.addr w - V.setWidth w))
      else .panic "attempt to subtract with overflow" := by
  show (lift (uSub (m.load p.addr w) (V.setWidth w)) >>= p.write) m = _
  unfold uSub
  split_ifs <;> rfl

end Spec

/-- The inputs on which a routine's checked arithmetic overflows: `address - location`
outside `i64`; `address + 0x800` past `u64::MAX` (`HI20`) or, after `address as i32`, past
`i32::MAX` (`LO12_I`, `LO12_S`); the `jalr` word of an in-range `CALL` past the end of the
address space; and a `SUB` whose word is below the value. -/
def overflows (k : Riscv64RelocationType) (L V : BitVec 64) (m : Mem) : Prop :=
  match k with
  | .rRiscvBranch | .rRiscvJal | .rRiscvRvcBranch | .rRiscvRvcJump | .rRiscvPcrelHi20 =>
    ¬ InSigned 64 (V.toInt - L.toInt)
  | .rRiscvCallPlt | .rRiscvCall =>
    ¬ InSigned 64 (V.toInt - L.toInt) ∨
      (riscvInsnValid32bitOffset (V - L) ∧ 2 ^ 64 ≤ L.toNat + 4)
  | .rRiscvHi20 => 2 ^ 64 ≤ V.toNat + 0x800
  | .rRiscvLo12I | .rRiscvLo12S => 2 ^ 31 ≤ (V.setWidth 32).toInt + 2048
  | .rRiscvSub16 => (m.load L 16).toNat < (V.setWidth 16).toNat
  | .rRiscvSub32 => (m.load L 32).toNat < (V.setWidth 32).toNat
  | .rRiscvSub64 => (m.load L 64).toNat < (V.setWidth 64).toNat
  | _ => False

instance (k : Riscv64RelocationType) (L V : BitVec 64) (m : Mem) :
    Decidable (k.overflows L V m) := by
  cases k <;> dsimp only [overflows] <;> infer_instance

/-- Where no check fires, the debug routine is the release routine. -/
theorem applyRelocationDebug_of_not_overflows {k : Riscv64RelocationType} {L V : BitVec 64}
    {m : Mem} (h : ¬ k.overflows L V m) :
    k.applyRelocationDebug L V m = k.applyRelocation L V m := by
  cases k
  case rRiscvBranch | rRiscvJal | rRiscvRvcBranch | rRiscvRvcJump =>
    exact (applyPcRelSpliceDebug_apply _ _ _ _ _).trans (if_pos (not_not.1 h))
  case rRiscvPcrelHi20 =>
    exact (applyRRiscvPcrelHi20RelaDebug_apply _ _ _).trans (if_pos (not_not.1 h))
  case rRiscvHi20 =>
    have h' : V.toNat + 0x800 < 2 ^ 64 := Nat.lt_of_not_le h
    show applyRRiscvHi20RelaDebug ⟨L⟩ V m = applyRRiscvHi20Rela ⟨L⟩ V m
    rw [applyRRiscvHi20RelaDebug_apply, if_pos h']
  case rRiscvLo12I => exact (applyRRiscvLo12IRelaDebug_apply _ _ _).trans (if_pos (not_le.1 h))
  case rRiscvLo12S => exact (applyRRiscvLo12SRelaDebug_apply _ _ _).trans (if_pos (not_le.1 h))
  case rRiscvCallPlt | rRiscvCall =>
    have ⟨h₁, h₂⟩ := not_or.1 h
    exact (applyRRiscvCallPairDebug_apply _ _ _ _).trans (by rw [if_neg h₁, if_neg h₂]; rfl)
  case rRiscvSub16 | rRiscvSub32 | rRiscvSub64 =>
    exact (applyRRiscvSubRelaDebug_apply _ _ _ _).trans (if_pos (not_lt.1 h))
  all_goals rfl

/-- Where a check fires, the debug routine panics. -/
theorem applyRelocationDebug_of_overflows {k : Riscv64RelocationType} {L V : BitVec 64}
    {m : Mem} (h : k.overflows L V m) :
    ∃ s, DebugPanic s ∧ k.applyRelocationDebug L V m = .panic s := by
  have hadd : DebugPanic "attempt to add with overflow" := .inl rfl
  have hsub : DebugPanic "attempt to subtract with overflow" := .inr (.inl rfl)
  cases k
  case rRiscvBranch | rRiscvJal | rRiscvRvcBranch | rRiscvRvcJump =>
    exact ⟨_, hsub, (applyPcRelSpliceDebug_apply _ _ _ _ _).trans (if_neg h)⟩
  case rRiscvPcrelHi20 =>
    exact ⟨_, hsub, (applyRRiscvPcrelHi20RelaDebug_apply _ _ _).trans (if_neg h)⟩
  case rRiscvHi20 =>
    show ∃ s, DebugPanic s ∧ applyRRiscvHi20RelaDebug ⟨L⟩ V m = _
    rw [applyRRiscvHi20RelaDebug_apply, if_neg (Nat.not_lt.2 h)]
    exact ⟨_, hadd, rfl⟩
  case rRiscvLo12I =>
    exact ⟨_, hadd, (applyRRiscvLo12IRelaDebug_apply _ _ _).trans (if_neg (not_lt.2 h))⟩
  case rRiscvLo12S =>
    exact ⟨_, hadd, (applyRRiscvLo12SRelaDebug_apply _ _ _).trans (if_neg (not_lt.2 h))⟩
  case rRiscvCallPlt | rRiscvCall =>
    by_cases h₁ : InSigned 64 (V.toInt - L.toInt)
    · exact ⟨_, hadd, (applyRRiscvCallPairDebug_apply _ _ _ _).trans
        (by rw [if_neg (not_not_intro h₁), if_pos (h.resolve_left (not_not_intro h₁))])⟩
    · exact ⟨_, hsub, (applyRRiscvCallPairDebug_apply _ _ _ _).trans (if_pos h₁)⟩
  case rRiscvSub16 | rRiscvSub32 | rRiscvSub64 =>
    exact ⟨_, hsub, (applyRRiscvSubRelaDebug_apply _ _ _ _).trans (if_neg (not_le.2 h))⟩
  all_goals exact h.elim

end Riscv64RelocationType

/-! ## The driver with overflow checks -/

namespace Riscv64ArchRelocate

open Riscv64RelocationType

/-- `findHi20`, debug build: `sh_addr + r_offset` on `u64`, the residue on `i64`. -/
def findHi20Debug (sechdrs : List SectionHeader) (relSection : SectionHeader)
    (loadInfo : ModuleLoadInfo) (stValue : BitVec 64) :
    List Elf64Rela → Except Fault (Option (BitVec 64))
  | [] => pure none
  | innerRela :: rest => do
    let hi20Loc ← uAdd (← index sechdrs relSection.shInfo.toNat).shAddr innerRela.rOffset
    let hi20Type ← decodeRelocType (getRelaType innerRela.rInfo)
    if hi20Loc = stValue ∧ (hi20Type = .rRiscvPcrelHi20 ∨ hi20Type = .rRiscvGotHi20) then
      let hi20Sym ← index loadInfo.syms (getRelaSymIdx innerRela.rInfo)
      let hi20SymVal ← sAdd hi20Sym.stValue innerRela.rAddend
      let offset ← sSub hi20SymVal hi20Loc
      if hi20Type = .rRiscvGotHi20 then
        throw (.panic "not implemented: GOT handling not implemented yet")
      else
        let hi_20 := (← sAdd offset 0x800#64) &&& 0xfffff000#64
        let lo_12 ← sSub offset hi_20
        pure (some lo_12)
    else
      findHi20Debug sechdrs relSection loadInfo stValue rest

/-- `prepareRela`, debug build: the location on `u64`, the target on `i64`. -/
def prepareRelaDebug (sechdrs : List SectionHeader) (relSection : SectionHeader)
    (loadInfo : ModuleLoadInfo) (relaList : List Elf64Rela) (rela : Elf64Rela) :
    Except Fault (Riscv64RelocationType × BitVec 64 × BitVec 64) := do
  let relType := getRelaType rela.rInfo
  let symIdx := getRelaSymIdx rela.rInfo
  let location ← uAdd (← index sechdrs relSection.shInfo.toNat).shAddr rela.rOffset
  let sym ← index loadInfo.syms symIdx
  let relocType ← decodeRelocType relType
  let _symName ← index loadInfo.symbolNames symIdx
  let targetAddr ← sAdd sym.stValue rela.rAddend
  if relocType = .rRiscvPcrelLo12I ∨ relocType = .rRiscvPcrelLo12S then
    match ← findHi20Debug sechdrs relSection loadInfo sym.stValue relaList with
    | some lo12 => pure (relocType, location, lo12)
    | none => throw (.err (.relocationFailed "Missing HI20 relocation for LO12"))
  else
    pure (relocType, location, targetAddr)

/-- `relocateRela`, debug build. -/
def relocateRelaDebug (sechdrs : List SectionHeader) (relSection : SectionHeader)
    (loadInfo : ModuleLoadInfo) (relaList : List Elf64Rela) (rela : Elf64Rela) :
    RelocM Unit := do
  let (relocType, location, targetAddr) ←
    RelocM.lift (prepareRelaDebug sechdrs relSection loadInfo relaList rela)
  relocType.applyRelocationDebug location targetAddr

/-- `relocateAll`, debug build. -/
def relocateAllDebug (sechdrs : List SectionHeader) (relSection : SectionHeader)
    (loadInfo : ModuleLoadInfo) (relaList : List Elf64Rela) :
    List Elf64Rela → RelocM Unit
  | [] => pure ()
  | rela :: todo => do
    relocateRelaDebug sechdrs relSection loadInfo relaList rela
    relocateAllDebug sechdrs relSection loadInfo relaList todo

/-- `Riscv64ArchRelocate::apply_relocate_add` built with overflow checks and debug
assertions: `sh_entsize` is asserted, and `offset + sh_size` is checked. -/
def applyRelocateAddDebug (elfData : List (BitVec 8)) (sechdrs : List SectionHeader)
    (loadInfo : ModuleLoadInfo) (relsec : Nat) : RelocM Unit := do
  let relSection ← RelocM.lift (index sechdrs relsec)
  let offset := relSection.shOffset.toNat
  if relSection.shEntsize ≠ 24#64 then
    RelocM.panic "assertion failed: rel_section.sh_entsize == 24"
  else
    let dataBuf ← RelocM.lift
      (slice elfData offset (← RelocM.lift (uAdd relSection.shOffset relSection.shSize)).toNat)
    let relaList := fromRawRela dataBuf relSection.shSize.toNat
    relocateAllDebug sechdrs relSection loadInfo relaList relaList

end Riscv64ArchRelocate

end Kmod
