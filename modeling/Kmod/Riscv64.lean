import Kmod.Arch

/-!
# The RISC-V relocation table (`arch/riscv64.rs`)

`Riscv64RelocationType` with its ABI numbering and the `IntEnum` conversion from
a raw `u32`, then one routine per supported kind and the dispatcher
`apply_relocation`. Every routine is written as the Rust one is: the same
masks, shifts and casts (`as u32` is `setWidth 32`, `as i64` reinterprets the
bits, `i64 >>` is `sshiftRight`), reading the original instruction word before
writing the patched one.

The pure part of each instruction patch, from the original word and the offset
to the new word, is a `splice` of its own, so that the bit-level facts in
`Kmod.Splice` are stated once per instruction format. Routines of one family
(`ADD16/32/64`, `SUB16/32/64`, `CALL`/`CALL_PLT`) are one definition with the
member's width or name as a parameter.
-/

namespace Kmod

/-- `Riscv64RelocationType`, `#[repr(u32)]` with the ELF ABI numbers. -/
inductive Riscv64RelocationType where
  | rRiscvNone
  | rRiscv32
  | rRiscv64
  | rRiscvRelative
  | rRiscvCopy
  | rRiscvJumpSlot
  | rRiscvTlsDtpmod32
  | rRiscvTlsDtpmod64
  | rRiscvTlsDtprel32
  | rRiscvTlsDtprel64
  | rRiscvTlsTprel32
  | rRiscvTlsTprel64
  | rRiscvBranch
  | rRiscvJal
  | rRiscvCall
  | rRiscvCallPlt
  | rRiscvGotHi20
  | rRiscvTlsGotHi20
  | rRiscvTlsGdHi20
  | rRiscvPcrelHi20
  | rRiscvPcrelLo12I
  | rRiscvPcrelLo12S
  | rRiscvHi20
  | rRiscvLo12I
  | rRiscvLo12S
  | rRiscvTprelHi20
  | rRiscvTprelLo12I
  | rRiscvTprelLo12S
  | rRiscvTprelAdd
  | rRiscvAdd8
  | rRiscvAdd16
  | rRiscvAdd32
  | rRiscvAdd64
  | rRiscvSub8
  | rRiscvSub16
  | rRiscvSub32
  | rRiscvSub64
  | rRiscvGnuVtinherit
  | rRiscvGnuVtentry
  | rRiscvAlign
  | rRiscvRvcBranch
  | rRiscvRvcJump
  | rRiscvRvcLui
  | rRiscvGprelI
  | rRiscvGprelS
  | rRiscvTprelI
  | rRiscvTprelS
  | rRiscvRelax
  | rRiscvSub6
  | rRiscvSet6
  | rRiscvSet8
  | rRiscvSet16
  | rRiscvSet32
  deriving DecidableEq, Repr

namespace Riscv64RelocationType

/-- The `#[repr(u32)]` discriminant. -/
def toU32 : Riscv64RelocationType → Nat
  | .rRiscvNone => 0
  | .rRiscv32 => 1
  | .rRiscv64 => 2
  | .rRiscvRelative => 3
  | .rRiscvCopy => 4
  | .rRiscvJumpSlot => 5
  | .rRiscvTlsDtpmod32 => 6
  | .rRiscvTlsDtpmod64 => 7
  | .rRiscvTlsDtprel32 => 8
  | .rRiscvTlsDtprel64 => 9
  | .rRiscvTlsTprel32 => 10
  | .rRiscvTlsTprel64 => 11
  | .rRiscvBranch => 16
  | .rRiscvJal => 17
  | .rRiscvCall => 18
  | .rRiscvCallPlt => 19
  | .rRiscvGotHi20 => 20
  | .rRiscvTlsGotHi20 => 21
  | .rRiscvTlsGdHi20 => 22
  | .rRiscvPcrelHi20 => 23
  | .rRiscvPcrelLo12I => 24
  | .rRiscvPcrelLo12S => 25
  | .rRiscvHi20 => 26
  | .rRiscvLo12I => 27
  | .rRiscvLo12S => 28
  | .rRiscvTprelHi20 => 29
  | .rRiscvTprelLo12I => 30
  | .rRiscvTprelLo12S => 31
  | .rRiscvTprelAdd => 32
  | .rRiscvAdd8 => 33
  | .rRiscvAdd16 => 34
  | .rRiscvAdd32 => 35
  | .rRiscvAdd64 => 36
  | .rRiscvSub8 => 37
  | .rRiscvSub16 => 38
  | .rRiscvSub32 => 39
  | .rRiscvSub64 => 40
  | .rRiscvGnuVtinherit => 41
  | .rRiscvGnuVtentry => 42
  | .rRiscvAlign => 43
  | .rRiscvRvcBranch => 44
  | .rRiscvRvcJump => 45
  | .rRiscvRvcLui => 46
  | .rRiscvGprelI => 47
  | .rRiscvGprelS => 48
  | .rRiscvTprelI => 49
  | .rRiscvTprelS => 50
  | .rRiscvRelax => 51
  | .rRiscvSub6 => 52
  | .rRiscvSet6 => 53
  | .rRiscvSet8 => 54
  | .rRiscvSet16 => 55
  | .rRiscvSet32 => 56

/-- `Riscv64RelocationType::try_from(u32)` derived by `IntEnum`: the variant with
that discriminant, if any. -/
def tryFrom (v : BitVec 32) : Option Riscv64RelocationType :=
  match v.toNat with
  | 0 => some .rRiscvNone
  | 1 => some .rRiscv32
  | 2 => some .rRiscv64
  | 3 => some .rRiscvRelative
  | 4 => some .rRiscvCopy
  | 5 => some .rRiscvJumpSlot
  | 6 => some .rRiscvTlsDtpmod32
  | 7 => some .rRiscvTlsDtpmod64
  | 8 => some .rRiscvTlsDtprel32
  | 9 => some .rRiscvTlsDtprel64
  | 10 => some .rRiscvTlsTprel32
  | 11 => some .rRiscvTlsTprel64
  | 16 => some .rRiscvBranch
  | 17 => some .rRiscvJal
  | 18 => some .rRiscvCall
  | 19 => some .rRiscvCallPlt
  | 20 => some .rRiscvGotHi20
  | 21 => some .rRiscvTlsGotHi20
  | 22 => some .rRiscvTlsGdHi20
  | 23 => some .rRiscvPcrelHi20
  | 24 => some .rRiscvPcrelLo12I
  | 25 => some .rRiscvPcrelLo12S
  | 26 => some .rRiscvHi20
  | 27 => some .rRiscvLo12I
  | 28 => some .rRiscvLo12S
  | 29 => some .rRiscvTprelHi20
  | 30 => some .rRiscvTprelLo12I
  | 31 => some .rRiscvTprelLo12S
  | 32 => some .rRiscvTprelAdd
  | 33 => some .rRiscvAdd8
  | 34 => some .rRiscvAdd16
  | 35 => some .rRiscvAdd32
  | 36 => some .rRiscvAdd64
  | 37 => some .rRiscvSub8
  | 38 => some .rRiscvSub16
  | 39 => some .rRiscvSub32
  | 40 => some .rRiscvSub64
  | 41 => some .rRiscvGnuVtinherit
  | 42 => some .rRiscvGnuVtentry
  | 43 => some .rRiscvAlign
  | 44 => some .rRiscvRvcBranch
  | 45 => some .rRiscvRvcJump
  | 46 => some .rRiscvRvcLui
  | 47 => some .rRiscvGprelI
  | 48 => some .rRiscvGprelS
  | 49 => some .rRiscvTprelI
  | 50 => some .rRiscvTprelS
  | 51 => some .rRiscvRelax
  | 52 => some .rRiscvSub6
  | 53 => some .rRiscvSet6
  | 54 => some .rRiscvSet8
  | 55 => some .rRiscvSet16
  | 56 => some .rRiscvSet32
  | _ => none

theorem tryFrom_toU32 (k : Riscv64RelocationType) : tryFrom (BitVec.ofNat 32 k.toU32) = some k := by
  cases k <;> rfl

end Riscv64RelocationType

/-- `riscv_insn_valid_32bit_offset`: the auipc+jalr pair reaches any PC-relative
offset in `[-2^31 - 2^11, 2^31 - 2^11)`. -/
def riscvInsnValid32bitOffset (offset : BitVec 64) : Bool :=
  let low : BitVec 64 := -(1#64 <<< 31) - (1#64 <<< 11)
  let high : BitVec 64 := (1#64 <<< 31) - (1#64 <<< 11)
  low.sle offset && offset.slt high

/-! ## Instruction splices

Each takes the original instruction word and the value the routine computed,
and returns the word the routine writes back. -/

/-- The SB-type splice of `apply_r_riscv_branch_rela`. -/
def spliceBranch (originalInst : BitVec 32) (offset : BitVec 64) : BitVec 32 :=
  let imm12 := ((offset &&& 0x1000#64) <<< (31 - 12)).setWidth 32
  let imm11 := ((offset &&& 0x800#64).sshiftRight (11 - 7)).setWidth 32
  let imm10_5 := ((offset &&& 0x7e0#64) <<< (30 - 10)).setWidth 32
  let imm4_1 := ((offset &&& 0x1e#64) <<< (11 - 4)).setWidth 32
  (originalInst &&& 0x1fff07f#32) ||| imm12 ||| imm11 ||| imm10_5 ||| imm4_1

/-- The UJ-type splice of `apply_r_riscv_jal_rela`. -/
def spliceJal (originalInst : BitVec 32) (offset : BitVec 64) : BitVec 32 :=
  let imm20 := ((offset &&& 0x100000#64) <<< (31 - 20)).setWidth 32
  let imm19_12 := (offset &&& 0xff000#64).setWidth 32
  let imm11 := ((offset &&& 0x800#64) <<< (20 - 11)).setWidth 32
  let imm10_1 := ((offset &&& 0x7fe#64) <<< (30 - 10)).setWidth 32
  (originalInst &&& 0xFFF#32) ||| imm20 ||| imm19_12 ||| imm11 ||| imm10_1

/-- The CB-type splice of `apply_r_riscv_rvc_branch_rela`. -/
def spliceRvcBranch (originalInst : BitVec 16) (offset : BitVec 64) : BitVec 16 :=
  let imm8 := ((offset &&& 0x100#64) <<< (12 - 8)).setWidth 16
  let imm7_6 := ((offset &&& 0xc0#64).sshiftRight (6 - 5)).setWidth 16
  let imm5 := ((offset &&& 0x20#64).sshiftRight (5 - 2)).setWidth 16
  let imm4_3 := ((offset &&& 0x18#64) <<< (12 - 5)).setWidth 16
  let imm2_1 := ((offset &&& 0x6#64) <<< (12 - 10)).setWidth 16
  (originalInst &&& 0xe383#16) ||| imm8 ||| imm7_6 ||| imm5 ||| imm4_3 ||| imm2_1

/-- The CJ-type splice of `apply_r_riscv_rvc_jump_rela`. -/
def spliceRvcJump (originalInst : BitVec 16) (offset : BitVec 64) : BitVec 16 :=
  let imm11 := ((offset &&& 0x800#64) <<< (12 - 11)).setWidth 16
  let imm10 := ((offset &&& 0x400#64).sshiftRight (10 - 8)).setWidth 16
  let imm9_8 := ((offset &&& 0x300#64) <<< (12 - 11)).setWidth 16
  let imm7 := ((offset &&& 0x80#64).sshiftRight (7 - 6)).setWidth 16
  let imm6 := ((offset &&& 0x40#64) <<< (12 - 11)).setWidth 16
  let imm5 := ((offset &&& 0x20#64).sshiftRight (5 - 2)).setWidth 16
  let imm4 := ((offset &&& 0x10#64) <<< (12 - 5)).setWidth 16
  let imm3_1 := ((offset &&& 0xe#64) <<< (12 - 10)).setWidth 16
  (originalInst &&& 0xe003#16) ||| imm11 ||| imm10 ||| imm9_8 ||| imm7 ||| imm6 ||| imm5 ||| imm4 |||
    imm3_1

/-- `(original_inst & 0xfff) | (hi20 as u32)`: the U-type splice of the `auipc`/`lui`
patches (`PCREL_HI20`, `HI20`, `CALL`, `CALL_PLT`). -/
def spliceHi20 (originalInst : BitVec 32) (hi20 : BitVec 64) : BitVec 32 :=
  (originalInst &&& 0xfff#32) ||| hi20.setWidth 32

/-- `(original_inst & 0xfffff) | (imm << 20)`: the I-type splice (`PCREL_LO12_I`,
`LO12_I`, and the `jalr` of `CALL`). -/
def spliceLo12I (originalInst : BitVec 32) (imm : BitVec 32) : BitVec 32 :=
  (originalInst &&& 0xfffff#32) ||| (imm <<< 20)

/-- The S-type splice of `PCREL_LO12_S` and `LO12_S`. -/
def spliceLo12S (originalInst : BitVec 32) (imm : BitVec 32) : BitVec 32 :=
  let imm11_5 := (imm &&& 0xfe0#32) <<< (31 - 11)
  let imm4_0 := (imm &&& 0x1f#32) <<< (11 - 4)
  (originalInst &&& 0x1fff07f#32) ||| imm11_5 ||| imm4_0

/-! ## The routines -/

namespace Riscv64RelocationType

open RelocM

/-- The error of an auipc-paired kind whose target is out of reach. -/
def offsetError (name : String) (location : Ptr) (address : BitVec 64) : ModuleErr :=
  .relocationFailed (name ++ ": target " ++ fmtHex016 address ++
    " can not be addressed by the 32-bit offset from PC = " ++ location.fmt)

/-- `apply_r_riscv_32_rela`. -/
def applyRRiscv32Rela (location : Ptr) (address : BitVec 64) : RelocM Unit :=
  if address ≠ (address.setWidth 32).setWidth 64 then
    fail (.relocationFailed ("R_RISCV_32: target " ++ fmtHex016 address ++
      " does not fit in 32 bits"))
  else
    location.write (address.setWidth 32)

/-- `apply_r_riscv_64_rela`. -/
def applyRRiscv64Rela (location : Ptr) (address : BitVec 64) : RelocM Unit :=
  location.write address

/-- `apply_r_riscv_branch_rela`. -/
def applyRRiscvBranchRela (location : Ptr) (address : BitVec 64) : RelocM Unit := do
  let offset := address - location.addr
  let originalInst ← location.read 32
  location.write (spliceBranch originalInst offset)

/-- `apply_r_riscv_jal_rela`. -/
def applyRRiscvJalRela (location : Ptr) (address : BitVec 64) : RelocM Unit := do
  let offset := address - location.addr
  let originalInst ← location.read 32
  location.write (spliceJal originalInst offset)

/-- `apply_r_riscv_rvc_branch_rela`. -/
def applyRRiscvRvcBranchRela (location : Ptr) (address : BitVec 64) : RelocM Unit := do
  let offset := address - location.addr
  let originalInst ← location.read 16
  location.write (spliceRvcBranch originalInst offset)

/-- `apply_r_riscv_rvc_jump_rela`. -/
def applyRRiscvRvcJumpRela (location : Ptr) (address : BitVec 64) : RelocM Unit := do
  let offset := address - location.addr
  let originalInst ← location.read 16
  location.write (spliceRvcJump originalInst offset)

/-- `apply_r_riscv_pcrel_hi20_rela`. -/
def applyRRiscvPcrelHi20Rela (location : Ptr) (address : BitVec 64) : RelocM Unit := do
  let offset := address - location.addr
  if !riscvInsnValid32bitOffset offset then
    fail (offsetError "R_RISCV_PCREL_HI20" location address)
  else
    let hi20 := (offset + 0x800#64) &&& 0xfffff000#64
    let originalInst ← location.read 32
    location.write (spliceHi20 originalInst hi20)

/-- `apply_r_riscv_pcrel_lo12_i_rela`: `address` is the lo12 residue the driver
computed. -/
def applyRRiscvPcrelLo12IRela (location : Ptr) (address : BitVec 64) : RelocM Unit := do
  let originalInst ← location.read 32
  location.write (spliceLo12I originalInst (address.setWidth 32 &&& 0xfff#32))

/-- `apply_r_riscv_pcrel_lo12_s_rela`. -/
def applyRRiscvPcrelLo12SRela (location : Ptr) (address : BitVec 64) : RelocM Unit := do
  let originalInst ← location.read 32
  location.write (spliceLo12S originalInst (address.setWidth 32))

/-- `apply_r_riscv_hi20_rela`: the `CONFIG_CMODEL_MEDLOW` gate is commented out, so there
is no check. -/
def applyRRiscvHi20Rela (location : Ptr) (address : BitVec 64) : RelocM Unit := do
  let hi20 := (address + 0x800#64) &&& 0xfffff000#64
  let originalInst ← location.read 32
  location.write (spliceHi20 originalInst hi20)

/-- `apply_r_riscv_lo12_i_rela`: the split recomputed in `i32`. -/
def applyRRiscvLo12IRela (location : Ptr) (address : BitVec 64) : RelocM Unit := do
  let address : BitVec 32 := address.setWidth 32
  let hi20 := (address + 0x800#32) &&& 0xfffff000#32
  let lo12 := address - hi20
  let originalInst ← location.read 32
  location.write (spliceLo12I originalInst (lo12 &&& 0xfff#32))

/-- `apply_r_riscv_lo12_s_rela`. -/
def applyRRiscvLo12SRela (location : Ptr) (address : BitVec 64) : RelocM Unit := do
  let address : BitVec 32 := address.setWidth 32
  let hi20 := (address + 0x800#32) &&& 0xfffff000#32
  let lo12 := address - hi20
  let originalInst ← location.read 32
  location.write (spliceLo12S originalInst lo12)

/-- `apply_r_riscv_got_hi20_rela`. -/
def applyRRiscvGotHi20Rela (_location : Ptr) (_address : BitVec 64) : RelocM Unit :=
  unimplemented "R_RISCV_GOT_HI20 relocation not implemented yet"

/-- `apply_r_riscv_call_plt_rela` and `apply_r_riscv_call_rela`, which differ only in
the kind named by their error. -/
def applyRRiscvCallPair (name : String) (location : Ptr) (address : BitVec 64) :
    RelocM Unit := do
  let offset := address - location.addr
  if !riscvInsnValid32bitOffset offset then
    fail (offsetError name location address)
  else
    let hi20 := (offset + 0x800#64) &&& 0xfffff000#64
    let lo12 := (offset - hi20) &&& 0xfff#64
    let originalAuipc ← location.read 32
    location.write (spliceHi20 originalAuipc hi20)
    let originalJalrPtr := location.add 4
    let originalJalr ← originalJalrPtr.read 32
    originalJalrPtr.write (spliceLo12I originalJalr (lo12.setWidth 32))

/-- `apply_r_riscv_call_plt_rela`. -/
def applyRRiscvCallPltRela : Ptr → BitVec 64 → RelocM Unit := applyRRiscvCallPair "R_RISCV_CALL_PLT"

/-- `apply_r_riscv_call_rela`. -/
def applyRRiscvCallRela : Ptr → BitVec 64 → RelocM Unit := applyRRiscvCallPair "R_RISCV_CALL"

/-- `apply_r_riscv_relax_rela`. -/
def applyRRiscvRelaxRela (_location : Ptr) (_address : BitVec 64) : RelocM Unit := pure ()

/-- `apply_r_riscv_align_rela`. -/
def applyRRiscvAlignRela (location : Ptr) (_address : BitVec 64) : RelocM Unit :=
  fail (.relocationFailed ("The unexpected relocation type \x27R_RISCV_ALIGN\x27 from PC = %" ++
    location.fmt))

/-- `apply_r_riscv_addN_rela`: `location.write(address as uN)`. -/
def applyRRiscvAddRela (w : Nat) (location : Ptr) (address : BitVec 64) : RelocM Unit :=
  location.write (address.setWidth w)

/-- `apply_r_riscv_add16_rela`. -/
def applyRRiscvAdd16Rela : Ptr → BitVec 64 → RelocM Unit := applyRRiscvAddRela 16

/-- `apply_r_riscv_add32_rela`. -/
def applyRRiscvAdd32Rela : Ptr → BitVec 64 → RelocM Unit := applyRRiscvAddRela 32

/-- `apply_r_riscv_add64_rela`. -/
def applyRRiscvAdd64Rela : Ptr → BitVec 64 → RelocM Unit := applyRRiscvAddRela 64

/-- `apply_r_riscv_subN_rela`: `location.write(value - address as uN)`. -/
def applyRRiscvSubRela (w : Nat) (location : Ptr) (address : BitVec 64) : RelocM Unit := do
  let value ← location.read w
  location.write (value - address.setWidth w)

/-- `apply_r_riscv_sub16_rela`. -/
def applyRRiscvSub16Rela : Ptr → BitVec 64 → RelocM Unit := applyRRiscvSubRela 16

/-- `apply_r_riscv_sub32_rela`. -/
def applyRRiscvSub32Rela : Ptr → BitVec 64 → RelocM Unit := applyRRiscvSubRela 32

/-- `apply_r_riscv_sub64_rela`. -/
def applyRRiscvSub64Rela : Ptr → BitVec 64 → RelocM Unit := applyRRiscvSubRela 64

/-- `Riscv64RelocationType::apply_relocation`. -/
def applyRelocation (self : Riscv64RelocationType) (location address : BitVec 64) : RelocM Unit :=
  let location : Ptr := ⟨location⟩
  match self with
  | .rRiscv32 => applyRRiscv32Rela location address
  | .rRiscv64 => applyRRiscv64Rela location address
  | .rRiscvBranch => applyRRiscvBranchRela location address
  | .rRiscvJal => applyRRiscvJalRela location address
  | .rRiscvRvcBranch => applyRRiscvRvcBranchRela location address
  | .rRiscvRvcJump => applyRRiscvRvcJumpRela location address
  | .rRiscvPcrelHi20 => applyRRiscvPcrelHi20Rela location address
  | .rRiscvPcrelLo12I => applyRRiscvPcrelLo12IRela location address
  | .rRiscvPcrelLo12S => applyRRiscvPcrelLo12SRela location address
  | .rRiscvHi20 => applyRRiscvHi20Rela location address
  | .rRiscvLo12I => applyRRiscvLo12IRela location address
  | .rRiscvLo12S => applyRRiscvLo12SRela location address
  | .rRiscvGotHi20 => applyRRiscvGotHi20Rela location address
  | .rRiscvCallPlt => applyRRiscvCallPltRela location address
  | .rRiscvCall => applyRRiscvCallRela location address
  | .rRiscvRelax => applyRRiscvRelaxRela location address
  | .rRiscvAlign => applyRRiscvAlignRela location address
  | .rRiscvAdd16 => applyRRiscvAdd16Rela location address
  | .rRiscvAdd32 => applyRRiscvAdd32Rela location address
  | .rRiscvAdd64 => applyRRiscvAdd64Rela location address
  | .rRiscvSub16 => applyRRiscvSub16Rela location address
  | .rRiscvSub32 => applyRRiscvSub32Rela location address
  | .rRiscvSub64 => applyRRiscvSub64Rela location address
  | _ => unimplemented "RISC-V relocation application not implemented yet"


/-! ## What each routine does

One lemma per routine: the memory it leaves, or the error it raises. A routine
that checks its value does so before reading or writing, so its error keeps the
memory it was given. -/

section Spec

variable (p : Ptr) (V : BitVec 64) (m : Mem)

/-- `riscv_insn_valid_32bit_offset` is the signed range check it documents. -/
theorem riscvInsnValid32bitOffset_iff (o : BitVec 64) :
    riscvInsnValid32bitOffset o = true ↔
      -(2 ^ 31 + 2 ^ 11 : Int) ≤ o.toInt ∧ o.toInt < 2 ^ 31 - 2 ^ 11 := by
  have hlow : (-(1#64 <<< 31) - (1#64 <<< 11)).toInt = -(2 ^ 31 + 2 ^ 11) := by decide
  have hhigh : ((1#64 <<< 31) - (1#64 <<< 11)).toInt = 2 ^ 31 - 2 ^ 11 := by decide
  simp [riscvInsnValid32bitOffset, BitVec.sle, BitVec.slt, hlow, hhigh]

theorem applyRRiscv32Rela_ok (h : V = (V.setWidth 32).setWidth 64) :
    applyRRiscv32Rela p V m = .ok () (m.store p.addr (V.setWidth 32)) := by
  simp [applyRRiscv32Rela, ← h]

theorem applyRRiscv32Rela_err (h : V ≠ (V.setWidth 32).setWidth 64) :
    applyRRiscv32Rela p V m = .err (.relocationFailed ("R_RISCV_32: target " ++ fmtHex016 V ++
      " does not fit in 32 bits")) m := by
  simp [applyRRiscv32Rela, h]

@[simp] theorem applyRRiscv64Rela_apply : applyRRiscv64Rela p V m = .ok () (m.store p.addr V) := rfl

@[simp] theorem applyRRiscvBranchRela_apply : applyRRiscvBranchRela p V m =
    .ok () (m.store p.addr (spliceBranch (m.load p.addr 32) (V - p.addr))) := rfl

@[simp] theorem applyRRiscvJalRela_apply : applyRRiscvJalRela p V m =
    .ok () (m.store p.addr (spliceJal (m.load p.addr 32) (V - p.addr))) := rfl

@[simp] theorem applyRRiscvRvcBranchRela_apply : applyRRiscvRvcBranchRela p V m =
    .ok () (m.store p.addr (spliceRvcBranch (m.load p.addr 16) (V - p.addr))) := rfl

@[simp] theorem applyRRiscvRvcJumpRela_apply : applyRRiscvRvcJumpRela p V m =
    .ok () (m.store p.addr (spliceRvcJump (m.load p.addr 16) (V - p.addr))) := rfl

theorem applyRRiscvPcrelHi20Rela_ok (h : riscvInsnValid32bitOffset (V - p.addr) = true) :
    applyRRiscvPcrelHi20Rela p V m = .ok () (m.store p.addr
      (spliceHi20 (m.load p.addr 32) ((V - p.addr + 0x800#64) &&& 0xfffff000#64))) := by
  simp [applyRRiscvPcrelHi20Rela, h]

theorem applyRRiscvPcrelHi20Rela_err (h : riscvInsnValid32bitOffset (V - p.addr) = false) :
    applyRRiscvPcrelHi20Rela p V m = .err (offsetError "R_RISCV_PCREL_HI20" p V) m := by
  simp [applyRRiscvPcrelHi20Rela, h]

@[simp] theorem applyRRiscvPcrelLo12IRela_apply : applyRRiscvPcrelLo12IRela p V m =
    .ok () (m.store p.addr (spliceLo12I (m.load p.addr 32) (V.setWidth 32 &&& 0xfff#32))) := rfl

@[simp] theorem applyRRiscvPcrelLo12SRela_apply : applyRRiscvPcrelLo12SRela p V m =
    .ok () (m.store p.addr (spliceLo12S (m.load p.addr 32) (V.setWidth 32))) := rfl

@[simp] theorem applyRRiscvHi20Rela_apply : applyRRiscvHi20Rela p V m =
    .ok () (m.store p.addr (spliceHi20 (m.load p.addr 32) ((V + 0x800#64) &&& 0xfffff000#64))) :=
  rfl

@[simp] theorem applyRRiscvLo12IRela_apply : applyRRiscvLo12IRela p V m =
    .ok () (m.store p.addr (spliceLo12I (m.load p.addr 32)
      ((V.setWidth 32 - ((V.setWidth 32 + 0x800#32) &&& 0xfffff000#32)) &&& 0xfff#32))) := rfl

@[simp] theorem applyRRiscvLo12SRela_apply : applyRRiscvLo12SRela p V m =
    .ok () (m.store p.addr (spliceLo12S (m.load p.addr 32)
      (V.setWidth 32 - ((V.setWidth 32 + 0x800#32) &&& 0xfffff000#32)))) := rfl

theorem applyRRiscvCallPair_ok (name : String) (h : riscvInsnValid32bitOffset (V - p.addr) = true) :
    applyRRiscvCallPair name p V m =
      let hi20 := (V - p.addr + 0x800#64) &&& 0xfffff000#64
      let m₁ := m.store p.addr (spliceHi20 (m.load p.addr 32) hi20)
      .ok () (m₁.store (p.add 4).addr (spliceLo12I (m₁.load (p.add 4).addr 32)
        (((V - p.addr - hi20) &&& 0xfff#64).setWidth 32))) := by
  simp [applyRRiscvCallPair, h]

theorem applyRRiscvCallPair_err (name : String)
    (h : riscvInsnValid32bitOffset (V - p.addr) = false) :
    applyRRiscvCallPair name p V m = .err (offsetError name p V) m := by
  simp [applyRRiscvCallPair, h]

@[simp] theorem applyRRiscvRelaxRela_apply : applyRRiscvRelaxRela p V m = .ok () m := rfl

@[simp] theorem applyRRiscvAddRela_apply (w : Nat) :
    applyRRiscvAddRela w p V m = .ok () (m.store p.addr (V.setWidth w)) := rfl

@[simp] theorem applyRRiscvSubRela_apply (w : Nat) :
    applyRRiscvSubRela w p V m = .ok () (m.store p.addr (m.load p.addr w - V.setWidth w)) := rfl

end Spec

end Riscv64RelocationType

end Kmod
