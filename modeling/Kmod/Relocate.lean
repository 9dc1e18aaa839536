import Kmod.Riscv64

/-!
# The relocation driver (`Riscv64ArchRelocate::apply_relocate_add`)

One call patches module memory for one relocation section. It takes the
section's header from the section table, cuts the section's bytes out of the
object, reads them as `Elf64_Rela` records (`from_raw_rela`, 24 bytes each,
`sh_size / 24` of them; `sh_entsize` is only `debug_assert!`ed), and walks the
records in order. For each record it finds the patch location and the symbol,
decodes the kind, and for a `PCREL_LO12` replaces the target by the lo12
residue of its `PCREL_HI20` partner, found by a linear search of the same
section. Then it applies the kind's routine, and stops at the first failure.

Everything before the routine runs is a function of the section, the tables
and the record alone (`prepareRela`, into `Except Fault`); only
`applyRelocation` touches memory. The loop body is `relocateRela`, the loop
`relocateAll`, and `relocateSection` is the loop over one parsed section, the
object the order and pairing results in `Kmod.Reorder` and `Kmod.Pairing`
quantify over.
-/

namespace Kmod

/-! ## ELF records -/

/-- `Elf64_Rela`. -/
structure Elf64Rela where
  rOffset : BitVec 64
  rInfo : BitVec 64
  rAddend : BitVec 64
  deriving DecidableEq, Repr

/-- The fields of goblin's `SectionHeader` that the relocation code reads. -/
structure SectionHeader where
  shAddr : BitVec 64
  shOffset : BitVec 64
  shSize : BitVec 64
  shInfo : BitVec 32
  shEntsize : BitVec 64
  deriving DecidableEq, Repr

/-- An `Elf64_Sym` after symbol resolution: its final address. -/
structure Elf64Sym where
  stValue : BitVec 64
  deriving DecidableEq, Repr

/-- The fields of `ModuleLoadInfo` the relocation code reads. -/
structure ModuleLoadInfo where
  syms : List Elf64Sym
  symbolNames : List String

/-! ## Reading records out of the object -/

/-- The little-endian number spelled by a list of bytes. -/
def leBytes : List (BitVec 8) → Nat
  | [] => 0
  | b :: bs => b.toNat + 256 * leBytes bs

/-- One `Elf64_Rela` from its 24 bytes. -/
def Elf64Rela.ofBytes (bs : List (BitVec 8)) : Elf64Rela where
  rOffset := .ofNat 64 (leBytes (bs.take 8))
  rInfo := .ofNat 64 (leBytes ((bs.drop 8).take 8))
  rAddend := .ofNat 64 (leBytes ((bs.drop 16).take 8))

/-- `count` consecutive records. -/
def relasOfBytes (buf : List (BitVec 8)) : Nat → List Elf64Rela
  | 0 => []
  | count + 1 => Elf64Rela.ofBytes (buf.take 24) :: relasOfBytes (buf.drop 24) count

/-- goblin's `from_raw_rela(ptr, size)`: the `size / 24` records at `ptr`. -/
def fromRawRela (buf : List (BitVec 8)) (size : Nat) : List Elf64Rela :=
  relasOfBytes buf (size / 24)

namespace Riscv64ArchRelocate

open Riscv64RelocationType

/-! ## One record -/

/-- `Riscv64RelocationType::try_from(rel_type).map_err(...)?`. -/
def decodeRelocType (relType : BitVec 32) : Except Fault Riscv64RelocationType :=
  match tryFrom relType with
  | some k => pure k
  | none => throw (.err (.relocationFailed ("Invalid relocation type: " ++ toString relType.toNat)))

/-- The inner `for inner_rela in rela_list` loop: the lo12 residue of the first
`PCREL_HI20` or `GOT_HI20` record whose patch location is `stValue`, or `none`
when the loop ends without a match. -/
def findHi20 (sechdrs : List SectionHeader) (relSection : SectionHeader)
    (loadInfo : ModuleLoadInfo) (stValue : BitVec 64) :
    List Elf64Rela → Except Fault (Option (BitVec 64))
  | [] => pure none
  | innerRela :: rest => do
    let hi20Loc := (← index sechdrs relSection.shInfo.toNat).shAddr + innerRela.rOffset
    let hi20Type ← decodeRelocType (getRelaType innerRela.rInfo)
    if hi20Loc = stValue ∧ (hi20Type = .rRiscvPcrelHi20 ∨ hi20Type = .rRiscvGotHi20) then
      let hi20Sym ← index loadInfo.syms (getRelaSymIdx innerRela.rInfo)
      let hi20SymVal := hi20Sym.stValue + innerRela.rAddend
      let offset := hi20SymVal - hi20Loc
      if hi20Type = .rRiscvGotHi20 then
        throw (.panic "not implemented: GOT handling not implemented yet")
      else
        let hi_20 := (offset + 0x800#64) &&& 0xfffff000#64
        let lo_12 := offset - hi_20
        pure (some lo_12)
    else
      findHi20 sechdrs relSection loadInfo stValue rest

/-- The loop body up to `apply_relocation`: the kind, the patch location and the
value to patch with. -/
def prepareRela (sechdrs : List SectionHeader) (relSection : SectionHeader)
    (loadInfo : ModuleLoadInfo) (relaList : List Elf64Rela) (rela : Elf64Rela) :
    Except Fault (Riscv64RelocationType × BitVec 64 × BitVec 64) := do
  let relType := getRelaType rela.rInfo
  let symIdx := getRelaSymIdx rela.rInfo
  let location := (← index sechdrs relSection.shInfo.toNat).shAddr + rela.rOffset
  let sym ← index loadInfo.syms symIdx
  let relocType ← decodeRelocType relType
  let _symName ← index loadInfo.symbolNames symIdx
  let targetAddr := sym.stValue + rela.rAddend
  if relocType = .rRiscvPcrelLo12I ∨ relocType = .rRiscvPcrelLo12S then
    match ← findHi20 sechdrs relSection loadInfo sym.stValue relaList with
    | some lo12 => pure (relocType, location, lo12)
    | none => throw (.err (.relocationFailed "Missing HI20 relocation for LO12"))
  else
    pure (relocType, location, targetAddr)

theorem decodeRelocType_eq_ok {t : BitVec 32} {k : Riscv64RelocationType} :
    decodeRelocType t = .ok k ↔ tryFrom t = some k := by
  constructor
  · intro h
    unfold decodeRelocType at h
    split at h <;> cases h
    assumption
  · intro h
    simp only [decodeRelocType, h]
    rfl

/-- What `prepareRela` returns: the patch location, the decoded kind, and the symbol's value
plus the addend, or for a `PCREL_LO12` the residue its partner search found. -/
theorem prepareRela_eq_ok {sechdrs : List SectionHeader} {relSection : SectionHeader}
    {loadInfo : ModuleLoadInfo} {R : List Elf64Rela} {rela : Elf64Rela}
    {k : Riscv64RelocationType} {L V : BitVec 64} :
    prepareRela sechdrs relSection loadInfo R rela = .ok (k, L, V) ↔
      ∃ sh sym nm, index sechdrs relSection.shInfo.toNat = .ok sh ∧
        index loadInfo.syms (getRelaSymIdx rela.rInfo) = .ok sym ∧
        tryFrom (getRelaType rela.rInfo) = some k ∧
        index loadInfo.symbolNames (getRelaSymIdx rela.rInfo) = .ok nm ∧
        L = sh.shAddr + rela.rOffset ∧
        if k = .rRiscvPcrelLo12I ∨ k = .rRiscvPcrelLo12S then
          findHi20 sechdrs relSection loadInfo sym.stValue R = .ok (some V)
        else V = sym.stValue + rela.rAddend := by
  constructor
  · intro h
    simp only [prepareRela, Except.bind_eq_ok] at h
    obtain ⟨sh, hs, sym, hy, k', hk, nm, hn, h⟩ := h
    refine ⟨sh, sym, nm, hs, hy, ?_⟩
    split_ifs at h with hc
    · obtain ⟨_ | lo12, hf, h⟩ := Except.bind_eq_ok.1 h <;> cases h
      exact ⟨decodeRelocType_eq_ok.1 hk, hn, rfl, by rw [if_pos hc]; exact hf⟩
    · cases h
      exact ⟨decodeRelocType_eq_ok.1 hk, hn, rfl, by rw [if_neg hc]⟩
  · rintro ⟨sh, sym, nm, hs, hy, hk, hn, rfl, hV⟩
    simp only [prepareRela, hs, hy, decodeRelocType_eq_ok.2 hk, hn, bind, Except.bind]
    split_ifs at hV ⊢
    · rw [hV]; rfl
    · rw [hV]; rfl

/-- The body of `for rela in rela_list`. -/
def relocateRela (sechdrs : List SectionHeader) (relSection : SectionHeader)
    (loadInfo : ModuleLoadInfo) (relaList : List Elf64Rela) (rela : Elf64Rela) :
    RelocM Unit := do
  let (relocType, location, targetAddr) ←
    RelocM.lift (prepareRela sechdrs relSection loadInfo relaList rela)
  relocType.applyRelocation location targetAddr

/-- `for rela in rela_list`, the records still to do being `todo`; the partner
search always scans the whole `relaList`. -/
def relocateAll (sechdrs : List SectionHeader) (relSection : SectionHeader)
    (loadInfo : ModuleLoadInfo) (relaList : List Elf64Rela) :
    List Elf64Rela → RelocM Unit
  | [] => pure ()
  | rela :: todo => do
    relocateRela sechdrs relSection loadInfo relaList rela
    relocateAll sechdrs relSection loadInfo relaList todo

/-- The loop of `apply_relocate_add` over one parsed section. -/
def relocateSection (sechdrs : List SectionHeader) (relSection : SectionHeader)
    (loadInfo : ModuleLoadInfo) (relaList : List Elf64Rela) : RelocM Unit :=
  relocateAll sechdrs relSection loadInfo relaList relaList

/-- `Riscv64ArchRelocate::apply_relocate_add` (release build: the
`debug_assert!` on `sh_entsize` is compiled out, `usize` addition wraps). -/
def applyRelocateAdd (elfData : List (BitVec 8)) (sechdrs : List SectionHeader)
    (loadInfo : ModuleLoadInfo) (relsec : Nat) : RelocM Unit := do
  let relSection ← RelocM.lift (index sechdrs relsec)
  let offset := relSection.shOffset.toNat
  let dataBuf ← RelocM.lift
    (slice elfData offset (relSection.shOffset + relSection.shSize).toNat)
  let relaList := fromRawRela dataBuf relSection.shSize.toNat
  relocateSection sechdrs relSection loadInfo relaList

end Riscv64ArchRelocate

end Kmod
