import Kmod.HiLo
import Kmod.Reorder

/-!
# A `PCREL_LO12` and its `PCREL_HI20` partner

`auipc rd, hi20` at `L_h`, followed somewhere by an `addi` (I-type) or a store (S-type) with
immediate `lo12`, addresses `L_h + (hi20 << 12) + lo12`. The `PCREL_HI20` record at the `auipc`
patches `hi20` from its own target `S_h + A_h`. The `PCREL_LO12` record names the label of the
`auipc` as its symbol, and the driver recomputes `lo12` from the partner's record
(`findHi20_partner`). After a successful run the pair addresses `S_h + A_h` exactly, and keeps
every other bit of both words, provided no record but each of the two patches its word
(`pcrel_pair_addresses_target`). The two words must then not overlap; when they do, the later
patch overwrites part of the earlier one (`pcrel_pair_same_word_misses`).

A `PCREL_LO12` record with no candidate partner in its section fails with
`Missing HI20 relocation for LO12` and leaves memory as it was; with a candidate it never
fails that way (`relocateRela_missing_hi20_iff`).
-/

namespace Kmod.Riscv64ArchRelocate

open RelocM Riscv64RelocationType

variable {sechdrs : List SectionHeader} {relSection : SectionHeader} {loadInfo : ModuleLoadInfo}

/-! ## The partner search -/

/-- The partner's lo12 residue, computed from its record. -/
theorem findHi20_singleton {sh : SectionHeader} (hs : index sechdrs relSection.shInfo.toNat = .ok sh)
    {h : Elf64Rela} {symh : Elf64Sym} (hsh : index loadInfo.syms (getRelaSymIdx h.rInfo) = .ok symh)
    (hh : tryFrom (getRelaType h.rInfo) = some .rRiscvPcrelHi20) :
    findHi20 sechdrs relSection loadInfo (sh.shAddr + h.rOffset) [h] =
      .ok (some (symh.stValue + h.rAddend - (sh.shAddr + h.rOffset) -
        ((symh.stValue + h.rAddend - (sh.shAddr + h.rOffset) + 0x800#64) &&& 0xfffff000#64))) := by
  simp only [findHi20, hs, decodeRelocType_eq_ok.2 hh, hsh, bind, Except.bind, true_and,
    true_or, if_true, reduceCtorEq, if_false]
  rfl

/-- On a record list where everything decodes and nothing is a `GOT_HI20`, the search finds
the first `PCREL_HI20` at the address. -/
theorem findHi20_partner {sh : SectionHeader} (hs : index sechdrs relSection.shInfo.toNat = .ok sh)
    {A B : List Elf64Rela} {h : Elf64Rela}
    (hh : tryFrom (getRelaType h.rInfo) = some .rRiscvPcrelHi20)
    (hk : ∀ r ∈ A ++ h :: B, ∃ k, tryFrom (getRelaType r.rInfo) = some k ∧ k ≠ .rRiscvGotHi20)
    (hfirst : ∀ s ∈ A, ¬ (sh.shAddr + s.rOffset = sh.shAddr + h.rOffset ∧
      tryFrom (getRelaType s.rInfo) = some .rRiscvPcrelHi20)) :
    findHi20 sechdrs relSection loadInfo (sh.shAddr + h.rOffset) (A ++ h :: B) =
      findHi20 sechdrs relSection loadInfo (sh.shAddr + h.rOffset) [h] := by
  have hA : ∀ s ∈ A, ¬ decide (IsHi20At sh (sh.shAddr + h.rOffset) s) := fun s hs' hm => by
    obtain ⟨hv, hp | hg⟩ := of_decide_eq_true hm
    · exact hfirst s hs' ⟨hv, hp⟩
    · obtain ⟨k, hk', hne⟩ := hk s (List.mem_append_left _ hs')
      exact hne (Option.some.inj (hk'.symm.trans hg))
  rw [findHi20_eq_find hs fun r hr => (hk r hr).imp fun _ h => h.1, List.find?_append,
    List.find?_eq_none.2 hA, List.find?_cons, decide_eq_true ⟨rfl, .inl hh⟩]
  rfl

/-! ## A `PCREL_LO12` without a partner -/

/-- Started at a candidate, the search ends with a residue or a panic, never with `none` or an
`Err`. -/
theorem findHi20_singleton_of_isHi20At {sh : SectionHeader}
    (hs : index sechdrs relSection.shInfo.toNat = .ok sh) {v : BitVec 64} {h : Elf64Rela}
    (hh : IsHi20At sh v h) {o : Except Fault (Option (BitVec 64))}
    (ho : findHi20 sechdrs relSection loadInfo v [h] = o) :
    (∃ lo12, o = .ok (some lo12)) ∨ ∃ s, o = .error (.panic s) := by
  obtain ⟨hv, hk⟩ := hh
  obtain ⟨k, hk', hkk⟩ : ∃ k, tryFrom (getRelaType h.rInfo) = some k ∧
      (k = .rRiscvPcrelHi20 ∨ k = .rRiscvGotHi20) := hk.elim (⟨_, ·, .inl rfl⟩) (⟨_, ·, .inr rfl⟩)
  subst ho
  simp only [findHi20, hs, decodeRelocType_eq_ok.2 hk', bind, Except.bind, hv, true_and,
    if_pos hkk]
  rcases hy : index loadInfo.syms (getRelaSymIdx h.rInfo) with (_ | s) | sym
  · exact absurd hy (index_ne_err _ _ _)
  · exact .inr ⟨s, rfl⟩
  · dsimp only
    split
    · exact .inr ⟨_, rfl⟩
    · exact .inl ⟨_, rfl⟩

theorem relocateRela_missing_hi20_iff {sh : SectionHeader}
    (hs : index sechdrs relSection.shInfo.toNat = .ok sh) {R : List Elf64Rela} {r : Elf64Rela}
    {sym : Elf64Sym} {nm : String} (hsym : index loadInfo.syms (getRelaSymIdx r.rInfo) = .ok sym)
    (hnm : index loadInfo.symbolNames (getRelaSymIdx r.rInfo) = .ok nm)
    {k : Riscv64RelocationType} (hk : tryFrom (getRelaType r.rInfo) = some k)
    (hlo : k = .rRiscvPcrelLo12I ∨ k = .rRiscvPcrelLo12S)
    (hR : ∀ s ∈ R, ∃ k, tryFrom (getRelaType s.rInfo) = some k) (m : Mem) :
    relocateRela sechdrs relSection loadInfo R r m =
        .err (.relocationFailed "Missing HI20 relocation for LO12") m ↔
      ∀ s ∈ R, ¬ IsHi20At sh sym.stValue s := by
  have hfind : findHi20 sechdrs relSection loadInfo sym.stValue R = _ := findHi20_eq_find hs hR
  simp only [relocateRela, prepareRela, hs, hsym, decodeRelocType_eq_ok.2 hk, hnm, if_pos hlo,
    hfind, bind, Except.bind]
  rcases hf : List.find? (fun s => decide (IsHi20At sh sym.stValue s)) R with _ | h
  · -- no candidate: the search comes back empty and the record fails
    rw [List.find?_eq_none] at hf
    exact iff_of_true rfl fun s hs' hh => hf s hs' (decide_eq_true hh)
  · -- a candidate: its residue is patched in, or the search panics
    have hp := List.find?_some hf
    have hh : IsHi20At sh sym.stValue h := of_decide_eq_true hp
    refine iff_of_false ?_ fun hn => hn h (List.mem_of_find?_eq_some hf) hh
    dsimp only
    rcases findHi20_singleton_of_isHi20At hs hh
      (rfl : findHi20 sechdrs relSection loadInfo _ [h] = _) with ⟨lo12, he⟩ | ⟨s, he⟩ <;> rw [he]
    · rcases hlo with rfl | rfl <;> nofun
    · nofun

/-- The `PCREL_LO12_I` of the pair, alone in its section, has no partner and fails. -/
theorem lone_lo12_fails :
    relocateRela sampleSechdrs ⟨0#64, 0#64, 24#64, 1#32, 24#64⟩ pairLoadInfo [pairLo12] pairLo12
        (fun _ => 0) = .err (.relocationFailed "Missing HI20 relocation for LO12") (fun _ => 0) :=
  have hs : index sampleSechdrs (⟨0#64, 0#64, 24#64, 1#32, 24#64⟩ : SectionHeader).shInfo.toNat =
      .ok ⟨0x1000#64, 0#64, 0#64, 0#32, 0#64⟩ := rfl
  have hsym : index pairLoadInfo.syms (getRelaSymIdx pairLo12.rInfo) = .ok ⟨0x1000#64⟩ := rfl
  have hnm : index pairLoadInfo.symbolNames (getRelaSymIdx pairLo12.rInfo) = .ok "label" := rfl
  have hk : tryFrom (getRelaType pairLo12.rInfo) = some .rRiscvPcrelLo12I := rfl
  (relocateRela_missing_hi20_iff hs hsym hnm hk (.inl rfl)
    (fun s hs' => ⟨_, (List.mem_singleton.1 hs') ▸ hk⟩) _).2 (by decide)

/-! ## One record of a successful run -/

/-- A record that returned `Ok` ran its kind's routine at its location, with the symbol's
value plus the addend, or for a `PCREL_LO12` with what the partner search found. -/
theorem relocateRela_ok_of_kind {sh : SectionHeader}
    (hs : index sechdrs relSection.shInfo.toNat = .ok sh) {R : List Elf64Rela} {r : Elf64Rela}
    {sym : Elf64Sym} (hsym : index loadInfo.syms (getRelaSymIdx r.rInfo) = .ok sym)
    {k : Riscv64RelocationType} (hk : tryFrom (getRelaType r.rInfo) = some k) {m m' : Mem}
    (h : relocateRela sechdrs relSection loadInfo R r m = .ok () m') :
    ∃ V, (if k = .rRiscvPcrelLo12I ∨ k = .rRiscvPcrelLo12S then
        findHi20 sechdrs relSection loadInfo sym.stValue R = .ok (some V)
      else V = sym.stValue + r.rAddend) ∧
      k.applyRelocation (sh.shAddr + r.rOffset) V m = .ok () m' := by
  obtain ⟨k', L, V, hp, ha⟩ := relocateRela_eq_ok.1 h
  obtain ⟨sh', sym', -, hs', hy', hk', -, rfl, hV⟩ := prepareRela_eq_ok.1 hp
  rw [hs] at hs'; cases hs'
  rw [hsym] at hy'; cases hy'
  rw [hk] at hk'; cases hk'
  exact ⟨V, hV, ha⟩

theorem applyRRiscvPcrelHi20Rela_eq_ok {p : Ptr} {V : BitVec 64} {m m' : Mem} :
    applyRRiscvPcrelHi20Rela p V m = .ok () m' ↔ riscvInsnValid32bitOffset (V - p.addr) = true ∧
      m' = m.store p.addr (spliceHi20 (m.load p.addr 32) ((V - p.addr + 0x800#64) &&& 0xfffff000#64)) := by
  cases hv : riscvInsnValid32bitOffset (V - p.addr)
  · simp [applyRRiscvPcrelHi20Rela_err _ _ _ hv]
  · simp [applyRRiscvPcrelHi20Rela_ok _ _ _ hv, eq_comm]

/-! ## The pair after a successful run -/

/-- After a successful `apply_relocate_add`, a `PCREL_LO12` record `l` and the first
`PCREL_HI20` record `h` at the address of `l`'s symbol, each the only record patching its word,
leave an `auipc` at `L_h` and an I-type (S-type) instruction at `L_l` whose immediates add up,
from `L_h`, to `h`'s target `S_h + A_h`; every other bit of the two words is as before. -/
theorem pcrel_pair_addresses_target {elfData : List (BitVec 8)} {sechdrs : List SectionHeader}
    {loadInfo : ModuleLoadInfo} {relsec : Nat} {relSection sh : SectionHeader}
    {buf : List (BitVec 8)} {A₁ B₁ A₂ B₂ : List Elf64Rela} {h l : Elf64Rela}
    {symh syml : Elf64Sym} {m m' : Mem}
    (hsec : index sechdrs relsec = .ok relSection)
    (hb : slice elfData relSection.shOffset.toNat (relSection.shOffset + relSection.shSize).toNat =
      .ok buf)
    (hS : fromRawRela buf relSection.shSize.toNat = A₁ ++ h :: B₁)
    (hpos : A₁ ++ h :: B₁ = A₂ ++ l :: B₂)
    (hrun : applyRelocateAdd elfData sechdrs loadInfo relsec m = .ok () m')
    (hs : index sechdrs relSection.shInfo.toNat = .ok sh)
    (hsh : index loadInfo.syms (getRelaSymIdx h.rInfo) = .ok symh)
    (hsl : index loadInfo.syms (getRelaSymIdx l.rInfo) = .ok syml)
    (hh : tryFrom (getRelaType h.rInfo) = some .rRiscvPcrelHi20)
    (hat : sh.shAddr + h.rOffset = syml.stValue)
    (hfirst : ∀ s ∈ A₁, ¬ (sh.shAddr + s.rOffset = syml.stValue ∧
      tryFrom (getRelaType s.rInfo) = some .rRiscvPcrelHi20))
    (hdh : ∀ s ∈ A₁ ++ B₁, RelaDisjoint sechdrs relSection h s)
    (hdl : ∀ s ∈ A₂ ++ B₂, RelaDisjoint sechdrs relSection l s) :
    (∀ i < 12, (m'.load (sh.shAddr + h.rOffset) 32).getLsbD i =
      (m.load (sh.shAddr + h.rOffset) 32).getLsbD i) ∧
    (tryFrom (getRelaType l.rInfo) = some .rRiscvPcrelLo12I →
      sh.shAddr + h.rOffset + Isa.uImm (m'.load (sh.shAddr + h.rOffset) 32) +
        Isa.iImm (m'.load (sh.shAddr + l.rOffset) 32) = symh.stValue + h.rAddend ∧
      ∀ i < 20, (m'.load (sh.shAddr + l.rOffset) 32).getLsbD i =
        (m.load (sh.shAddr + l.rOffset) 32).getLsbD i) ∧
    (tryFrom (getRelaType l.rInfo) = some .rRiscvPcrelLo12S →
      sh.shAddr + h.rOffset + Isa.uImm (m'.load (sh.shAddr + h.rOffset) 32) +
        Isa.sImm (m'.load (sh.shAddr + l.rOffset) 32) = symh.stValue + h.rAddend ∧
      ∀ i < 32, ¬ Isa.bField i → (m'.load (sh.shAddr + l.rOffset) 32).getLsbD i =
        (m.load (sh.shAddr + l.rOffset) 32).getLsbD i) := by
  rw [applyRelocateAdd_of_slice hsec hb, hS] at hrun
  have hk : ∀ r ∈ A₁ ++ h :: B₁, ∃ k, tryFrom (getRelaType r.rInfo) = some k ∧
      k ≠ .rRiscvGotHi20 := fun r hr => by
    obtain ⟨_, _, h₁⟩ := relocateAll_ok_mem hrun hr
    obtain ⟨_, _, hk⟩ := relocateRela_ok_kind h₁
    exact hk
  -- the `auipc` word: `h`'s own patch of the initial memory
  obtain ⟨mh, hmh, hwh⟩ := relocateAll_window hrun
    (fun s hs' => hdh s (List.mem_append_left _ hs')) (fun s hs' => hdh s (List.mem_append_right _ hs'))
  obtain ⟨Vh, hVh, hah⟩ := relocateRela_ok_of_kind hs hsh hh hmh
  rw [if_neg (by decide)] at hVh
  subst hVh
  obtain ⟨hvalid, rfl⟩ := applyRRiscvPcrelHi20Rela_eq_ok.1 hah
  have hr := (riscvInsnValid32bitOffset_iff _).1 hvalid
  have hwordh : m'.load (sh.shAddr + h.rOffset) 32 = spliceHi20 (m.load (sh.shAddr + h.rOffset) 32)
      ((symh.stValue + h.rAddend - (sh.shAddr + h.rOffset) + 0x800#64) &&& 0xfffff000#64) := by
    rw [Mem.load_congr fun x hx => hwh x (by rwa [relaFootprint_eq hs hh]), Mem.load_store]
  -- the `PCREL_LO12` word: its value is the residue of `h`'s offset
  rw [hpos] at hrun
  obtain ⟨ml, hml, hwl⟩ := relocateAll_window hrun
    (fun s hs' => hdl s (List.mem_append_left _ hs')) (fun s hs' => hdl s (List.mem_append_right _ hs'))
  have hfind := (findHi20_partner hs hh hk fun s hs' => by rw [hat]; exact hfirst s hs').trans
    (findHi20_singleton hs hsh hh)
  refine ⟨fun i hi => by rw [hwordh]; exact getLsbD_spliceHi20_mask _ _ hi, fun hl => ?_, fun hl => ?_⟩
  · obtain ⟨Vl, hVl, hal⟩ := relocateRela_ok_of_kind hs hsl hl hml
    rw [if_pos (.inl rfl), ← hat, ← hpos, hfind] at hVl
    cases hVl
    cases hal
    have hwordl := Mem.load_congr (w := 32) fun x hx => hwl x (by rwa [relaFootprint_eq hs hl])
    rw [Mem.load_store] at hwordl
    rw [hwordh, hwordl, add_assoc, uImm_add_iImm_split _ hr, add_sub_cancel]
    exact ⟨rfl, fun i hi => getLsbD_spliceLo12I_low _ _ hi⟩
  · obtain ⟨Vl, hVl, hal⟩ := relocateRela_ok_of_kind hs hsl hl hml
    rw [if_pos (.inr rfl), ← hat, ← hpos, hfind] at hVl
    cases hVl
    cases hal
    have hwordl := Mem.load_congr (w := 32) fun x hx => hwl x (by rwa [relaFootprint_eq hs hl])
    rw [Mem.load_store] at hwordl
    rw [hwordh, hwordl, add_assoc, uImm_add_sImm_split _ hr, add_sub_cancel]
    exact ⟨rfl, fun i hi hf => getLsbD_spliceLo12S_of_not_bField _ _ hi hf⟩

theorem pair_addresses_0x3234 :
    ∃ m', applyRelocateAdd (relasToBytes pairRelas) sampleSechdrs pairLoadInfo 0 (fun _ => 0) =
        .ok () m' ∧
      (∀ i < 12, (m'.load (0x1000#64 + pairHi20.rOffset) 32).getLsbD i =
        (Mem.load (fun _ => 0) (0x1000#64 + pairHi20.rOffset) 32).getLsbD i) ∧
      (tryFrom (getRelaType pairLo12.rInfo) = some .rRiscvPcrelLo12I →
        0x1000#64 + pairHi20.rOffset + Isa.uImm (m'.load (0x1000#64 + pairHi20.rOffset) 32) +
          Isa.iImm (m'.load (0x1000#64 + pairLo12.rOffset) 32) = 0x3000#64 + pairHi20.rAddend ∧
        ∀ i < 20, (m'.load (0x1000#64 + pairLo12.rOffset) 32).getLsbD i =
          (Mem.load (fun _ => 0) (0x1000#64 + pairLo12.rOffset) 32).getLsbD i) ∧
      (tryFrom (getRelaType pairLo12.rInfo) = some .rRiscvPcrelLo12S →
        0x1000#64 + pairHi20.rOffset + Isa.uImm (m'.load (0x1000#64 + pairHi20.rOffset) 32) +
          Isa.sImm (m'.load (0x1000#64 + pairLo12.rOffset) 32) = 0x3000#64 + pairHi20.rAddend ∧
        ∀ i < 32, ¬ Isa.bField i → (m'.load (0x1000#64 + pairLo12.rOffset) 32).getLsbD i =
          (Mem.load (fun _ => 0) (0x1000#64 + pairLo12.rOffset) 32).getLsbD i) := by
  have hsec : index sampleSechdrs 0 = .ok ⟨0#64, 0#64, 48#64, 1#32, 24#64⟩ := rfl
  have hb : slice (relasToBytes pairRelas) (0#64).toNat (0#64 + 48#64).toNat =
      .ok (relasToBytes pairRelas) := rfl
  have hs : index sampleSechdrs (1#32).toNat = .ok ⟨0x1000#64, 0#64, 0#64, 0#32, 0#64⟩ := rfl
  have hsh : index pairLoadInfo.syms (getRelaSymIdx pairHi20.rInfo) = .ok ⟨0x3000#64⟩ := rfl
  have hsl : index pairLoadInfo.syms (getRelaSymIdx pairLo12.rInfo) = .ok ⟨0x1000#64⟩ := rfl
  have hS : fromRawRela (relasToBytes pairRelas) (48#64).toNat = [] ++ pairHi20 :: [pairLo12] :=
    fromRawRela_toBytes pairRelas
  have hpos : [] ++ pairHi20 :: [pairLo12] = [pairHi20] ++ pairLo12 :: [] := rfl
  have hrun : applyRelocateAdd (relasToBytes pairRelas) sampleSechdrs pairLoadInfo 0 (fun _ => 0) =
      .ok () (Mem.store (Mem.store (fun _ => 0) 0x1000#64 0x2000#32) 0x1004#64 0x23400000#32) := rfl
  have hh : tryFrom (getRelaType pairHi20.rInfo) = some .rRiscvPcrelHi20 := rfl
  have hat : (0x1000#64 : BitVec 64) + pairHi20.rOffset = 0x1000#64 := rfl
  have key := pcrel_pair_addresses_target hsec hb hS hpos hrun hs hsh hsl hh hat
    (fun _ h => nomatch h)
    (fun s hs => by
      simp only [List.nil_append, List.mem_singleton] at hs
      subst hs
      exact pairHi20_disjoint_pairLo12)
    (fun s hs => by
      simp only [List.append_nil, List.mem_singleton] at hs
      subst hs
      exact pairHi20_disjoint_pairLo12.symm)
  exact ⟨_, hrun, key⟩

/-- Two records relocating one word: an `auipc` with `PCREL_HI20` to `0x101000` and an `addi`
with `PCREL_LO12_I` against the `auipc`'s label, both at `0x1000`. -/
def sameWordRelas : List Elf64Rela := [⟨0#64, 0x100000017#64, 0xfe000#64⟩, ⟨0#64, 0x18#64, 0#64⟩]

/-- Both records succeed, and the `addi` patch clears bit 20 that the `auipc` patch set, so
the pair addresses `0x1000` instead of `0x101000`. -/
theorem pcrel_pair_same_word_misses :
    applyRelocateAdd (relasToBytes sameWordRelas) sampleSechdrs pairLoadInfo 0 (fun _ => 0) =
        .ok () (Mem.store (Mem.store (fun _ => 0) 0x1000#64 0x100000#32) 0x1000#64 0#32) ∧
      0x1000#64 +
          Isa.uImm ((Mem.store (Mem.store (fun _ => 0) 0x1000#64 0x100000#32) 0x1000#64 0#32).load
            0x1000#64 32) +
          Isa.iImm ((Mem.store (Mem.store (fun _ => 0) 0x1000#64 0x100000#32) 0x1000#64 0#32).load
            0x1000#64 32) ≠ 0x3000#64 + 0xfe000#64 :=
  ⟨rfl, by decide⟩

end Kmod.Riscv64ArchRelocate
