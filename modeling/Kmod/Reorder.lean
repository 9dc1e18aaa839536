import Mathlib.Data.List.Pairwise
import Kmod.Run

/-!
# The order of a section's records does not matter

The driver applies a section's records in the order they are stored, and a `PCREL_LO12` finds
its `PCREL_HI20` partner by scanning the same list. When the records patch pairwise disjoint
bytes (`RelaDisjoint`; a `RELAX` record patches nothing, so it may share a location with the
record it annotates), any permutation of the section gives the same result: `Ok` on one order
exactly when `Ok` on the other, with the same final memory (`applyRelocateAdd_perm`).

Two things change when the records are permuted, and each has its own argument:

- **the order of the patches** (`relocateAll_perm`): two records on disjoint windows commute
  (`LocalStep.bind_comm`), and a permutation is a chain of such swaps;
- **the list the partner search scans** (`relocateAll_ok_of_relaList_perm`): on a successful
  run every record decodes and none is a `GOT_HI20` (whose routine panics), so the candidates
  at one address are `PCREL_HI20` records, whose windows all hold that address; by
  disjointness there is at most one, and the first candidate of every order is that one
  (`findHi20_perm`). The lo12 residue is recomputed from the partner's record, never read back
  from the patched `auipc`, so it is the same in every order.
-/

namespace Kmod

open RelocM

/-! ## Equivalent computations -/

namespace OkEquiv

variable {f f' g g' k : RelocM Unit}

theorem refl (f : RelocM Unit) : OkEquiv f f := fun _ _ => Iff.rfl

theorem trans (h₁ : OkEquiv f g) (h₂ : OkEquiv g k) : OkEquiv f k := fun m m' =>
  (h₁ m m').trans (h₂ m m')

theorem bind_right (h : OkEquiv f f') (g : RelocM Unit) :
    OkEquiv (f >>= fun _ => g) (f' >>= fun _ => g) := fun m m' => by
  simp only [bind_eq_ok]
  exact ⟨fun ⟨u, m₁, h₁, h₂⟩ => ⟨u, m₁, (h m m₁).1 (by cases u; exact h₁), h₂⟩,
    fun ⟨u, m₁, h₁, h₂⟩ => ⟨u, m₁, (h m m₁).2 (by cases u; exact h₁), h₂⟩⟩

theorem bind_left (f : RelocM Unit) (h : OkEquiv g g') :
    OkEquiv (f >>= fun _ => g) (f >>= fun _ => g') := fun m m' => by
  simp only [bind_eq_ok]
  exact ⟨fun ⟨u, m₁, h₁, h₂⟩ => ⟨u, m₁, h₁, (h m₁ m').1 h₂⟩,
    fun ⟨u, m₁, h₁, h₂⟩ => ⟨u, m₁, h₁, (h m₁ m').2 h₂⟩⟩

end OkEquiv

/-- Local steps on disjoint windows commute in front of any continuation. -/
theorem LocalStep.bind_comm_cont {f g : RelocM Unit} {W U : BitVec 64 → Prop}
    (hf : LocalStep f W) (hg : LocalStep g U) (hd : ∀ x, W x → ¬ U x) (k : RelocM Unit) :
    OkEquiv (f >>= fun _ => g >>= fun _ => k) (g >>= fun _ => f >>= fun _ => k) := by
  have h := (hf.bind_comm hg hd).bind_right k
  rwa [bind_assoc, bind_assoc] at h

namespace Riscv64ArchRelocate

open Riscv64RelocationType

variable {sechdrs : List SectionHeader} {relSection : SectionHeader} {loadInfo : ModuleLoadInfo}

/-- Two records patch no byte in common. -/
def RelaDisjoint (sechdrs : List SectionHeader) (relSection : SectionHeader) (r s : Elf64Rela) :
    Prop :=
  ∀ x, relaFootprint sechdrs relSection r x → ¬ relaFootprint sechdrs relSection s x

theorem RelaDisjoint.symm {r s : Elf64Rela} (h : RelaDisjoint sechdrs relSection r s) :
    RelaDisjoint sechdrs relSection s r := fun x hs hr => h x hr hs

/-! ## Permuting the patches -/

/-- With the partner list fixed, permuting disjoint records changes nothing. -/
theorem relocateAll_perm {R T T' : List Elf64Rela} (hp : T.Perm T')
    (hd : T.Pairwise (RelaDisjoint sechdrs relSection)) :
    OkEquiv (relocateAll sechdrs relSection loadInfo R T)
      (relocateAll sechdrs relSection loadInfo R T') := by
  induction hp with
  | nil => exact OkEquiv.refl _
  | cons r _ ih => exact OkEquiv.bind_left _ (ih (List.pairwise_cons.1 hd).2)
  | swap x y l =>
    exact (relocateRela_localStep R y).bind_comm_cont (relocateRela_localStep R x)
      ((List.pairwise_cons.1 hd).1 x (List.mem_cons_self x l)) _
  | trans h₁ _ ih₁ ih₂ => exact (ih₁ hd).trans (ih₂ ((h₁.pairwise_iff RelaDisjoint.symm).1 hd))

/-! ## Permuting the list the partner search scans -/

/-- `inner_rela` is a record the partner search accepts for a symbol at `stValue`, the
section being relocated having header `sh`. -/
def IsHi20At (sh : SectionHeader) (stValue : BitVec 64) (r : Elf64Rela) : Prop :=
  sh.shAddr + r.rOffset = stValue ∧
    (tryFrom (getRelaType r.rInfo) = some .rRiscvPcrelHi20 ∨
      tryFrom (getRelaType r.rInfo) = some .rRiscvGotHi20)

instance (sh : SectionHeader) (v : BitVec 64) (r : Elf64Rela) : Decidable (IsHi20At sh v r) :=
  inferInstanceAs (Decidable (_ ∧ _))

theorem findHi20_cons {sh : SectionHeader} (hs : index sechdrs relSection.shInfo.toNat = .ok sh)
    {v : BitVec 64} {r : Elf64Rela} {k : Riscv64RelocationType}
    (hk : tryFrom (getRelaType r.rInfo) = some k) (R : List Elf64Rela) :
    findHi20 sechdrs relSection loadInfo v (r :: R) =
      if IsHi20At sh v r then findHi20 sechdrs relSection loadInfo v [r]
      else findHi20 sechdrs relSection loadInfo v R := by
  simp only [findHi20, hs, decodeRelocType_eq_ok.2 hk, IsHi20At, hk, Option.some.injEq, bind,
    Except.bind]
  split_ifs <;> rfl

/-- Once every record decodes, the search returns what its first candidate gives. -/
theorem findHi20_eq_find {sh : SectionHeader} (hs : index sechdrs relSection.shInfo.toNat = .ok sh)
    {v : BitVec 64} {R : List Elf64Rela}
    (hR : ∀ r ∈ R, ∃ k, tryFrom (getRelaType r.rInfo) = some k) :
    findHi20 sechdrs relSection loadInfo v R =
      match R.find? fun r => decide (IsHi20At sh v r) with
      | none => pure none
      | some h => findHi20 sechdrs relSection loadInfo v [h] := by
  induction R with
  | nil => rfl
  | cons r R ih =>
    obtain ⟨k, hk⟩ := hR r (List.mem_cons_self r R)
    rw [findHi20_cons hs hk, List.find?_cons]
    by_cases hm : IsHi20At sh v r
    · simp only [hm, if_true, decide_True]
    · simp only [hm, if_false, decide_False]
      exact ih fun s hs' => hR s (List.mem_cons_of_mem r hs')

/-- The first element satisfying `p` is the same in every order when at most one does. -/
theorem find?_eq_of_perm {α : Type} {p : α → Bool} {l l' : List α} (hp : l.Perm l')
    (hu : l.Pairwise fun a b => ¬ (p a ∧ p b)) : l.find? p = l'.find? p := by
  rcases h : l.find? p with _ | a
  · exact (List.find?_eq_none.2 fun x hx => List.find?_eq_none.1 h x (hp.mem_iff.2 hx)).symm
  · have hal := List.mem_of_find?_eq_some h
    rcases h' : l'.find? p with _ | b
    · exact absurd (List.find?_some h) (List.find?_eq_none.1 h' a (hp.mem_iff.1 hal))
    · have hsymm : Symmetric fun a b => ¬ (p a ∧ p b) := fun _ _ hxy hyx => hxy hyx.symm
      by_contra hne
      exact hu.forall hsymm hal
        (hp.mem_iff.2 (List.mem_of_find?_eq_some h')) (fun e => hne (congrArg some e))
        ⟨List.find?_some h, List.find?_some h'⟩

/-- A `PCREL_HI20` candidate at `v` patches the byte at `v`. -/
theorem relaFootprint_of_isHi20At {sh : SectionHeader}
    (hs : index sechdrs relSection.shInfo.toNat = .ok sh) {v : BitVec 64} {r : Elf64Rela}
    (hm : IsHi20At sh v r) (hng : tryFrom (getRelaType r.rInfo) ≠ some .rRiscvGotHi20) :
    relaFootprint sechdrs relSection r v := by
  obtain ⟨hv, hk | hk⟩ := hm
  · rw [relaFootprint_eq hs hk, hv]
    exact inWindow_self (by decide)
  · exact absurd hk hng

/-- Disjoint records without `GOT_HI20` leave at most one candidate at each address. -/
theorem findHi20_perm {sh : SectionHeader} (hs : index sechdrs relSection.shInfo.toNat = .ok sh)
    {R R' : List Elf64Rela} (hp : R.Perm R') (hd : R.Pairwise (RelaDisjoint sechdrs relSection))
    (hk : ∀ r ∈ R, ∃ k, tryFrom (getRelaType r.rInfo) = some k ∧ k ≠ .rRiscvGotHi20)
    (v : BitVec 64) :
    findHi20 sechdrs relSection loadInfo v R = findHi20 sechdrs relSection loadInfo v R' := by
  have hdec : ∀ r ∈ R, ∃ k, tryFrom (getRelaType r.rInfo) = some k := fun r hr =>
    (hk r hr).imp fun _ h => h.1
  have hng : ∀ r ∈ R, tryFrom (getRelaType r.rInfo) ≠ some .rRiscvGotHi20 := fun r hr h => by
    obtain ⟨k, hk', hne⟩ := hk r hr
    exact hne (Option.some.inj (hk'.symm.trans h))
  have hu : R.Pairwise fun a b => ¬ (decide (IsHi20At sh v a) ∧ decide (IsHi20At sh v b)) :=
    hd.imp_of_mem fun ha hb hab ⟨hma, hmb⟩ =>
      hab v (relaFootprint_of_isHi20At hs (of_decide_eq_true hma) (hng _ ha))
        (relaFootprint_of_isHi20At hs (of_decide_eq_true hmb) (hng _ hb))
  rw [findHi20_eq_find hs hdec, findHi20_eq_find hs fun r hr => hdec r (hp.mem_iff.2 hr),
    find?_eq_of_perm hp hu]

theorem relocateAll_congr {R R' : List Elf64Rela}
    (h : ∀ v, findHi20 sechdrs relSection loadInfo v R = findHi20 sechdrs relSection loadInfo v R')
    (T : List Elf64Rela) :
    relocateAll sechdrs relSection loadInfo R T = relocateAll sechdrs relSection loadInfo R' T := by
  induction T with
  | nil => rfl
  | cons r T ih => simp only [relocateAll_cons, ih, relocateRela, prepareRela, h]

/-- A record that returned `Ok` decoded to a kind other than `GOT_HI20`. -/
theorem relocateRela_ok_kind {R : List Elf64Rela} {r : Elf64Rela} {m m' : Mem}
    (h : relocateRela sechdrs relSection loadInfo R r m = .ok () m') :
    ∃ sh, index sechdrs relSection.shInfo.toNat = .ok sh ∧
      ∃ k, tryFrom (getRelaType r.rInfo) = some k ∧ k ≠ .rRiscvGotHi20 := by
  unfold relocateRela at h
  rcases hp : prepareRela sechdrs relSection loadInfo R r with (e | s) | ⟨k, L, V⟩ <;>
    rw [hp] at h
  · cases h
  · cases h
  · obtain ⟨sh, -, -, hs, -, hk, -⟩ := prepareRela_eq_ok.1 hp
    refine ⟨sh, hs, k, hk, ?_⟩
    rintro rfl
    cases h

/-- A successful run does not depend on the order of the list its partner searches scan. -/
theorem relocateAll_ok_of_relaList_perm {R R' T : List Elf64Rela} (hp : R.Perm R')
    (hT : T.Perm R) (hd : R.Pairwise (RelaDisjoint sechdrs relSection)) {m m' : Mem}
    (h : relocateAll sechdrs relSection loadInfo R T m = .ok () m') :
    relocateAll sechdrs relSection loadInfo R' T m = .ok () m' := by
  have hk : ∀ r ∈ R, ∃ sh, index sechdrs relSection.shInfo.toNat = .ok sh ∧
      ∃ k, tryFrom (getRelaType r.rInfo) = some k ∧ k ≠ .rRiscvGotHi20 := fun r hr => by
    obtain ⟨m₁, m₂, h₁⟩ := relocateAll_ok_mem h (hT.mem_iff.2 hr)
    exact relocateRela_ok_kind h₁
  rcases R with _ | ⟨r₀, R₀⟩
  · rw [List.perm_nil.1 hT]
    rw [List.perm_nil.1 hT] at h
    exact h
  · obtain ⟨sh, hs, -⟩ := hk r₀ (List.mem_cons_self r₀ R₀)
    have hk' : ∀ r ∈ r₀ :: R₀, ∃ k, tryFrom (getRelaType r.rInfo) = some k ∧
        k ≠ .rRiscvGotHi20 := fun r hr => by obtain ⟨_, _, hr'⟩ := hk r hr; exact hr'
    rwa [← relocateAll_congr (findHi20_perm hs hp hd hk')]

/-! ## Permuting a section -/

theorem relocateSection_ok_of_perm {S S' : List Elf64Rela} (hp : S.Perm S')
    (hd : S.Pairwise (RelaDisjoint sechdrs relSection)) {m m' : Mem}
    (h : relocateSection sechdrs relSection loadInfo S m = .ok () m') :
    relocateSection sechdrs relSection loadInfo S' m = .ok () m' :=
  relocateAll_ok_of_relaList_perm hp hp.symm hd ((relocateAll_perm hp hd m m').1 h)

/-- Two objects whose relocation section, under the same header, holds the same pairwise
disjoint records in two orders: `apply_relocate_add` returns `Ok` on one exactly when it does
on the other, with the same final memory. -/
theorem applyRelocateAdd_perm {elfData elfData' : List (BitVec 8)} {sechdrs : List SectionHeader}
    {loadInfo : ModuleLoadInfo} {relsec : Nat} {relSection : SectionHeader}
    {buf buf' : List (BitVec 8)} {S S' : List Elf64Rela}
    (hs : index sechdrs relsec = .ok relSection)
    (hb : slice elfData relSection.shOffset.toNat (relSection.shOffset + relSection.shSize).toNat =
      .ok buf)
    (hb' : slice elfData' relSection.shOffset.toNat (relSection.shOffset + relSection.shSize).toNat =
      .ok buf')
    (hS : fromRawRela buf relSection.shSize.toNat = S)
    (hS' : fromRawRela buf' relSection.shSize.toNat = S')
    (hp : S.Perm S') (hd : S.Pairwise (RelaDisjoint sechdrs relSection)) (m m' : Mem) :
    applyRelocateAdd elfData sechdrs loadInfo relsec m = .ok () m' ↔
      applyRelocateAdd elfData' sechdrs loadInfo relsec m = .ok () m' := by
  rw [applyRelocateAdd_of_slice hs hb, applyRelocateAdd_of_slice hs hb', hS, hS']
  exact ⟨relocateSection_ok_of_perm hp hd,
    relocateSection_ok_of_perm hp.symm ((hp.pairwise_iff RelaDisjoint.symm).1 hd)⟩

/-- An `auipc` at offset 0, relocated with `PCREL_HI20` against the symbol at `0x3000` plus
`0x234`. -/
def pairHi20 : Elf64Rela := ⟨0#64, 0x100000017#64, 0x234#64⟩

/-- The `addi` after it, relocated with `PCREL_LO12_I` against the label of the `auipc`. -/
def pairLo12 : Elf64Rela := ⟨4#64, 0x18#64, 0#64⟩

def pairRelas : List Elf64Rela := [pairHi20, pairLo12]

/-- The label at `0x1000` and the target symbol at `0x3000`. -/
def pairLoadInfo : ModuleLoadInfo := ⟨[⟨0x1000#64⟩, ⟨0x3000#64⟩], ["label", "target"]⟩

theorem pairHi20_disjoint_pairLo12 :
    RelaDisjoint sampleSechdrs ⟨0#64, 0#64, 48#64, 1#32, 24#64⟩ pairHi20 pairLo12 :=
  fun x h₁ h₂ => by
    change InWindow (0x1000#64 + 0#64) 4 x at h₁
    change InWindow (0x1000#64 + 4#64) 4 x at h₂
    simp only [InWindow] at h₁ h₂
    bv_omega

theorem pair_order_irrelevant :
    applyRelocateAdd (relasToBytes pairRelas) sampleSechdrs pairLoadInfo 0 (fun _ => 0) =
        .ok () (Mem.store (Mem.store (fun _ => 0) 0x1000#64 0x2000#32) 0x1004#64 0x23400000#32) ∧
    (applyRelocateAdd (relasToBytes pairRelas) sampleSechdrs pairLoadInfo 0 (fun _ => 0) =
        .ok () (Mem.store (Mem.store (fun _ => 0) 0x1000#64 0x2000#32) 0x1004#64 0x23400000#32) ↔
      applyRelocateAdd (relasToBytes pairRelas.reverse) sampleSechdrs pairLoadInfo 0 (fun _ => 0) =
        .ok () (Mem.store (Mem.store (fun _ => 0) 0x1000#64 0x2000#32) 0x1004#64 0x23400000#32)) := by
  have hs : index sampleSechdrs 0 = .ok ⟨0#64, 0#64, 48#64, 1#32, 24#64⟩ := rfl
  have hb : slice (relasToBytes pairRelas) (0#64).toNat (0#64 + 48#64).toNat =
      .ok (relasToBytes pairRelas) := rfl
  have hb' : slice (relasToBytes pairRelas.reverse) (0#64).toNat (0#64 + 48#64).toNat =
      .ok (relasToBytes pairRelas.reverse) := rfl
  have hd : pairRelas.Pairwise (RelaDisjoint sampleSechdrs ⟨0#64, 0#64, 48#64, 1#32, 24#64⟩) :=
    List.pairwise_pair.2 pairHi20_disjoint_pairLo12
  exact ⟨rfl, applyRelocateAdd_perm hs hb hb' (fromRawRela_toBytes _)
    (fromRawRela_toBytes _) (List.Perm.swap _ _ []) hd _ _⟩

end Riscv64ArchRelocate

end Kmod
