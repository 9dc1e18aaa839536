import Kmod.Reorder
import Kmod.Overwrite

/-!
# What one call of `apply_relocate_add` reads, writes and decides

A call patches module memory through the records of one section, each on its own window
(`relaFootprint`); `callWindow` is the union of those windows. Three facts describe the whole
call against module memory, whatever the section holds:

- **writes** (`applyRelocateAdd_writes_in_window`): whether it returns `Ok` or `Err`, the call
  leaves every byte outside `callWindow` as it was;
- **reads** (`applyRelocateAdd_reads_window`): two memories that agree on `callWindow` give the
  same outcome, and on `Ok` final memories that agree there;
- **decides** (`applyRelocateAdd_result_eq`): whether the call returns `Ok`, which `Err`, or
  panics, does not depend on module memory at all: every check looks at the object, the tables
  and the record, never at the words being patched.

A section without `SUB` records is more rigid still: the call is a byte-wise masked overwrite
(`applyRelocateAdd_maskedOverwrite`), so calling it again on the memory it left, after `Ok` or
after `Err`, ends the same way and changes nothing (`applyRelocateAdd_rerun`). A `SUB` record
would subtract a second time.

Three consequences concern how calls and records combine. The records a call walks are the
section's bytes read whole (`sectionRelas_toBytes`). Two calls whose windows are disjoint can be
made in either order (`applyRelocateAdd_comm`). A call returns `Ok` exactly when each of its
records, run alone from any memory, does (`applyRelocateAdd_ok_iff`).

Each fact is proved once per step kind and carried through the loop by `bind`: the steps that
do not touch memory (`RelocM.lift`) are handled by `lift_bind_of`.
-/

namespace Kmod.Riscv64ArchRelocate

open RelocM Riscv64RelocationType

/-! ## The window of a call -/

/-- The records `apply_relocate_add` walks for section `relsec`: none when the section or its
bytes cannot be read, in which case the call panics before its loop. -/
def sectionRelas (elfData : List (BitVec 8)) (sechdrs : List SectionHeader) (relsec : Nat) :
    List Elf64Rela :=
  match index sechdrs relsec with
  | .ok relSection =>
    match slice elfData relSection.shOffset.toNat (relSection.shOffset + relSection.shSize).toNat with
    | .ok buf => fromRawRela buf relSection.shSize.toNat
    | .error _ => []
  | .error _ => []

/-- The bytes a call may patch: the union of the windows of the section's records. -/
def callWindow (elfData : List (BitVec 8)) (sechdrs : List SectionHeader) (relsec : Nat)
    (x : BitVec 64) : Prop :=
  match index sechdrs relsec with
  | .ok relSection => ∃ r ∈ sectionRelas elfData sechdrs relsec, relaFootprint sechdrs relSection r x
  | .error _ => False

instance (sechdrs : List SectionHeader) (relSection : SectionHeader) (r : Elf64Rela)
    (x : BitVec 64) : Decidable (relaFootprint sechdrs relSection r x) :=
  match h₁ : index sechdrs relSection.shInfo.toNat, h₂ : tryFrom (getRelaType r.rInfo) with
  | .ok sh, some k => decidable_of_iff (InWindow (sh.shAddr + r.rOffset) k.footprint x)
      (by rw [relaFootprint, h₁, h₂])
  | .ok _, none => isFalse (by rw [relaFootprint, h₁, h₂]; exact id)
  | .error _, _ => isFalse (by rw [relaFootprint, h₁]; exact id)

instance (elfData : List (BitVec 8)) (sechdrs : List SectionHeader) (relsec : Nat)
    (x : BitVec 64) : Decidable (callWindow elfData sechdrs relsec x) :=
  match h : index sechdrs relsec with
  | .ok relSection => decidable_of_iff
      (∃ r ∈ sectionRelas elfData sechdrs relsec, relaFootprint sechdrs relSection r x)
      (by rw [callWindow, h])
  | .error _ => isFalse (by rw [callWindow, h]; exact id)

theorem slice_length_of_ok {α : Type} {xs ys : List α} {a b : Nat} (h : slice xs a b = .ok ys) :
    a ≤ b ∧ ys.length = b - a := by
  unfold slice at h
  split at h
  · cases h
  split at h
  · cases h
  cases h
  simp only [List.length_take, List.length_drop]
  omega

/-- The records a call walks are the section's bytes read whole: written back, they are the
section's bytes up to its last complete record, so only a trailing partial record is lost. -/
theorem sectionRelas_toBytes {elfData : List (BitVec 8)} {sechdrs : List SectionHeader}
    {relsec : Nat} {relSection : SectionHeader} {buf : List (BitVec 8)}
    (hs : index sechdrs relsec = .ok relSection)
    (hb : slice elfData relSection.shOffset.toNat (relSection.shOffset + relSection.shSize).toNat =
      .ok buf) :
    relasToBytes (sectionRelas elfData sechdrs relsec) =
      buf.take (24 * (relSection.shSize.toNat / 24)) := by
  obtain ⟨hle, hlen⟩ := slice_length_of_ok hb
  simp only [sectionRelas, hs, hb]
  exact relasToBytes_fromRawRela buf (by rw [hlen]; bv_omega)

/-! ## Steps that do not touch memory -/

/-- A property of computations that every failure and every panic has holds of a step that
does not touch memory, followed by a continuation that has it. -/
theorem lift_bind_of {α : Type} {P : RelocM Unit → Prop} (hf : ∀ e, P (fail e))
    (hp : ∀ s, P (RelocM.panic s)) {x : Except Fault α} {k : α → RelocM Unit}
    (hk : ∀ a, x = .ok a → P (k a)) : P (RelocM.lift x >>= k) := by
  rcases x with (e | s) | a
  · exact hf e
  · exact hp s
  · exact hk a rfl

/-- A run that returns `Ok` or `Err` leaves every byte outside `W` as it was. -/
def WritesWithin (f : RelocM Unit) (W : BitVec 64 → Prop) : Prop :=
  ∀ {m m' e}, (f m = .ok () m' ∨ f m = .err e m') → ∀ x, ¬ W x → m' x = m x

theorem WritesWithin.bind {f g : RelocM Unit} {W : BitVec 64 → Prop} (hf : WritesWithin f W)
    (hg : WritesWithin g W) : WritesWithin (f >>= fun _ => g) W := by
  intro m m' e h x hx
  rw [bind_apply] at h
  rcases h₁ : f m with ⟨⟨⟩, m₁⟩ | ⟨e₁, m₁⟩ | s <;> rw [h₁] at h
  · exact (hg (e := e) h x hx).trans (hf (e := e) (.inl h₁) x hx)
  · obtain h | h := h <;> cases h
    exact hf (.inr h₁) x hx
  · obtain h | h := h <;> cases h

/-! ## One record, then the loop -/

variable {sechdrs : List SectionHeader} {relSection : SectionHeader} {loadInfo : ModuleLoadInfo}
  {R : List Elf64Rela}

theorem relocateRela_writesWithin (r : Elf64Rela) :
    WritesWithin (relocateRela sechdrs relSection loadInfo R r)
      (relaFootprint sechdrs relSection r) := by
  intro m m' e h x hx
  rcases h with h | h
  · exact (relocateRela_localStep R r).frame h x hx
  · rw [relocateRela_err_mem h]

theorem relocateRela_memBlind (r : Elf64Rela) :
    MemBlind (relocateRela sechdrs relSection loadInfo R r) :=
  lift_bind_of (fun _ _ _ => rfl) (fun _ _ _ => rfl) fun ⟨k, L, V⟩ _ =>
    applyRelocation_memBlind k L V

/-- A record whose kind is not a `SUB` is a masked overwrite. -/
theorem relocateRela_maskedOverwrite {r : Elf64Rela}
    (hr : ∀ k ∈ subKinds, tryFrom (getRelaType r.rInfo) ≠ some k) :
    MaskedOverwrite (relocateRela sechdrs relSection loadInfo R r) :=
  lift_bind_of MaskedOverwrite.fail MaskedOverwrite.panic fun ⟨k, L, V⟩ hp => by
    obtain ⟨-, -, -, -, -, hk, -⟩ := prepareRela_eq_ok.1 hp
    exact applyRelocation_maskedOverwrite (fun h => hr k h hk) L V

section Loop

variable (T : List Elf64Rela)

/-- The loop patches only the union of its records' windows. -/
theorem relocateAll_localStep :
    LocalStep (relocateAll sechdrs relSection loadInfo R T)
      (fun x => ∃ r ∈ T, relaFootprint sechdrs relSection r x) := by
  induction T with
  | nil => exact localStep_pure _
  | cons r T ih =>
    exact ((relocateRela_localStep R r).mono fun x hx => ⟨r, List.mem_cons_self r T, hx⟩).bind
      (ih.mono fun x ⟨s, hs, hx⟩ => ⟨s, List.mem_cons_of_mem r hs, hx⟩)

theorem relocateAll_writesWithin :
    WritesWithin (relocateAll sechdrs relSection loadInfo R T)
      (fun x => ∃ r ∈ T, relaFootprint sechdrs relSection r x) := by
  induction T with
  | nil =>
    intro m m' e h x _
    obtain h | h := h <;> cases h
    rfl
  | cons r T ih =>
    refine WritesWithin.bind (fun h x hx => relocateRela_writesWithin r h x fun hr => ?_)
      (fun h x hx => ih h x fun ⟨s, hs, hx'⟩ => ?_)
    · exact hx ⟨r, List.mem_cons_self r T, hr⟩
    · exact hx ⟨s, List.mem_cons_of_mem r hs, hx'⟩

theorem relocateAll_memBlind : MemBlind (relocateAll sechdrs relSection loadInfo R T) := by
  induction T with
  | nil => exact fun _ _ => rfl
  | cons r T ih => exact (relocateRela_memBlind r).bind ih

theorem relocateAll_maskedOverwrite
    (hT : ∀ r ∈ T, ∀ k ∈ subKinds, tryFrom (getRelaType r.rInfo) ≠ some k) :
    MaskedOverwrite (relocateAll sechdrs relSection loadInfo R T) := by
  induction T with
  | nil => exact .pure
  | cons r T ih =>
    exact (relocateRela_maskedOverwrite (hT r (List.mem_cons_self r T))).bind
      (ih fun s hs => hT s (List.mem_cons_of_mem r hs))

/-- The loop succeeds exactly when each of its records, run alone from any memory, does:
no record makes another fail. -/
theorem relocateAll_ok_iff (m : Mem) :
    (∃ m', relocateAll sechdrs relSection loadInfo R T m = .ok () m') ↔
      ∀ r ∈ T, ∀ m₀, ∃ m₀', relocateRela sechdrs relSection loadInfo R r m₀ = .ok () m₀' := by
  induction T generalizing m with
  | nil => exact iff_of_true ⟨m, rfl⟩ fun _ h => absurd h (List.not_mem_nil _)
  | cons r T ih =>
    simp only [relocateAll_cons_ok, List.forall_mem_cons]
    constructor
    · rintro ⟨m', m₁, h₁, h⟩
      exact ⟨(relocateRela_memBlind r).ok_of_ok h₁, (ih m₁).1 ⟨m', h⟩⟩
    · rintro ⟨hr, hT⟩
      obtain ⟨m₁, h₁⟩ := hr m
      obtain ⟨m', h⟩ := (ih m₁).2 hT
      exact ⟨m', m₁, h₁, h⟩

end Loop

/-! ## The whole call -/

section Call

variable {elfData : List (BitVec 8)} {sechdrs : List SectionHeader} {loadInfo : ModuleLoadInfo}
  {relsec : Nat}

/-- Past the two lookups, the call is its loop over `sectionRelas`; a property of the loop that
every failure and panic has is a property of the call. -/
theorem applyRelocateAdd_of_loop {P : RelocM Unit → Prop} (hf : ∀ e, P (fail e))
    (hp : ∀ s, P (RelocM.panic s))
    (hl : ∀ relSection, index sechdrs relsec = .ok relSection →
      P (relocateSection sechdrs relSection loadInfo (sectionRelas elfData sechdrs relsec))) :
    P (applyRelocateAdd elfData sechdrs loadInfo relsec) :=
  lift_bind_of hf hp fun relSection hs => lift_bind_of hf hp fun buf hb => by
    have h := hl relSection hs
    simp only [sectionRelas, hs, hb] at h
    exact h

theorem applyRelocateAdd_localStep :
    LocalStep (applyRelocateAdd elfData sechdrs loadInfo relsec) (callWindow elfData sechdrs relsec) :=
  applyRelocateAdd_of_loop (P := (LocalStep · _)) (localStep_fail · _) (localStep_panic · _)
    fun relSection hs =>
    (relocateAll_localStep _).mono fun x hx => by simpa only [callWindow, hs] using hx

/-- Two calls for relocation sections whose windows share no byte can be made in either order:
each order returns `Ok` from the same memories with the same final memory. -/
theorem applyRelocateAdd_comm {relsec' : Nat}
    (hd : ∀ x, callWindow elfData sechdrs relsec x → ¬ callWindow elfData sechdrs relsec' x)
    (m m' : Mem) :
    (applyRelocateAdd elfData sechdrs loadInfo relsec >>= fun _ =>
        applyRelocateAdd elfData sechdrs loadInfo relsec') m = .ok () m' ↔
      (applyRelocateAdd elfData sechdrs loadInfo relsec' >>= fun _ =>
        applyRelocateAdd elfData sechdrs loadInfo relsec) m = .ok () m' :=
  applyRelocateAdd_localStep.bind_comm applyRelocateAdd_localStep hd m m'

/-- An `R_RISCV_64` record of the second symbol at offset 8, just past the pair's window. -/
def abs64Rela : Elf64Rela := ⟨8#64, 0x100000002#64, 0#64⟩

/-- An object holding the pair's records and then `abs64Rela`. -/
def twoSectionsData : List (BitVec 8) := relasToBytes (pairRelas ++ [abs64Rela])

/-- Two relocation sections of `twoSectionsData`, the pair's and the one of `abs64Rela`, both
for the section at `0x1000`. -/
def twoSechdrs : List SectionHeader :=
  [⟨0#64, 0#64, 48#64, 2#32, 24#64⟩, ⟨0#64, 48#64, 24#64, 2#32, 24#64⟩,
    ⟨0x1000#64, 0#64, 0#64, 0#32, 0#64⟩]

theorem two_sections_disjoint (x : BitVec 64) (h : callWindow twoSectionsData twoSechdrs 0 x) :
    ¬ callWindow twoSectionsData twoSechdrs 1 x := by
  have h₀ : sectionRelas twoSectionsData twoSechdrs 0 = [pairHi20, pairLo12] := rfl
  have h₁ : sectionRelas twoSectionsData twoSechdrs 1 = [abs64Rela] := rfl
  have c₀ : callWindow twoSectionsData twoSechdrs 0 x ↔
      InWindow 0x1000#64 4 x ∨ InWindow 0x1004#64 4 x := by
    show (∃ r ∈ sectionRelas _ _ 0, relaFootprint twoSechdrs twoSechdrs[0] r x) ↔ _
    rw [h₀]
    simp only [List.mem_cons, List.mem_singleton, List.not_mem_nil, or_false, exists_eq_or_imp,
      exists_eq_left]
    exact Iff.rfl
  have c₁ : callWindow twoSectionsData twoSechdrs 1 x ↔ InWindow 0x1008#64 8 x := by
    show (∃ r ∈ sectionRelas _ _ 1, relaFootprint twoSechdrs twoSechdrs[1] r x) ↔ _
    rw [h₁]
    simp only [List.mem_singleton, exists_eq_left]
    exact Iff.rfl
  rw [c₀] at h
  rw [c₁]
  simp only [InWindow] at h ⊢
  bv_omega

/-- The two sections of `twoSectionsData`, whose windows touch without overlapping, commute:
both orders end with the three words patched. -/
theorem two_sections_comm :
    (applyRelocateAdd twoSectionsData twoSechdrs pairLoadInfo 0 >>= fun _ =>
        applyRelocateAdd twoSectionsData twoSechdrs pairLoadInfo 1) (fun _ => 0) =
      .ok () (Mem.store (Mem.store (Mem.store (fun _ => 0) 0x1000#64 0x2000#32)
        0x1004#64 0x23400000#32) 0x1008#64 0x3000#64) ∧
    ((applyRelocateAdd twoSectionsData twoSechdrs pairLoadInfo 0 >>= fun _ =>
        applyRelocateAdd twoSectionsData twoSechdrs pairLoadInfo 1) (fun _ => 0) =
      .ok () (Mem.store (Mem.store (Mem.store (fun _ => 0) 0x1000#64 0x2000#32)
        0x1004#64 0x23400000#32) 0x1008#64 0x3000#64) ↔
    (applyRelocateAdd twoSectionsData twoSechdrs pairLoadInfo 1 >>= fun _ =>
        applyRelocateAdd twoSectionsData twoSechdrs pairLoadInfo 0) (fun _ => 0) =
      .ok () (Mem.store (Mem.store (Mem.store (fun _ => 0) 0x1000#64 0x2000#32)
        0x1004#64 0x23400000#32) 0x1008#64 0x3000#64)) :=
  ⟨rfl, applyRelocateAdd_comm two_sections_disjoint _ _⟩

/-- Once the section and its bytes are found, a call returns `Ok` exactly when each of its
records, run alone from any memory, returns `Ok`: whether a record fails depends neither on
memory nor on the records before it. -/
theorem applyRelocateAdd_ok_iff {relSection : SectionHeader} {buf : List (BitVec 8)}
    (hs : index sechdrs relsec = .ok relSection)
    (hb : slice elfData relSection.shOffset.toNat (relSection.shOffset + relSection.shSize).toNat =
      .ok buf) (m : Mem) :
    (∃ m', applyRelocateAdd elfData sechdrs loadInfo relsec m = .ok () m') ↔
      ∀ r ∈ fromRawRela buf relSection.shSize.toNat, ∀ m₀, ∃ m₀', relocateRela sechdrs relSection
        loadInfo (fromRawRela buf relSection.shSize.toNat) r m₀ = .ok () m₀' := by
  rw [applyRelocateAdd_of_slice hs hb]
  exact relocateAll_ok_iff _ m

/-- The pair's call returns `Ok` from zeroed memory, so its `PCREL_LO12_I` alone returns `Ok`
from memory filled with `0xff`. -/
theorem pair_lo12_alone_ok :
    ∃ m', relocateRela sampleSechdrs ⟨0#64, 0#64, 48#64, 1#32, 24#64⟩ pairLoadInfo
      pairRelas pairLo12 (fun _ => 0xff#8) = .ok () m' :=
  have hs : index sampleSechdrs 0 = .ok ⟨0#64, 0#64, 48#64, 1#32, 24#64⟩ := rfl
  have hb : slice (relasToBytes pairRelas) (0#64).toNat (0#64 + 48#64).toNat =
      .ok (relasToBytes pairRelas) := rfl
  have hrun : applyRelocateAdd (relasToBytes pairRelas) sampleSechdrs pairLoadInfo 0 (fun _ => 0) =
      .ok () (Mem.store (Mem.store (fun _ => 0) 0x1000#64 0x2000#32) 0x1004#64 0x23400000#32) := rfl
  (applyRelocateAdd_ok_iff hs hb _).1 ⟨_, hrun⟩ pairLo12 (List.mem_of_mem_getLast? rfl) _

/-- Whatever it returns, `Ok` or `Err`, a call leaves every byte outside the windows of its
section's records as it was. -/
theorem applyRelocateAdd_writes_in_window {m m' : Mem} {e : ModuleErr}
    (h : applyRelocateAdd elfData sechdrs loadInfo relsec m = .ok () m' ∨
      applyRelocateAdd elfData sechdrs loadInfo relsec m = .err e m')
    {x : BitVec 64} (hx : ¬ callWindow elfData sechdrs relsec x) : m' x = m x := by
  have hw : WritesWithin (applyRelocateAdd elfData sechdrs loadInfo relsec)
      (callWindow elfData sechdrs relsec) :=
    applyRelocateAdd_of_loop (P := (WritesWithin · _))
      (fun _ _ _ _ h _ _ => by obtain h | h := h <;> cases h; rfl)
      (fun _ _ _ _ h => by obtain h | h := h <;> cases h)
      fun relSection hs _ _ _ h x hx => relocateAll_writesWithin _ h x fun hx' =>
        hx (by simpa only [callWindow, hs] using hx')
  exact hw h x hx

/-- The `PCREL_HI20`/`PCREL_LO12_I` pair of `Kmod.Reorder` patches `0x1000..0x1007` and leaves
the byte after it alone. -/
theorem pair_call_keeps_0x1008 :
    ¬ callWindow (relasToBytes pairRelas) sampleSechdrs 0 0x1008#64 ∧
      Mem.store (Mem.store (fun _ => 0) 0x1000#64 0x2000#32) 0x1004#64 0x23400000#32 0x1008#64 =
        0#8 :=
  have hrun : applyRelocateAdd (relasToBytes pairRelas) sampleSechdrs pairLoadInfo 0 (fun _ => 0) =
      .ok () (Mem.store (Mem.store (fun _ => 0) 0x1000#64 0x2000#32) 0x1004#64 0x23400000#32) := rfl
  ⟨by decide, applyRelocateAdd_writes_in_window (e := .relocationFailed "") (.inl hrun) (by decide)⟩

/-- Two memories that agree on the windows of the section's records give the same outcome, and
on `Ok` final memories that agree on those windows. -/
theorem applyRelocateAdd_reads_window {m₁ m₂ : Mem}
    (h : ∀ x, callWindow elfData sechdrs relsec x → m₁ x = m₂ x) :
    (applyRelocateAdd elfData sechdrs loadInfo relsec m₁).AgreeOn (callWindow elfData sechdrs relsec)
      (applyRelocateAdd elfData sechdrs loadInfo relsec m₂) :=
  applyRelocateAdd_localStep.agree h

/-- A byte outside the pair's windows does not change how the pair ends. -/
theorem pair_call_ignores_byte_0 :
    (applyRelocateAdd (relasToBytes pairRelas) sampleSechdrs pairLoadInfo 0 (fun _ => 0)).AgreeOn
      (callWindow (relasToBytes pairRelas) sampleSechdrs 0)
      (applyRelocateAdd (relasToBytes pairRelas) sampleSechdrs pairLoadInfo 0
        (Function.update (fun _ => 0) 0 0xff#8)) :=
  applyRelocateAdd_reads_window fun x hx => by
    have h0 : ¬ callWindow (relasToBytes pairRelas) sampleSechdrs 0 0 := by decide
    rw [Function.update_noteq fun (h : x = 0) => h0 (h ▸ hx)]

/-- Whether a call returns `Ok`, which `Err` it returns, or whether it panics, is the same for
every module memory. -/
theorem applyRelocateAdd_result_eq (m₁ m₂ : Mem) :
    (applyRelocateAdd elfData sechdrs loadInfo relsec m₁).result =
      (applyRelocateAdd elfData sechdrs loadInfo relsec m₂).result :=
  applyRelocateAdd_of_loop (P := MemBlind) (fun _ _ _ => rfl) (fun _ _ _ => rfl)
    (fun _ _ => relocateAll_memBlind _) m₁ m₂

/-- A call on a section without `SUB` records keeps, at every byte, the bits of a mask and sets
the bits of a pattern, both fixed by the object and the tables. -/
theorem applyRelocateAdd_maskedOverwrite
    (hsub : ∀ r ∈ sectionRelas elfData sechdrs relsec, ∀ k ∈ subKinds,
      tryFrom (getRelaType r.rInfo) ≠ some k) :
    MaskedOverwrite (applyRelocateAdd elfData sechdrs loadInfo relsec) :=
  applyRelocateAdd_of_loop MaskedOverwrite.fail MaskedOverwrite.panic fun _ _ =>
    relocateAll_maskedOverwrite _ hsub

/-- The bytes of a call on a section without `SUB` records: a result `r` and byte masks `M` and
`F`, fixed by the object and the tables, such that from every memory `m` the call returns `r` and
leaves `m x &&& M x ||| F x` at every address `x`. -/
theorem applyRelocateAdd_masked_bytes
    (hsub : ∀ r ∈ sectionRelas elfData sechdrs relsec, ∀ k ∈ subKinds,
      tryFrom (getRelaType r.rInfo) ≠ some k) :
    ∃ (r : Except Fault Unit) (M F : Mem), ∀ m, applyRelocateAdd elfData sechdrs loadInfo relsec m =
      Outcome.ofResult r (fun x => m x &&& M x ||| F x) :=
  applyRelocateAdd_maskedOverwrite hsub

theorem pair_call_masked_bytes :
    (∀ r ∈ sectionRelas (relasToBytes pairRelas) sampleSechdrs 0, ∀ k ∈ subKinds,
      tryFrom (getRelaType r.rInfo) ≠ some k) ∧
    ∃ (r : Except Fault Unit) (M F : Mem), ∀ m,
      applyRelocateAdd (relasToBytes pairRelas) sampleSechdrs pairLoadInfo 0 m =
      Outcome.ofResult r (fun x => m x &&& M x ||| F x) :=
  ⟨by decide, applyRelocateAdd_masked_bytes (by decide)⟩

/-- Called again on the memory it left, after `Ok` or after `Err`, a call on a section without
`SUB` records ends the same way and leaves the same memory. -/
theorem applyRelocateAdd_rerun {m m' : Mem} {e : ModuleErr}
    (hsub : ∀ r ∈ sectionRelas elfData sechdrs relsec, ∀ k ∈ subKinds,
      tryFrom (getRelaType r.rInfo) ≠ some k)
    (h : applyRelocateAdd elfData sechdrs loadInfo relsec m = .ok () m' ∨
      applyRelocateAdd elfData sechdrs loadInfo relsec m = .err e m') :
    applyRelocateAdd elfData sechdrs loadInfo relsec m' =
      applyRelocateAdd elfData sechdrs loadInfo relsec m :=
  (applyRelocateAdd_maskedOverwrite hsub).rerun h

/-- The pair, run again on the module it patched, returns `Ok` with the same memory. -/
theorem pair_call_rerun :
    applyRelocateAdd (relasToBytes pairRelas) sampleSechdrs pairLoadInfo 0
        (Mem.store (Mem.store (fun _ => 0) 0x1000#64 0x2000#32) 0x1004#64 0x23400000#32) =
      .ok () (Mem.store (Mem.store (fun _ => 0) 0x1000#64 0x2000#32) 0x1004#64 0x23400000#32) :=
  have hrun : applyRelocateAdd (relasToBytes pairRelas) sampleSechdrs pairLoadInfo 0 (fun _ => 0) =
      .ok () (Mem.store (Mem.store (fun _ => 0) 0x1000#64 0x2000#32) 0x1004#64 0x23400000#32) := rfl
  (applyRelocateAdd_rerun (e := .relocationFailed "") (by decide) (.inl hrun)).trans hrun

end Call

end Kmod.Riscv64ArchRelocate
