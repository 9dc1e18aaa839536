import Kmod.Footprint
import Kmod.Records

/-!
# Whole runs of the relocation loop

`relocateAll` applies the records one after the other and stops at the first one that does not
return `Ok`. This file says what a whole run does in terms of its records:

- a run over `T₁ ++ T₂` is the run over `T₁` followed by the run over `T₂`
  (`relocateAll_append`);
- a run that returns `Err` ran exactly the records before the failing one, each to completion,
  and the failing record wrote nothing (`relocateAll_err`); `apply_relocate_add` itself returns
  `Err` only that way (`applyRelocateAdd_err_prefix`);
- a successful run changes no byte outside the windows of its records (`relocateAll_frame`),
  and a window that only one record patches ends up as that record's patch of the initial
  memory (`relocateAll_window`).
-/

namespace Kmod.Riscv64ArchRelocate

open RelocM

variable {sechdrs : List SectionHeader} {relSection : SectionHeader} {loadInfo : ModuleLoadInfo}
  {R : List Elf64Rela}

theorem relocateAll_cons (r : Elf64Rela) (T : List Elf64Rela) :
    relocateAll sechdrs relSection loadInfo R (r :: T) =
      (relocateRela sechdrs relSection loadInfo R r >>= fun _ =>
        relocateAll sechdrs relSection loadInfo R T) := rfl

theorem relocateAll_append (T₁ T₂ : List Elf64Rela) :
    relocateAll sechdrs relSection loadInfo R (T₁ ++ T₂) =
      (relocateAll sechdrs relSection loadInfo R T₁ >>= fun _ =>
        relocateAll sechdrs relSection loadInfo R T₂) := by
  induction T₁ with
  | nil => rfl
  | cons r T₁ ih => rw [List.cons_append, relocateAll_cons, relocateAll_cons, ih, bind_assoc]

/-- One iteration succeeds when its record is prepared and its kind's routine succeeds. -/
theorem relocateRela_eq_ok {r : Elf64Rela} {m m' : Mem} :
    relocateRela sechdrs relSection loadInfo R r m = .ok () m' ↔
      ∃ k L V, prepareRela sechdrs relSection loadInfo R r = .ok (k, L, V) ∧
        k.applyRelocation L V m = .ok () m' := by
  unfold relocateRela
  rcases prepareRela sechdrs relSection loadInfo R r with (e | s) | ⟨k, L, V⟩ <;>
    simp [lift, and_assoc]

theorem relocateAll_cons_ok {r : Elf64Rela} {T : List Elf64Rela} {m m' : Mem} :
    relocateAll sechdrs relSection loadInfo R (r :: T) m = .ok () m' ↔
      ∃ m₁, relocateRela sechdrs relSection loadInfo R r m = .ok () m₁ ∧
        relocateAll sechdrs relSection loadInfo R T m₁ = .ok () m' := by
  rw [relocateAll_cons, bind_eq_ok]
  exact ⟨fun ⟨⟨⟩, m₁, h⟩ => ⟨m₁, h⟩, fun ⟨m₁, h⟩ => ⟨(), m₁, h⟩⟩

/-- Every record of a successful run returned `Ok` where it ran. -/
theorem relocateAll_ok_mem {T : List Elf64Rela} {m m' : Mem}
    (h : relocateAll sechdrs relSection loadInfo R T m = .ok () m') {r : Elf64Rela} (hr : r ∈ T) :
    ∃ m₁ m₂, relocateRela sechdrs relSection loadInfo R r m₁ = .ok () m₂ := by
  induction T generalizing m with
  | nil => cases hr
  | cons s T ih =>
    obtain ⟨m₁, h₁, h₂⟩ := relocateAll_cons_ok.1 h
    rcases List.mem_cons.1 hr with rfl | hr
    · exact ⟨m, m₁, h₁⟩
    · exact ih h₂ hr

/-! ## Successful runs -/

/-- A successful run changes no byte that none of its records patches. -/
theorem relocateAll_frame {T : List Elf64Rela} {m m' : Mem}
    (h : relocateAll sechdrs relSection loadInfo R T m = .ok () m') {x : BitVec 64}
    (hx : ∀ r ∈ T, ¬ relaFootprint sechdrs relSection r x) : m' x = m x := by
  induction T generalizing m with
  | nil => cases h; rfl
  | cons r T ih =>
    obtain ⟨m₁, h₁, h₂⟩ := relocateAll_cons_ok.1 h
    rw [ih h₂ fun s hs => hx s (List.mem_cons_of_mem r hs),
      (relocateRela_localStep R r).frame h₁ x (hx r (List.mem_cons_self r T))]

/-- In a successful run over `A ++ r :: B` where no other record patches a byte of `r`'s
window, the run leaves on that window what `r` alone leaves from the initial memory. -/
theorem relocateAll_window {A B : List Elf64Rela} {r : Elf64Rela} {m m' : Mem}
    (h : relocateAll sechdrs relSection loadInfo R (A ++ r :: B) m = .ok () m')
    (hA : ∀ s ∈ A, ∀ x, relaFootprint sechdrs relSection r x → ¬ relaFootprint sechdrs relSection s x)
    (hB : ∀ s ∈ B, ∀ x, relaFootprint sechdrs relSection r x → ¬ relaFootprint sechdrs relSection s x) :
    ∃ mr, relocateRela sechdrs relSection loadInfo R r m = .ok () mr ∧
      ∀ x, relaFootprint sechdrs relSection r x → m' x = mr x := by
  rw [relocateAll_append, bind_eq_ok] at h
  obtain ⟨⟨⟩, mA, hA', hrB⟩ := h
  obtain ⟨mAr, hr, hB'⟩ := relocateAll_cons_ok.1 hrB
  obtain ⟨mr, hmr, hagree⟩ := (relocateRela_localStep R r).ok_of_agree
    (fun x hx => relocateAll_frame hA' fun s hs => hA s hs x hx) hr
  exact ⟨mr, hmr, fun x hx => (relocateAll_frame hB' fun s hs => hB s hs x hx).trans (hagree x hx)⟩

/-! ## Failing runs -/

/-- A run that returns `Err` ran the records before the `i`-th to completion and stopped at
the `i`-th, which returned `Err` without writing. -/
theorem relocateAll_err {T : List Elf64Rela} {m m' : Mem} {e : ModuleErr}
    (h : relocateAll sechdrs relSection loadInfo R T m = .err e m') :
    ∃ i, ∃ hi : i < T.length,
      relocateAll sechdrs relSection loadInfo R (T.take i) m = .ok () m' ∧
      relocateRela sechdrs relSection loadInfo R T[i] m' = .err e m' := by
  induction T generalizing m with
  | nil => cases h
  | cons r T ih =>
    rw [relocateAll_cons, bind_apply] at h
    rcases h₁ : relocateRela sechdrs relSection loadInfo R r m with ⟨⟨⟩, m₁⟩ | ⟨e₁, m₁⟩ | s <;>
      rw [h₁] at h
    · obtain ⟨i, hi, hp, hf⟩ := ih h
      refine ⟨i + 1, Nat.succ_lt_succ hi, ?_, hf⟩
      rw [List.take_succ_cons, relocateAll_cons, bind_apply, h₁]
      exact hp
    · cases h
      cases relocateRela_err_mem h₁
      exact ⟨0, Nat.zero_lt_succ _, rfl, h₁⟩
    · cases h

theorem index_ne_err {α : Type} (xs : List α) (i : Nat) (e : ModuleErr) :
    index xs i ≠ .error (.err e) := by
  unfold index; split <;> nofun

theorem slice_ne_err {α : Type} (xs : List α) (a b : Nat) (e : ModuleErr) :
    slice xs a b ≠ .error (.err e) := by
  unfold slice; split <;> [nofun; split <;> nofun]

/-- Once the section is found and its bytes cut out, `apply_relocate_add` is the loop over the
parsed records. -/
theorem applyRelocateAdd_of_slice {elfData : List (BitVec 8)} {sechdrs : List SectionHeader}
    {loadInfo : ModuleLoadInfo} {relsec : Nat} {relSection : SectionHeader} {buf : List (BitVec 8)}
    (hs : index sechdrs relsec = .ok relSection)
    (hb : slice elfData relSection.shOffset.toNat (relSection.shOffset + relSection.shSize).toNat =
      .ok buf) :
    applyRelocateAdd elfData sechdrs loadInfo relsec =
      relocateSection sechdrs relSection loadInfo (fromRawRela buf relSection.shSize.toNat) := by
  simp only [applyRelocateAdd, hs, hb, lift_ok, pure_bind]

/-- `apply_relocate_add` returns `Err` only from its loop: the section was found and cut out,
the records before the `i`-th were applied in order, and the `i`-th returned `Err` without
writing. -/
theorem applyRelocateAdd_err_prefix {elfData : List (BitVec 8)} {sechdrs : List SectionHeader}
    {loadInfo : ModuleLoadInfo} {relsec : Nat} {m m' : Mem} {e : ModuleErr}
    (h : applyRelocateAdd elfData sechdrs loadInfo relsec m = .err e m') :
    ∃ relSection buf relaList, index sechdrs relsec = .ok relSection ∧
      slice elfData relSection.shOffset.toNat (relSection.shOffset + relSection.shSize).toNat =
        .ok buf ∧ relaList = fromRawRela buf relSection.shSize.toNat ∧
      ∃ i, ∃ hi : i < relaList.length,
        relocateAll sechdrs relSection loadInfo relaList (relaList.take i) m = .ok () m' ∧
        relocateRela sechdrs relSection loadInfo relaList relaList[i] m' = .err e m' := by
  unfold applyRelocateAdd at h
  rcases hs : index sechdrs relsec with (e₁ | s) | relSection
  · exact absurd hs (index_ne_err _ _ _)
  · rw [hs] at h; cases h
  rw [hs] at h
  rcases hb : slice elfData relSection.shOffset.toNat
    (relSection.shOffset + relSection.shSize).toNat with (e₂ | s) | buf
  · exact absurd hb (slice_ne_err _ _ _ _)
  · simp only [hb, lift_ok, pure_bind] at h; cases h
  simp only [hb, lift_ok, pure_bind] at h
  exact ⟨relSection, buf, _, rfl, hb, rfl, relocateAll_err h⟩

/-- Two records: an `R_RISCV_64` at offset 0 with addend `0x10`, then one of kind 99. -/
def sampleRelas : List Elf64Rela := [⟨0#64, 2#64, 0x10#64⟩, ⟨8#64, 99#64, 0#64⟩]

/-- Section 0 holds the two records; section 1, which they patch, is at `0x1000`. -/
def sampleSechdrs : List SectionHeader :=
  [⟨0#64, 0#64, 48#64, 1#32, 24#64⟩, ⟨0x1000#64, 0#64, 0#64, 0#32, 0#64⟩]

/-- One symbol, at `0x2000`. -/
def sampleLoadInfo : ModuleLoadInfo := ⟨[⟨0x2000#64⟩], ["sym"]⟩

theorem sample_second_record_fails :
    applyRelocateAdd (relasToBytes sampleRelas) sampleSechdrs sampleLoadInfo 0 (fun _ => 0) =
        .err (.relocationFailed "Invalid relocation type: 99")
          (Mem.store (fun _ => 0) 0x1000#64 0x2010#64) ∧
      ∃ relSection buf relaList, index sampleSechdrs 0 = .ok relSection ∧
        slice (relasToBytes sampleRelas) relSection.shOffset.toNat
          (relSection.shOffset + relSection.shSize).toNat = .ok buf ∧
        relaList = fromRawRela buf relSection.shSize.toNat ∧
        ∃ i, ∃ hi : i < relaList.length,
          relocateAll sampleSechdrs relSection sampleLoadInfo relaList (relaList.take i)
            (fun _ => 0) = .ok () (Mem.store (fun _ => 0) 0x1000#64 0x2010#64) ∧
          relocateRela sampleSechdrs relSection sampleLoadInfo relaList relaList[i]
            (Mem.store (fun _ => 0) 0x1000#64 0x2010#64) =
            .err (.relocationFailed "Invalid relocation type: 99")
              (Mem.store (fun _ => 0) 0x1000#64 0x2010#64) := by
  have h : applyRelocateAdd (relasToBytes sampleRelas) sampleSechdrs sampleLoadInfo 0 (fun _ => 0) =
      .err (.relocationFailed "Invalid relocation type: 99")
        (Mem.store (fun _ => 0) 0x1000#64 0x2010#64) := rfl
  exact ⟨h, applyRelocateAdd_err_prefix h⟩

end Kmod.Riscv64ArchRelocate
