import Kmod.Relocate

/-!
# Footprints: every relocation is a local patch

Each routine `apply_relocation` dispatches to reads and rewrites one 2-, 4- or 8-byte word at
the patch location (two consecutive words for `CALL` and `CALL_PLT`), and decides whether it
fails from the location and the value alone. `LocalStep f W` says this of a memory
transformer `f` and a set of addresses `W`:

- **frame**: a successful run changes no byte outside `W`;
- **agree**: two memories that agree on `W` give the same outcome, the same error, and on
  success results that agree on `W`.

`footprint` gives each kind's window, `applyRelocation_localStep` proves every routine local to
it, and `relocateRela_localStep` lifts this to one iteration of the driver loop, whose window
`relaFootprint` is read off the record alone (the partner search of a `PCREL_LO12` changes the
value it patches with, never where it patches). The commutation lemma at the bottom
(`LocalStep.bind_comm`) is what the reordering result in `Kmod.Reorder` is built from; the
frame and agreement facts of a whole run are in `Kmod.Run`.
-/

namespace Kmod

open RelocM

/-! ## Local steps -/

/-- Two outcomes of one step run from memories that agree on `W`: the same kind of outcome,
the same error, and on success results that agree on `W`. -/
def Outcome.AgreeOn (W : BitVec 64 → Prop) : Outcome Unit → Outcome Unit → Prop
  | .ok _ m₁, .ok _ m₂ => ∀ x, W x → m₁ x = m₂ x
  | .err e₁ _, .err e₂ _ => e₁ = e₂
  | .panic s₁, .panic s₂ => s₁ = s₂
  | _, _ => False

theorem Outcome.agreeOn_ok_iff {W : BitVec 64 → Prop} {m₁ : Mem} {o : Outcome Unit} :
    (Outcome.ok () m₁).AgreeOn W o ↔ ∃ m₂, o = .ok () m₂ ∧ ∀ x, W x → m₁ x = m₂ x := by
  cases o <;> simp [Outcome.AgreeOn]

theorem Outcome.AgreeOn.symm {W : BitVec 64 → Prop} {o₁ o₂ : Outcome Unit}
    (h : o₁.AgreeOn W o₂) : o₂.AgreeOn W o₁ := by
  cases o₁ <;> cases o₂ <;> simp only [Outcome.AgreeOn] at h ⊢
  all_goals first | exact fun x hx => (h x hx).symm | exact h.symm

/-- `f` reads and writes only the addresses in `W`. -/
structure LocalStep (f : RelocM Unit) (W : BitVec 64 → Prop) : Prop where
  frame : ∀ {m m'}, f m = .ok () m' → ∀ x, ¬ W x → m' x = m x
  agree : ∀ {m₁ m₂}, (∀ x, W x → m₁ x = m₂ x) → (f m₁).AgreeOn W (f m₂)

namespace LocalStep

variable {f g : RelocM Unit} {W U : BitVec 64 → Prop}

/-- Success carries over to every memory that agrees on the window. -/
theorem ok_of_agree (hf : LocalStep f W) {m₁ m₂ m₁' : Mem} (h : ∀ x, W x → m₁ x = m₂ x)
    (h₁ : f m₁ = .ok () m₁') : ∃ m₂', f m₂ = .ok () m₂' ∧ ∀ x, W x → m₁' x = m₂' x :=
  Outcome.agreeOn_ok_iff.1 (h₁ ▸ hf.agree h)

theorem mono (hf : LocalStep f W) (hW : ∀ x, W x → U x) : LocalStep f U where
  frame h x hx := hf.frame h x (mt (hW x) hx)
  agree {m₁ m₂} h := by
    have ha := hf.agree fun x hx => h x (hW x hx)
    rcases h₁ : f m₁ with ⟨⟨⟩, m₁'⟩ | ⟨e, _⟩ | s <;> rw [h₁] at ha
    · obtain ⟨m₂', h₂, hm⟩ := Outcome.agreeOn_ok_iff.1 ha
      rw [h₂]
      intro x hx
      by_cases hxW : W x
      · exact hm x hxW
      · rw [hf.frame h₁ x hxW, hf.frame h₂ x hxW, h x hx]
    all_goals revert ha; cases f m₂ <;> exact id

theorem bind (hf : LocalStep f W) (hg : LocalStep g W) : LocalStep (f >>= fun _ => g) W where
  frame {m m''} h x hx := by
    rcases h₁ : f m with ⟨⟨⟩, m'⟩ | ⟨e, _⟩ | s <;> simp only [bind_apply, h₁] at h
    · rw [hg.frame h x hx, hf.frame h₁ x hx]
    all_goals cases h
  agree {m₁ m₂} h := by
    have ha := hf.agree h
    rcases h₁ : f m₁ with ⟨⟨⟩, m₁'⟩ | ⟨e, _⟩ | s <;> rw [h₁] at ha
    · obtain ⟨m₂', h₂, hm⟩ := Outcome.agreeOn_ok_iff.1 ha
      simp only [bind_apply, h₁, h₂]
      exact hg.agree hm
    all_goals
      simp only [bind_apply, h₁]
      revert ha; cases f m₂ <;> simp [Outcome.AgreeOn]

end LocalStep

theorem localStep_fail (e : ModuleErr) (W : BitVec 64 → Prop) : LocalStep (fail e) W where
  frame h := nomatch h
  agree _ := rfl

theorem localStep_panic (s : String) (W : BitVec 64 → Prop) : LocalStep (RelocM.panic s) W where
  frame h := nomatch h
  agree _ := rfl

theorem localStep_pure (W : BitVec 64 → Prop) : LocalStep (pure ()) W where
  frame h x _ := by simp only [pure_apply, Outcome.ok.injEq, true_and] at h; rw [h]
  agree h := h

/-- Rewriting the `w`-bit word at `p` with a function of its old value. -/
theorem localStep_readWrite (p : Ptr) (w : Nat) (g : BitVec w → BitVec w) :
    LocalStep (p.read w >>= fun v => p.write (g v)) (InWindow p.addr (w / 8)) where
  frame h x hx := by
    simp only [bind_apply, Ptr.read_apply, Ptr.write_apply, Outcome.ok.injEq] at h
    rw [← h.2, Mem.store_of_not_inWindow hx]
  agree {m₁ m₂} h x hx := by
    rw [Mem.load_congr h]
    exact Mem.store_of_inWindow hx

theorem RelocM.bind_eq_ok {α β : Type} {x : RelocM α} {f : α → RelocM β} {m m' : Mem} {b : β} :
    (x >>= f) m = .ok b m' ↔ ∃ a m₁, x m = .ok a m₁ ∧ f a m₁ = .ok b m' := by
  rw [bind_apply]
  rcases x m with ⟨a, m₁⟩ | ⟨e, m₁⟩ | s <;> simp [and_assoc]

theorem RelocM.bind_assoc {α β γ : Type} (x : RelocM α) (f : α → RelocM β) (g : β → RelocM γ) :
    x >>= f >>= g = x >>= fun a => f a >>= g := by
  funext m
  simp only [bind_apply]
  cases x m <;> rfl

/-- A rewrite of the word at `p` followed by a step local to a window containing it. -/
theorem LocalStep.readWrite_bind (p : Ptr) (w : Nat) (g : BitVec w → BitVec w) {k : RelocM Unit}
    {W : BitVec 64 → Prop} (hk : LocalStep k W) (hp : ∀ x, InWindow p.addr (w / 8) x → W x) :
    LocalStep (p.read w >>= fun v => p.write (g v) >>= fun _ => k) W := by
  have h := ((localStep_readWrite p w g).mono hp).bind hk
  rwa [RelocM.bind_assoc] at h

theorem localStep_write (p : Ptr) {w : Nat} (v : BitVec w) :
    LocalStep (p.write v) (InWindow p.addr (w / 8)) :=
  localStep_readWrite p w fun _ => v

/-- Two computations that succeed from the same memories with the same results. -/
def OkEquiv (f g : RelocM Unit) : Prop := ∀ m m', f m = .ok () m' ↔ g m = .ok () m'

/-- Two local steps on disjoint windows commute. -/
theorem LocalStep.bind_comm_of_ok {f g : RelocM Unit} {W U : BitVec 64 → Prop}
    (hf : LocalStep f W) (hg : LocalStep g U) (hd : ∀ x, W x → ¬ U x) {m m' : Mem}
    (h : (f >>= fun _ => g) m = .ok () m') : (g >>= fun _ => f) m = .ok () m' := by
  rcases h₁ : f m with ⟨⟨⟩, m₁⟩ | ⟨e, _⟩ | s <;> simp only [bind_apply, h₁] at h
  · obtain ⟨m₂, h₂, hm₂⟩ := hg.ok_of_agree (fun x hx => hf.frame h₁ x fun hw => hd x hw hx) h
    obtain ⟨m₃, h₃, hm₃⟩ :=
      hf.ok_of_agree (show ∀ x, W x → m x = m₂ x from fun x hx => (hg.frame h₂ x (hd x hx)).symm) h₁
    simp only [bind_apply, h₂, h₃, Outcome.ok.injEq, true_and]
    funext x
    by_cases hW : W x
    · rw [← hm₃ x hW, hg.frame h x (hd x hW)]
    by_cases hU : U x
    · rw [hf.frame h₃ x hW, hm₂ x hU]
    · rw [hf.frame h₃ x hW, hg.frame h₂ x hU, hg.frame h x hU, hf.frame h₁ x hW]
  all_goals cases h

theorem LocalStep.bind_comm {f g : RelocM Unit} {W U : BitVec 64 → Prop}
    (hf : LocalStep f W) (hg : LocalStep g U) (hd : ∀ x, W x → ¬ U x) :
    OkEquiv (f >>= fun _ => g) (g >>= fun _ => f) := fun _ _ =>
  ⟨hf.bind_comm_of_ok hg hd, hg.bind_comm_of_ok hf fun x hu hw => hd x hw hu⟩

/-! ## The window of each kind -/

namespace Riscv64RelocationType

/-- The bytes each kind's routine patches, from the patch location on; none for the kinds
whose routine only checks, panics or does nothing. -/
def footprint : Riscv64RelocationType → Nat
  | .rRiscv32 | .rRiscvBranch | .rRiscvJal | .rRiscvPcrelHi20 | .rRiscvPcrelLo12I
  | .rRiscvPcrelLo12S | .rRiscvHi20 | .rRiscvLo12I | .rRiscvLo12S | .rRiscvAdd32
  | .rRiscvSub32 => 4
  | .rRiscv64 | .rRiscvCallPlt | .rRiscvCall | .rRiscvAdd64 | .rRiscvSub64 => 8
  | .rRiscvRvcBranch | .rRiscvRvcJump | .rRiscvAdd16 | .rRiscvSub16 => 2
  | _ => 0

theorem applyRRiscv32Rela_localStep (p : Ptr) (V : BitVec 64) :
    LocalStep (applyRRiscv32Rela p V) (InWindow p.addr 4) := by
  unfold applyRRiscv32Rela
  split
  · exact localStep_fail _ _
  · exact localStep_write p _

theorem applyRRiscvPcrelHi20Rela_localStep (p : Ptr) (V : BitVec 64) :
    LocalStep (applyRRiscvPcrelHi20Rela p V) (InWindow p.addr 4) := by
  unfold applyRRiscvPcrelHi20Rela
  dsimp only
  split
  · exact localStep_fail _ _
  · exact localStep_readWrite p 32 _

theorem applyRRiscvCallPair_localStep (name : String) (p : Ptr) (V : BitVec 64) :
    LocalStep (applyRRiscvCallPair name p V) (InWindow p.addr 8) := by
  unfold applyRRiscvCallPair
  dsimp only
  split
  · exact localStep_fail _ _
  · have hw : ∀ x, InWindow p.addr (32 / 8) x → InWindow p.addr 8 x := fun x h =>
      inWindow_mono h (by decide)
    have hw' : ∀ x, InWindow (p.add 4).addr (32 / 8) x → InWindow p.addr 8 x := fun x h =>
      (inWindow_add (n := 4) (k := 4) (by decide)).2 (.inr h)
    exact LocalStep.readWrite_bind p 32 _ ((localStep_readWrite (p.add 4) 32 _).mono hw') hw

/-- Every routine patches only its kind's window at the patch location. -/
theorem applyRelocation_localStep (k : Riscv64RelocationType) (L V : BitVec 64) :
    LocalStep (k.applyRelocation L V) (InWindow L k.footprint) := by
  cases k
  case rRiscv32 => exact applyRRiscv32Rela_localStep ⟨L⟩ V
  case rRiscvPcrelHi20 => exact applyRRiscvPcrelHi20Rela_localStep ⟨L⟩ V
  case rRiscv64 | rRiscvAdd16 | rRiscvAdd32 | rRiscvAdd64 => exact localStep_write ⟨L⟩ _
  case rRiscvBranch | rRiscvJal | rRiscvPcrelLo12I | rRiscvPcrelLo12S | rRiscvHi20 | rRiscvLo12I
    | rRiscvLo12S | rRiscvSub32 => exact localStep_readWrite ⟨L⟩ 32 _
  case rRiscvRvcBranch | rRiscvRvcJump | rRiscvSub16 => exact localStep_readWrite ⟨L⟩ 16 _
  case rRiscvSub64 => exact localStep_readWrite ⟨L⟩ 64 _
  case rRiscvCallPlt | rRiscvCall => exact applyRRiscvCallPair_localStep _ ⟨L⟩ V
  case rRiscvRelax => exact localStep_pure _
  case rRiscvAlign => exact localStep_fail _ _
  all_goals exact localStep_panic _ _

end Riscv64RelocationType

/-! ## Failures write nothing

Every check of a routine comes before its first write, so a routine that returns `Err` returns
the memory it was given. -/

namespace Riscv64RelocationType

theorem applyRRiscv32Rela_err_mem {p : Ptr} {V : BitVec 64} {m m' : Mem} {e : ModuleErr}
    (h : applyRRiscv32Rela p V m = .err e m') : m' = m := by
  unfold applyRRiscv32Rela at h
  split at h
  · cases h; rfl
  · cases h

theorem applyRRiscvPcrelHi20Rela_err_mem {p : Ptr} {V : BitVec 64} {m m' : Mem} {e : ModuleErr}
    (h : applyRRiscvPcrelHi20Rela p V m = .err e m') : m' = m := by
  unfold applyRRiscvPcrelHi20Rela at h
  dsimp only at h
  split at h
  · cases h; rfl
  · cases h

theorem applyRRiscvCallPair_err_mem {name : String} {p : Ptr} {V : BitVec 64} {m m' : Mem}
    {e : ModuleErr} (h : applyRRiscvCallPair name p V m = .err e m') : m' = m := by
  unfold applyRRiscvCallPair at h
  dsimp only at h
  split at h
  · cases h; rfl
  · cases h

theorem applyRelocation_err_mem {k : Riscv64RelocationType} {L V : BitVec 64} {m m' : Mem}
    {e : ModuleErr} (h : k.applyRelocation L V m = .err e m') : m' = m := by
  cases k
  case rRiscv32 => exact applyRRiscv32Rela_err_mem h
  case rRiscvPcrelHi20 => exact applyRRiscvPcrelHi20Rela_err_mem h
  case rRiscvCall | rRiscvCallPlt => exact applyRRiscvCallPair_err_mem h
  case rRiscvAlign => cases h; rfl
  all_goals cases h

end Riscv64RelocationType

/-! ## The window of one record -/

@[simp] theorem RelocM.fail_bind {α β : Type} (e : ModuleErr) (k : α → RelocM β) :
    (fail e >>= k) = fail e := rfl

@[simp] theorem RelocM.panic_bind {α β : Type} (s : String) (k : α → RelocM β) :
    (RelocM.panic s >>= k) = RelocM.panic s := rfl

@[simp] theorem RelocM.pure_bind {α β : Type} (a : α) (k : α → RelocM β) :
    (pure a >>= k) = k a := rfl

namespace Riscv64ArchRelocate

open Riscv64RelocationType

/-- The bytes one record patches: its kind's window at its patch location, or none when the
section table or the kind cannot be read. -/
def relaFootprint (sechdrs : List SectionHeader) (relSection : SectionHeader) (rela : Elf64Rela)
    (x : BitVec 64) : Prop :=
  match index sechdrs relSection.shInfo.toNat, tryFrom (getRelaType rela.rInfo) with
  | .ok sh, some k => InWindow (sh.shAddr + rela.rOffset) k.footprint x
  | _, _ => False

variable {sechdrs : List SectionHeader} {relSection : SectionHeader} {loadInfo : ModuleLoadInfo}

theorem relaFootprint_eq {sh : SectionHeader} (hs : index sechdrs relSection.shInfo.toNat = .ok sh)
    {r : Elf64Rela} {k : Riscv64RelocationType} (hk : tryFrom (getRelaType r.rInfo) = some k) :
    relaFootprint sechdrs relSection r = InWindow (sh.shAddr + r.rOffset) k.footprint := by
  funext x
  simp only [relaFootprint, hs, hk]

/-- One iteration of the loop patches only its record's window. -/
theorem relocateRela_localStep (R : List Elf64Rela) (rela : Elf64Rela) :
    LocalStep (relocateRela sechdrs relSection loadInfo R rela)
      (relaFootprint sechdrs relSection rela) := by
  unfold relocateRela
  rcases hp : prepareRela sechdrs relSection loadInfo R rela with (e | s) | ⟨k, L, V⟩
  · exact localStep_fail e _
  · exact localStep_panic s _
  · obtain ⟨sh, -, -, hs, -, hk, -, rfl, -⟩ := prepareRela_eq_ok.1 hp
    refine (applyRelocation_localStep k _ V).mono fun x hx => ?_
    simpa only [relaFootprint, hs, hk] using hx

/-- One iteration that returns `Err` returns the memory it was given. -/
theorem relocateRela_err_mem {R : List Elf64Rela} {rela : Elf64Rela} {m m' : Mem} {e : ModuleErr}
    (h : relocateRela sechdrs relSection loadInfo R rela m = .err e m') : m' = m := by
  unfold relocateRela at h
  rcases hp : prepareRela sechdrs relSection loadInfo R rela with (e | s) | ⟨k, L, V⟩ <;>
    rw [hp] at h
  · cases h; rfl
  · cases h
  · exact applyRelocation_err_mem h

end Riscv64ArchRelocate

end Kmod
