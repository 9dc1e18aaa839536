import Kmod.Overflow

/-!
# Where the debug build panics

`Kmod.Overflow` gives, for each routine, the inputs on which its checked arithmetic fires
(`overflows`). This file does the same for the driver, whose own checks are `sh_offset +
sh_size`, `sh_addr + r_offset`, `st_value + r_addend`, the residue of a `PCREL_LO12`, and the
assertion on `sh_entsize`. Each layer of the debug driver gets a predicate that follows the
release computation and names the first check that fails (`findHi20Overflows`,
`prepareOverflows`, `relaOverflows`, `relocateAllOverflows`, `callOverflows`), and a lemma that
the debug layer panics with a check's message where its predicate holds and is the release
layer where it does not (`*_exact`). The lemmas compose through `bind` one checked operator at a
time (`ExceptExact.uAdd_bind`, `sAdd_bind`, `sSub_bind`).

`debug_build_agrees_unless_panic` states both levels; refinement of the release build by the
debug build follows (`applyRelocateAddDebug_refines`). `sub16_underflow` runs one overflowing
input through both builds.
-/

namespace Kmod

open RelocM

/-! ## Overflow of one checked operator -/

/-- `a + b` does not fit `u{w}`: the check of `uAdd` fails. -/
def uAddOverflows {w : Nat} (a b : BitVec w) : Bool := !decide (a.toNat + b.toNat < 2 ^ w)

/-- `a + b` does not fit `i{w}`: the check of `sAdd` fails. -/
def sAddOverflows {w : Nat} (a b : BitVec w) : Bool := !decide (InSigned w (a.toInt + b.toInt))

/-- `a - b` does not fit `i{w}`: the check of `sSub` fails. -/
def sSubOverflows {w : Nat} (a b : BitVec w) : Bool := !decide (InSigned w (a.toInt - b.toInt))

/-- The checked computation `d` panics on a check where `p` holds, and is `r` where it does
not. -/
def ExceptExact {α : Type} (p : Bool) (d r : Except Fault α) : Prop :=
  (p = true → ∃ s, DebugPanic s ∧ d = .error (.panic s)) ∧ (p = false → d = r)

namespace ExceptExact

variable {α β : Type} {p p₁ p₂ : Bool} {k k' : α → Except Fault β} {r : Except Fault β}

theorem error_bind (f : Fault) : ExceptExact false (.error f >>= k) (.error f >>= k') :=
  ⟨nofun, fun _ => rfl⟩

theorem ok_bind {a : α} (h : ExceptExact p (k a) (k' a)) :
    ExceptExact p (.ok a >>= k) (.ok a >>= k') := h

theorem of_check {c : Prop} [Decidable c] {a : α} {s : String} (hs : DebugPanic s)
    (h : ExceptExact p (k a) r) :
    ExceptExact (!decide c || p) ((if c then pure a else throw (.panic s)) >>= k) r := by
  by_cases hc : c
  · simpa only [if_pos hc, decide_eq_true hc, Bool.not_true, Bool.false_or] using h
  · exact ⟨fun _ => ⟨s, hs, by rw [if_neg hc]; rfl⟩, by simp [hc]⟩

theorem uAdd_bind {w : Nat} {a b : BitVec w} {k : BitVec w → Except Fault β}
    (h : ExceptExact p (k (a + b)) r) : ExceptExact (uAddOverflows a b || p) (uAdd a b >>= k) r :=
  of_check (.inl rfl) h

theorem sAdd_bind {w : Nat} {a b : BitVec w} {k : BitVec w → Except Fault β}
    (h : ExceptExact p (k (a + b)) r) : ExceptExact (sAddOverflows a b || p) (sAdd a b >>= k) r :=
  of_check (.inl rfl) h

theorem sSub_bind {w : Nat} {a b : BitVec w} {k : BitVec w → Except Fault β}
    (h : ExceptExact p (k (a - b)) r) : ExceptExact (sSubOverflows a b || p) (sSub a b >>= k) r :=
  of_check (.inr (.inl rfl)) h

theorem sSub_pure {w : Nat} {a b : BitVec w} {k : BitVec w → Except Fault β} :
    ExceptExact (sSubOverflows a b) (sSub a b >>= k) (k (a - b)) := by
  simpa only [Bool.or_false] using
    (sSub_bind (p := false) (k := k) (a := a) (b := b) ⟨nofun, fun _ => rfl⟩)

theorem ite {c : Prop} [Decidable c] {d₁ d₂ r₁ r₂ : Except Fault α}
    (h₁ : ExceptExact p₁ d₁ r₁) (h₂ : ExceptExact p₂ d₂ r₂) :
    ExceptExact (if c then p₁ else p₂) (if c then d₁ else d₂) (if c then r₁ else r₂) := by
  split
  · exact h₁
  · exact h₂

theorem bind_left {d r : Except Fault α} (h : ExceptExact p d r) (k : α → Except Fault β) :
    ExceptExact p (d >>= k) (r >>= k) := by
  refine ⟨fun hp => ?_, fun hp => by rw [h.2 hp]⟩
  obtain ⟨s, hs, hd⟩ := h.1 hp
  exact ⟨s, hs, by rw [hd]; rfl⟩

end ExceptExact

/-- The debug run `d` panics on a check where `p` holds, and is the release run `r` where it
does not. -/
def OutcomeExact {α : Type} (p : Bool) (d r : Outcome α) : Prop :=
  (p = true → ∃ s, DebugPanic s ∧ d = .panic s) ∧ (p = false → d = r)

/-! ## Where the driver's checks fire -/

namespace Riscv64ArchRelocate

open Riscv64RelocationType

section Driver

variable (sechdrs : List SectionHeader) (relSection : SectionHeader) (loadInfo : ModuleLoadInfo)
  (relaList : List Elf64Rela)

/-- The partner search overflows: at the first record it reaches, `sh_addr + r_offset`, or,
for a partner candidate, `st_value + r_addend`, the offset to the candidate, or the split of
that offset. -/
def findHi20Overflows (stValue : BitVec 64) : List Elf64Rela → Bool
  | [] => false
  | innerRela :: rest =>
    match index sechdrs relSection.shInfo.toNat with
    | .error _ => false
    | .ok sh =>
      uAddOverflows sh.shAddr innerRela.rOffset ||
      match decodeRelocType (getRelaType innerRela.rInfo) with
      | .error _ => false
      | .ok hi20Type =>
        let hi20Loc := sh.shAddr + innerRela.rOffset
        if hi20Loc = stValue ∧ (hi20Type = .rRiscvPcrelHi20 ∨ hi20Type = .rRiscvGotHi20) then
          match index loadInfo.syms (getRelaSymIdx innerRela.rInfo) with
          | .error _ => false
          | .ok hi20Sym =>
            let hi20SymVal := hi20Sym.stValue + innerRela.rAddend
            let offset := hi20SymVal - hi20Loc
            sAddOverflows hi20Sym.stValue innerRela.rAddend ||
              (sSubOverflows hi20SymVal hi20Loc ||
                if hi20Type = .rRiscvGotHi20 then false
                else sAddOverflows offset 0x800#64 ||
                  sSubOverflows offset ((offset + 0x800#64) &&& 0xfffff000#64))
        else findHi20Overflows stValue rest

theorem findHi20Debug_exact (stValue : BitVec 64) : ∀ R,
    ExceptExact (findHi20Overflows sechdrs relSection loadInfo stValue R)
      (findHi20Debug sechdrs relSection loadInfo stValue R)
      (findHi20 sechdrs relSection loadInfo stValue R)
  | [] => ⟨nofun, fun _ => rfl⟩
  | r :: R => by
    unfold findHi20Overflows findHi20Debug findHi20
    rcases index sechdrs relSection.shInfo.toNat with f | sh
    · exact .error_bind f
    refine .ok_bind (.uAdd_bind ?_)
    rcases decodeRelocType (getRelaType r.rInfo) with f | t
    · exact .error_bind f
    refine .ok_bind (.ite ?_ (findHi20Debug_exact stValue R))
    rcases index loadInfo.syms (getRelaSymIdx r.rInfo) with f | sym
    · exact .error_bind f
    exact .ok_bind
      (.sAdd_bind (.sSub_bind (.ite ⟨nofun, fun _ => rfl⟩ (.sAdd_bind .sSub_pure))))

/-- The loop body up to `apply_relocation` overflows: `sh_addr + r_offset`,
`st_value + r_addend`, or, for a `PCREL_LO12`, the partner search. -/
def prepareOverflows (rela : Elf64Rela) : Bool :=
  match index sechdrs relSection.shInfo.toNat with
  | .error _ => false
  | .ok sh =>
    uAddOverflows sh.shAddr rela.rOffset ||
    match index loadInfo.syms (getRelaSymIdx rela.rInfo) with
    | .error _ => false
    | .ok sym =>
      match decodeRelocType (getRelaType rela.rInfo) with
      | .error _ => false
      | .ok relocType =>
        match index loadInfo.symbolNames (getRelaSymIdx rela.rInfo) with
        | .error _ => false
        | .ok _ =>
          sAddOverflows sym.stValue rela.rAddend ||
          if relocType = .rRiscvPcrelLo12I ∨ relocType = .rRiscvPcrelLo12S then
            findHi20Overflows sechdrs relSection loadInfo sym.stValue relaList
          else false

theorem prepareRelaDebug_exact (rela : Elf64Rela) :
    ExceptExact (prepareOverflows sechdrs relSection loadInfo relaList rela)
      (prepareRelaDebug sechdrs relSection loadInfo relaList rela)
      (prepareRela sechdrs relSection loadInfo relaList rela) := by
  unfold prepareOverflows prepareRelaDebug prepareRela
  rcases index sechdrs relSection.shInfo.toNat with f | sh
  · exact .error_bind f
  refine .ok_bind (.uAdd_bind ?_)
  rcases index loadInfo.syms (getRelaSymIdx rela.rInfo) with f | sym
  · exact .error_bind f
  rcases decodeRelocType (getRelaType rela.rInfo) with f | k
  · exact .ok_bind (.error_bind f)
  rcases index loadInfo.symbolNames (getRelaSymIdx rela.rInfo) with f | _
  · exact .ok_bind (.ok_bind (.error_bind f))
  exact .ok_bind (.ok_bind (.ok_bind (.sAdd_bind
    (.ite ((findHi20Debug_exact _ _ _ _ _).bind_left _) ⟨nofun, fun _ => rfl⟩))))

/-- One iteration overflows: in the loop body, or in the routine it calls. -/
def relaOverflows (rela : Elf64Rela) (m : Mem) : Bool :=
  prepareOverflows sechdrs relSection loadInfo relaList rela ||
  match prepareRela sechdrs relSection loadInfo relaList rela with
  | .error _ => false
  | .ok (relocType, location, targetAddr) => decide (relocType.overflows location targetAddr m)

theorem relocateRelaDebug_exact (rela : Elf64Rela) (m : Mem) :
    OutcomeExact (relaOverflows sechdrs relSection loadInfo relaList rela m)
      (relocateRelaDebug sechdrs relSection loadInfo relaList rela m)
      (relocateRela sechdrs relSection loadInfo relaList rela m) := by
  have hp := prepareRelaDebug_exact sechdrs relSection loadInfo relaList rela
  unfold relaOverflows relocateRelaDebug relocateRela
  cases ho : prepareOverflows sechdrs relSection loadInfo relaList rela
  · rw [hp.2 ho]
    rcases prepareRela sechdrs relSection loadInfo relaList rela with (e | s) | ⟨k, L, V⟩
    · exact ⟨nofun, fun _ => rfl⟩
    · exact ⟨nofun, fun _ => rfl⟩
    · exact ⟨fun h => applyRelocationDebug_of_overflows (of_decide_eq_true h),
        fun h => applyRelocationDebug_of_not_overflows (of_decide_eq_false h)⟩
  · obtain ⟨s, hs, hd⟩ := hp.1 ho
    exact ⟨fun _ => ⟨s, hs, by rw [hd]; rfl⟩, nofun⟩

/-- The loop overflows: at the first iteration that does, reached by a release run that ends
each iteration before it normally. -/
def relocateAllOverflows : List Elf64Rela → Mem → Bool
  | [], _ => false
  | rela :: todo, m =>
    relaOverflows sechdrs relSection loadInfo relaList rela m ||
    match relocateRela sechdrs relSection loadInfo relaList rela m with
    | .ok _ m₁ => relocateAllOverflows todo m₁
    | .err _ _ => false
    | .panic _ => false

theorem relocateAllDebug_exact : ∀ todo m,
    OutcomeExact (relocateAllOverflows sechdrs relSection loadInfo relaList todo m)
      (relocateAllDebug sechdrs relSection loadInfo relaList todo m)
      (relocateAll sechdrs relSection loadInfo relaList todo m)
  | [], _ => ⟨nofun, fun _ => rfl⟩
  | rela :: todo, m => by
    have h := relocateRelaDebug_exact sechdrs relSection loadInfo relaList rela m
    rw [relocateAll_cons, bind_apply]
    unfold relocateAllOverflows relocateAllDebug
    rw [bind_apply]
    cases ho : relaOverflows sechdrs relSection loadInfo relaList rela m
    · rw [h.2 ho]
      rcases relocateRela sechdrs relSection loadInfo relaList rela m with
        ⟨⟨⟩, m₁⟩ | ⟨e, m₁⟩ | s
      · exact relocateAllDebug_exact todo m₁
      all_goals exact ⟨nofun, fun _ => rfl⟩
    · obtain ⟨s, hs, hd⟩ := h.1 ho
      exact ⟨fun _ => ⟨s, hs, by rw [hd]⟩, nofun⟩

end Driver

/-- `apply_relocate_add` built with overflow checks and debug assertions panics on them: the
assertion that `sh_entsize` is 24, `sh_offset + sh_size`, and the loop's overflows. -/
def callOverflows (elfData : List (BitVec 8)) (sechdrs : List SectionHeader)
    (loadInfo : ModuleLoadInfo) (relsec : Nat) (m : Mem) : Bool :=
  match index sechdrs relsec with
  | .error _ => false
  | .ok relSection =>
    decide (relSection.shEntsize ≠ 24#64) ||
    uAddOverflows relSection.shOffset relSection.shSize ||
    match slice elfData relSection.shOffset.toNat
        (relSection.shOffset + relSection.shSize).toNat with
    | .error _ => false
    | .ok dataBuf =>
      let relaList := fromRawRela dataBuf relSection.shSize.toNat
      relocateAllOverflows sechdrs relSection loadInfo relaList relaList m

theorem applyRelocateAddDebug_exact (elfData : List (BitVec 8)) (sechdrs : List SectionHeader)
    (loadInfo : ModuleLoadInfo) (relsec : Nat) (m : Mem) :
    OutcomeExact (callOverflows elfData sechdrs loadInfo relsec m)
      (applyRelocateAddDebug elfData sechdrs loadInfo relsec m)
      (applyRelocateAdd elfData sechdrs loadInfo relsec m) := by
  unfold callOverflows applyRelocateAddDebug applyRelocateAdd
  rcases index sechdrs relsec with (e | s) | relSection
  · exact ⟨nofun, fun _ => rfl⟩
  · exact ⟨nofun, fun _ => rfl⟩
  simp only [lift_ok, RelocM.pure_bind]
  by_cases he : relSection.shEntsize ≠ 24#64
  · rw [if_pos he]
    exact ⟨fun _ => ⟨_, .inr (.inr rfl), rfl⟩, by simp [he]⟩
  rw [if_neg he, decide_eq_false he, Bool.false_or]
  unfold uAdd uAddOverflows
  by_cases ho : relSection.shOffset.toNat + relSection.shSize.toNat < 2 ^ 64
  · simp only [if_pos ho, decide_eq_true ho, Bool.not_true, Bool.false_or, RelocM.lift_pure,
      RelocM.pure_bind]
    rcases slice elfData relSection.shOffset.toNat
      (relSection.shOffset + relSection.shSize).toNat with (e | s) | dataBuf
    · exact ⟨nofun, fun _ => rfl⟩
    · exact ⟨nofun, fun _ => rfl⟩
    · exact relocateAllDebug_exact _ _ _ _ _ m
  · simp only [if_neg ho, decide_eq_false ho, Bool.not_false, Bool.true_or]
    exact ⟨fun _ => ⟨_, .inl rfl, rfl⟩, nofun⟩

/-- A `SUB16` of the symbol at `0x2000` from a zero word, then a `RELAX`. -/
def subRelas : List Elf64Rela := [⟨0#64, 38#64, 0#64⟩, ⟨0#64, 51#64, 0#64⟩]

example : callOverflows (relasToBytes subRelas) sampleSechdrs sampleLoadInfo 0 (fun _ => 0) =
    true := by decide

/-- The debug build `d` does what the release build `r` does, or panics on a check. -/
def DebugRefines {α : Type} (d r : RelocM α) : Prop :=
  ∀ m, d m = r m ∨ ∃ s, DebugPanic s ∧ d m = .panic s

theorem applyRelocateAddDebug_refines (elfData : List (BitVec 8)) (sechdrs : List SectionHeader)
    (loadInfo : ModuleLoadInfo) (relsec : Nat) :
    DebugRefines (applyRelocateAddDebug elfData sechdrs loadInfo relsec)
      (applyRelocateAdd elfData sechdrs loadInfo relsec) := fun m => by
  have h := applyRelocateAddDebug_exact elfData sechdrs loadInfo relsec m
  cases ho : callOverflows elfData sechdrs loadInfo relsec m
  · exact .inl (h.2 ho)
  · exact .inr (h.1 ho)

/-- Built with overflow checks, `apply_relocate_add` panics with a check's message exactly on
the inputs `callOverflows` names and otherwise returns what the release build returns, memory
included; and a routine panics on its checks exactly where `overflows` holds. -/
theorem debug_build_agrees_unless_panic :
    (∀ elfData sechdrs loadInfo relsec m,
      (callOverflows elfData sechdrs loadInfo relsec m = true → ∃ s, DebugPanic s ∧
        applyRelocateAddDebug elfData sechdrs loadInfo relsec m = .panic s) ∧
      (callOverflows elfData sechdrs loadInfo relsec m = false →
        applyRelocateAddDebug elfData sechdrs loadInfo relsec m =
          applyRelocateAdd elfData sechdrs loadInfo relsec m)) ∧
    ∀ (k : Riscv64RelocationType) L V m,
      (k.overflows L V m → ∃ s, DebugPanic s ∧ k.applyRelocationDebug L V m = .panic s) ∧
      (¬ k.overflows L V m → k.applyRelocationDebug L V m = k.applyRelocation L V m) :=
  ⟨applyRelocateAddDebug_exact,
    fun _ _ _ _ => ⟨applyRelocationDebug_of_overflows, applyRelocationDebug_of_not_overflows⟩⟩

/-- The word `0` minus `0x2000`: the release build wraps to `0xe000`, the debug build
panics. -/
theorem sub16_underflow :
    applyRelocateAdd (relasToBytes subRelas) sampleSechdrs sampleLoadInfo 0 (fun _ => 0) =
        .ok () (Mem.store (fun _ => 0) 0x1000#64 0xe000#16) ∧
      applyRelocateAddDebug (relasToBytes subRelas) sampleSechdrs sampleLoadInfo 0 (fun _ => 0) =
        .panic "attempt to subtract with overflow" :=
  ⟨rfl, rfl⟩

end Riscv64ArchRelocate

end Kmod
