import Kmod.Footprint

/-!
# Every routine but `SUB` is a masked overwrite

Each routine of `apply_relocation` reads at most the words it patches and writes back
`(original & mask) | bits`, with the mask and the bits computed from the location and the value
alone: an instruction splice keeps the bits outside its immediate field, `R_RISCV_32`, `64` and
the `ADD` kinds write a whole word, `RELAX` writes nothing. The checks that fail look at the
location and the value alone too. Read byte by byte, such a routine keeps at every address `x`
the bits of a mask `M x` and sets those of `F x` (`Mem.mask`), and it ends the same way from
every memory: it is a `MaskedOverwrite`. The class is closed under sequencing
(`MaskedOverwrite.bind`), so whole runs stay in it, and a masked overwrite run a second time on
the memory it left changes nothing (`MaskedOverwrite.rerun`).

`SUB16/32/64` are the exception: they write `value - address`, a function of the word they read.
Every routine, `SUB` included, still ends the same way from every memory
(`applyRelocation_memBlind`): whether a routine fails, and with which error, depends on the
location and the value, never on module memory.
-/

namespace Kmod

open RelocM

/-! ## Byte masks -/

/-- Byte `k` of a little-endian word: what `Ptr::write` stores at `p + k`. -/
def byteOf {w : Nat} (v : BitVec w) (k : Nat) : BitVec 8 := BitVec.ofNat 8 (v.toNat / 256 ^ k)

/-- The memory `m` with, at every address `x`, the bits of `M x` kept and those of `F x` set. -/
def Mem.mask (m M F : Mem) : Mem := fun x => m x &&& M x ||| F x

/-- The byte mask of a word mask `M` at `p`: byte `x - p` of `M` inside the word's window,
every bit outside it. -/
def keepOf (p : BitVec 64) {w : Nat} (M : BitVec w) : Mem := fun x =>
  if InWindow p (w / 8) x then byteOf M (x - p).toNat else BitVec.allOnes 8

/-- The bytes a word `F` at `p` sets: byte `x - p` of `F` inside the word's window, none
outside it. -/
def setOf (p : BitVec 64) {w : Nat} (F : BitVec w) : Mem := fun x =>
  if InWindow p (w / 8) x then byteOf F (x - p).toNat else 0#8

/-- Two masked overwrites in a row are one. -/
theorem Mem.mask_mask (m M₁ F₁ M₂ F₂ : Mem) :
    (m.mask M₁ F₁).mask M₂ F₂ = m.mask (fun x => M₁ x &&& M₂ x) (fun x => F₁ x &&& M₂ x ||| F₂ x) := by
  funext x
  ext i
  simp only [Mem.mask, BitVec.getLsbD_and, BitVec.getLsbD_or]
  cases (m x).getLsbD i <;> cases (M₁ x).getLsbD i <;> cases (M₂ x).getLsbD i <;> simp

/-- A masked overwrite run on its own result changes nothing. -/
theorem Mem.mask_mask_self (m M F : Mem) : (m.mask M F).mask M F = m.mask M F := by
  funext x
  ext i
  simp only [Mem.mask, BitVec.getLsbD_and, BitVec.getLsbD_or]
  cases (m x).getLsbD i <;> cases (M x).getLsbD i <;> cases (F x).getLsbD i <;> rfl

@[simp] theorem Mem.mask_allOnes (m : Mem) : m.mask (fun _ => BitVec.allOnes 8) (fun _ => 0#8) = m := by
  funext x
  simp only [Mem.mask, BitVec.and_allOnes, BitVec.or_zero]

/-- Rewriting a `w`-bit word with `(word & M) | F` is the byte mask of `M` and `F` at its
address. -/
theorem Mem.store_load_and_or {w : Nat} (m : Mem) (p : BitVec 64) (M F : BitVec w)
    (hw : w % 8 = 0) (hw' : w ≤ 64) :
    m.store p (m.load p w &&& M ||| F) = m.mask (keepOf p M) (setOf p F) := by
  funext x
  simp only [Mem.mask, keepOf, setOf]
  split
  · next hx =>
    have hk : (x - p).toNat < w / 8 := hx
    rw [Mem.store, writeLE_apply (by omega) hx]
    ext i
    have hi := i.isLt
    simp only [byteOf, BitVec.getLsbD_or, BitVec.getLsbD_and, BitVec.getLsbD_ofNat,
      BitVec.toNat_or, BitVec.toNat_and, Mem.load, BitVec.toNat_ofNat,
      show (256 : Nat) = 2 ^ 8 from rfl, ← pow_mul, ← Nat.shiftRight_eq_div_pow,
      Nat.testBit_shiftRight, Nat.testBit_or, Nat.testBit_and, Nat.testBit_mod_two_pow, hi,
      decide_True, Bool.true_and]
    rw [testBit_readLE m p hk hi, BitVec.ofNat_toNat, BitVec.setWidth_eq,
      show p + (x - p) = x by bv_omega, decide_eq_true (by omega), Bool.true_and]
  · next hx => rw [Mem.store_of_not_inWindow hx, BitVec.and_allOnes, BitVec.or_zero]

/-! ## Outcomes without their memory -/

/-- What a run returns to its caller, its memory aside: `Ok(())`, `Err(e)` or a panic. -/
def Outcome.result : Outcome Unit → Except Fault Unit
  | .ok _ _ => .ok ()
  | .err e _ => .error (.err e)
  | .panic s => .error (.panic s)

/-- The outcome that returns `r` and leaves the memory `m`. -/
def Outcome.ofResult : Except Fault Unit → Mem → Outcome Unit
  | .ok (), m => .ok () m
  | .error (.err e), m => .err e m
  | .error (.panic s), _ => .panic s

@[simp] theorem Outcome.result_ofResult (r : Except Fault Unit) (m : Mem) :
    (Outcome.ofResult r m).result = r := by
  rcases r with (e | s) | ⟨⟩ <;> rfl

/-- An outcome that carries a memory carries the one it was built with. -/
theorem Outcome.ofResult_mem {r : Except Fault Unit} {m m' : Mem} {e : ModuleErr}
    (h : Outcome.ofResult r m = .ok () m' ∨ Outcome.ofResult r m = .err e m') : m' = m := by
  rcases r with (e' | s) | ⟨⟩ <;> rcases h with h | h <;> cases h <;> rfl

/-! ## Computations whose end does not depend on memory -/

/-- `f` ends the same way, with the same error or panic, from every memory. -/
def MemBlind (f : RelocM Unit) : Prop := ∀ m₁ m₂, (f m₁).result = (f m₂).result

namespace MemBlind

variable {f g : RelocM Unit}

theorem bind (hf : MemBlind f) (hg : MemBlind g) : MemBlind (f >>= fun _ => g) := by
  intro m₁ m₂
  have h := hf m₁ m₂
  simp only [bind_apply]
  revert h
  rcases f m₁ with ⟨⟨⟩, m₁'⟩ | ⟨e, _⟩ | s <;> rcases f m₂ with ⟨⟨⟩, m₂'⟩ | ⟨e', _⟩ | s' <;>
    intro h <;> first | exact hg _ _ | exact h | cases h

/-- Success from one memory is success from every memory. -/
theorem ok_of_ok (hf : MemBlind f) {m m' : Mem} (h : f m = .ok () m') (m₀ : Mem) :
    ∃ m₀', f m₀ = .ok () m₀' := by
  have h₀ := hf m₀ m
  rw [h] at h₀
  revert h₀
  rcases f m₀ with ⟨⟨⟩, m₀'⟩ | ⟨e, _⟩ | s <;> intro h₀ <;> first | exact ⟨m₀', rfl⟩ | cases h₀

/-- A rewrite of one word with any function of its old value always returns `Ok`. -/
theorem rewrite (p : Ptr) (w : Nat) (g : BitVec w → BitVec w) :
    MemBlind (p.read w >>= fun v => p.write (g v)) := fun _ _ => rfl

end MemBlind

/-- `f` ends the same way from every memory, and leaves it with the bits of `M x` kept and those
of `F x` set at every address `x`, for a result `r` and byte masks `M` and `F` of its own. -/
def MaskedOverwrite (f : RelocM Unit) : Prop :=
  ∃ r M F, ∀ m, f m = Outcome.ofResult r (m.mask M F)

namespace MaskedOverwrite

variable {f g : RelocM Unit}

theorem pure : MaskedOverwrite (pure ()) :=
  ⟨.ok (), fun _ => BitVec.allOnes 8, fun _ => 0#8, fun m => by rw [Mem.mask_allOnes]; rfl⟩

theorem fail (e : ModuleErr) : MaskedOverwrite (fail e) :=
  ⟨.error (.err e), fun _ => BitVec.allOnes 8, fun _ => 0#8, fun m => by
    rw [Mem.mask_allOnes]; rfl⟩

theorem panic (s : String) : MaskedOverwrite (RelocM.panic s) :=
  ⟨.error (.panic s), fun _ => BitVec.allOnes 8, fun _ => 0#8, fun _ => rfl⟩

/-- Rewriting a word with `(word & M) | F`. -/
theorem rewrite {w : Nat} (p : Ptr) (g : BitVec w → BitVec w) (M F : BitVec w)
    (hg : ∀ v, g v = v &&& M ||| F) (hw : w % 8 = 0 := by decide) (hw' : w ≤ 64 := by decide) :
    MaskedOverwrite (p.read w >>= fun v => p.write (g v)) :=
  ⟨.ok (), keepOf p.addr M, setOf p.addr F, fun m => by
    show Outcome.ok () (m.store p.addr (g (m.load p.addr w))) = _
    rw [hg, Mem.store_load_and_or m _ M F hw hw']
    rfl⟩

/-- Writing a whole word: the rewrite with the empty mask. -/
theorem write {w : Nat} (p : Ptr) (v : BitVec w) (hw : w % 8 = 0 := by decide)
    (hw' : w ≤ 64 := by decide) : MaskedOverwrite (p.write v) :=
  rewrite p (fun _ => v) 0#w v (fun _ => by rw [BitVec.and_zero, BitVec.zero_or]) hw hw'

theorem bind (hf : MaskedOverwrite f) (hg : MaskedOverwrite g) :
    MaskedOverwrite (f >>= fun _ => g) := by
  obtain ⟨r₁, M₁, F₁, h₁⟩ := hf
  obtain ⟨r₂, M₂, F₂, h₂⟩ := hg
  rcases r₁ with (e | s) | ⟨⟩
  · exact ⟨.error (.err e), M₁, F₁, fun m => by rw [bind_apply, h₁]; rfl⟩
  · exact ⟨.error (.panic s), M₁, F₁, fun m => by rw [bind_apply, h₁]; rfl⟩
  · exact ⟨r₂, _, _, fun m => by rw [bind_apply, h₁]; exact (h₂ _).trans (by rw [Mem.mask_mask])⟩

/-- A rewrite of the word at `p` followed by a masked overwrite. -/
theorem rewrite_bind {w : Nat} (p : Ptr) (g : BitVec w → BitVec w) (M F : BitVec w)
    (hg : ∀ v, g v = v &&& M ||| F) (hk : MaskedOverwrite f) (hw : w % 8 = 0 := by decide)
    (hw' : w ≤ 64 := by decide) :
    MaskedOverwrite (p.read w >>= fun v => p.write (g v) >>= fun _ => f) := by
  have h := (rewrite p g M F hg hw hw').bind hk
  rwa [RelocM.bind_assoc] at h

/-- A masked overwrite ends the same way from every memory. -/
theorem memBlind (hf : MaskedOverwrite f) : MemBlind f := by
  obtain ⟨r, M, F, h⟩ := hf
  intro m₁ m₂
  rw [h, h, Outcome.result_ofResult, Outcome.result_ofResult]

/-- Run again on the memory it left (after `Ok` or `Err`), a masked overwrite ends the same way
and leaves the same memory. -/
theorem rerun (hf : MaskedOverwrite f) {m m' : Mem} {e : ModuleErr}
    (h : f m = .ok () m' ∨ f m = .err e m') : f m' = f m := by
  obtain ⟨r, M, F, hr⟩ := hf
  rw [hr m] at h
  rw [Outcome.ofResult_mem h, hr, hr, Mem.mask_mask_self]

end MaskedOverwrite

/-! ## The instruction splices as masks -/

section Splices

variable (w : BitVec 32) (c : BitVec 16) (o : BitVec 64) (imm : BitVec 32)

theorem spliceBranch_eq : spliceBranch w o = w &&& 0x1fff07f#32 ||| spliceBranch 0#32 o := by
  simp only [spliceBranch, BitVec.zero_and, BitVec.zero_or, BitVec.or_assoc]

theorem spliceJal_eq : spliceJal w o = w &&& 0xFFF#32 ||| spliceJal 0#32 o := by
  simp only [spliceJal, BitVec.zero_and, BitVec.zero_or, BitVec.or_assoc]

theorem spliceRvcBranch_eq : spliceRvcBranch c o = c &&& 0xe383#16 ||| spliceRvcBranch 0#16 o := by
  simp only [spliceRvcBranch, BitVec.zero_and, BitVec.zero_or, BitVec.or_assoc]

theorem spliceRvcJump_eq : spliceRvcJump c o = c &&& 0xe003#16 ||| spliceRvcJump 0#16 o := by
  simp only [spliceRvcJump, BitVec.zero_and, BitVec.zero_or, BitVec.or_assoc]

theorem spliceHi20_eq : spliceHi20 w o = w &&& 0xfff#32 ||| spliceHi20 0#32 o := by
  simp only [spliceHi20, BitVec.zero_and, BitVec.zero_or]

theorem spliceLo12I_eq : spliceLo12I w imm = w &&& 0xfffff#32 ||| spliceLo12I 0#32 imm := by
  simp only [spliceLo12I, BitVec.zero_and, BitVec.zero_or]

theorem spliceLo12S_eq : spliceLo12S w imm = w &&& 0x1fff07f#32 ||| spliceLo12S 0#32 imm := by
  simp only [spliceLo12S, BitVec.zero_and, BitVec.zero_or, BitVec.or_assoc]

end Splices

/-! ## The routines -/

namespace Riscv64RelocationType

/-- The kinds whose routine writes a function of the word it reads. -/
def subKinds : List Riscv64RelocationType := [.rRiscvSub16, .rRiscvSub32, .rRiscvSub64]

/-- Every routine but the `SUB` ones is a masked overwrite. -/
theorem applyRelocation_maskedOverwrite {k : Riscv64RelocationType} (hk : k ∉ subKinds)
    (L V : BitVec 64) : MaskedOverwrite (k.applyRelocation L V) := by
  cases k
  case rRiscv32 =>
    show MaskedOverwrite (applyRRiscv32Rela ⟨L⟩ V)
    unfold applyRRiscv32Rela
    split
    · exact .fail _
    · exact .write _ _
  case rRiscvPcrelHi20 =>
    show MaskedOverwrite (applyRRiscvPcrelHi20Rela ⟨L⟩ V)
    unfold applyRRiscvPcrelHi20Rela
    dsimp only
    split
    · exact .fail _
    · exact .rewrite ⟨L⟩ _ _ _ fun v => spliceHi20_eq v _
  case rRiscvCallPlt | rRiscvCall =>
    show MaskedOverwrite (applyRRiscvCallPair _ ⟨L⟩ V)
    unfold applyRRiscvCallPair
    dsimp only
    split
    · exact .fail _
    · exact .rewrite_bind ⟨L⟩ _ _ _ (fun v => spliceHi20_eq v _)
        (.rewrite _ _ _ _ fun v => spliceLo12I_eq v _)
  case rRiscv64 | rRiscvAdd64 => exact .write ⟨L⟩ _
  case rRiscvAdd16 => exact .write ⟨L⟩ (V.setWidth 16)
  case rRiscvAdd32 => exact .write ⟨L⟩ (V.setWidth 32)
  case rRiscvBranch => exact .rewrite ⟨L⟩ _ _ _ fun v => spliceBranch_eq v _
  case rRiscvJal => exact .rewrite ⟨L⟩ _ _ _ fun v => spliceJal_eq v _
  case rRiscvRvcBranch => exact .rewrite ⟨L⟩ _ _ _ fun v => spliceRvcBranch_eq v _
  case rRiscvRvcJump => exact .rewrite ⟨L⟩ _ _ _ fun v => spliceRvcJump_eq v _
  case rRiscvHi20 => exact .rewrite ⟨L⟩ _ _ _ fun v => spliceHi20_eq v _
  case rRiscvPcrelLo12I | rRiscvLo12I => exact .rewrite ⟨L⟩ _ _ _ fun v => spliceLo12I_eq v _
  case rRiscvPcrelLo12S | rRiscvLo12S => exact .rewrite ⟨L⟩ _ _ _ fun v => spliceLo12S_eq v _
  case rRiscvRelax => exact .pure
  case rRiscvAlign => exact .fail _
  case rRiscvSub16 | rRiscvSub32 | rRiscvSub64 => exact absurd (by decide) hk
  all_goals exact .panic _

/-- Every routine ends the same way from every memory. -/
theorem applyRelocation_memBlind (k : Riscv64RelocationType) (L V : BitVec 64) :
    MemBlind (k.applyRelocation L V) := by
  by_cases hk : k ∈ subKinds
  · simp only [subKinds, List.mem_cons, List.mem_singleton, List.not_mem_nil, or_false] at hk
    rcases hk with rfl | rfl | rfl <;> exact MemBlind.rewrite ⟨L⟩ _ _
  · exact (applyRelocation_maskedOverwrite hk L V).memBlind

end Riscv64RelocationType

end Kmod
