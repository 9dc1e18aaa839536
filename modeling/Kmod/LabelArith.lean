import Kmod.Riscv64

/-!
# Label arithmetic: `ADD16/32/64` and `SUB16/32/64`

The ABI's `R_RISCV_ADD_N` and `R_RISCV_SUB_N` patch an `N`-bit data word in place; an `ADD`
with one label followed by a `SUB` with another leaves the difference of the two labels in the
word, which is how `.eh_frame` and the debug sections record lengths. `apply_r_riscv_subN_rela`
reads the word and writes `value - address as uN`. Its sibling `apply_r_riscv_addN_rela`
writes `address as uN` without reading the word, so it agrees with an addition only on a word
that was zero.

Both families return `Ok` for every input and write exactly the `N / 8` bytes at the location
(`subRela_spec`, `addRela_spec`). On every word that is not zero, an `ADD` therefore leaves the
wrong sum, and a `SUB` after it with the same value leaves zero instead of restoring the word
(`add_overwrites_word`).
-/

namespace Kmod

open Riscv64RelocationType

/-- The `ADD` and `SUB` kinds of each width. -/
def addSubKinds : List (Nat × Riscv64RelocationType × Riscv64RelocationType) :=
  [(16, .rRiscvAdd16, .rRiscvSub16), (32, .rRiscvAdd32, .rRiscvSub32),
    (64, .rRiscvAdd64, .rRiscvSub64)]

theorem mem_addSubKinds {n : Nat} {a s : Riscv64RelocationType} (h : (n, a, s) ∈ addSubKinds) :
    (n = 16 ∧ a = .rRiscvAdd16 ∧ s = .rRiscvSub16) ∨ (n = 32 ∧ a = .rRiscvAdd32 ∧ s = .rRiscvSub32) ∨
      (n = 64 ∧ a = .rRiscvAdd64 ∧ s = .rRiscvSub64) := by
  simpa [addSubKinds] using h

section Widths

variable {n : Nat} {a s : Riscv64RelocationType} (hk : (n, a, s) ∈ addSubKinds)

include hk

theorem addSubKinds_width : n % 8 = 0 ∧ n ≤ 64 := by
  rcases mem_addSubKinds hk with ⟨rfl, -⟩ | ⟨rfl, -⟩ | ⟨rfl, -⟩ <;> decide

theorem addSubKinds_apply (L V : BitVec 64) (m : Mem) :
    a.applyRelocation L V m = applyRRiscvAddRela n ⟨L⟩ V m ∧
      s.applyRelocation L V m = applyRRiscvSubRela n ⟨L⟩ V m := by
  rcases mem_addSubKinds hk with ⟨rfl, rfl, rfl⟩ | ⟨rfl, rfl, rfl⟩ | ⟨rfl, rfl, rfl⟩ <;>
    exact ⟨rfl, rfl⟩

/-- `SUB_N` subtracts `V` from the word modulo `2^N` and writes nothing else. -/
theorem subRela_spec (L V : BitVec 64) (m : Mem) :
    ∃ m', s.applyRelocation L V m = .ok () m' ∧ m'.load L n = m.load L n - V.setWidth n ∧
      ∀ x, ¬ InWindow L (n / 8) x → m' x = m x :=
  ⟨_, by rw [(addSubKinds_apply hk L V m).2, applyRRiscvSubRela_apply],
    Mem.load_store _ _ _ (addSubKinds_width hk).1 (addSubKinds_width hk).2,
    fun _ hx => Mem.store_of_not_inWindow hx⟩

/-- `ADD_N` overwrites the word with `V` modulo `2^N` and writes nothing else. -/
theorem addRela_spec (L V : BitVec 64) (m : Mem) :
    ∃ m', a.applyRelocation L V m = .ok () m' ∧ m'.load L n = V.setWidth n ∧
      ∀ x, ¬ InWindow L (n / 8) x → m' x = m x :=
  ⟨_, by rw [(addSubKinds_apply hk L V m).1, applyRRiscvAddRela_apply],
    Mem.load_store _ _ _ (addSubKinds_width hk).1 (addSubKinds_width hk).2,
    fun _ hx => Mem.store_of_not_inWindow hx⟩

/-- On a word that is not zero, `ADD_N` leaves `V` where the word plus `V` was due, and a
`SUB_N` with the same value after it leaves zero instead of the word. -/
theorem add_overwrites_word (L V : BitVec 64) (m : Mem) (hw : m.load L n ≠ 0#n) :
    ∃ m₁ m₂, a.applyRelocation L V m = .ok () m₁ ∧ s.applyRelocation L V m₁ = .ok () m₂ ∧
      m₁.load L n = V.setWidth n ∧ m₁.load L n ≠ m.load L n + V.setWidth n ∧
      m₂.load L n = 0#n ∧ m₂.load L n ≠ m.load L n := by
  obtain ⟨m₁, h₁, hl₁, -⟩ := addRela_spec hk L V m
  obtain ⟨m₂, h₂, hl₂, -⟩ := subRela_spec hk L V m₁
  have hz : m₂.load L n = 0#n := by rw [hl₂, hl₁, BitVec.sub_self]
  refine ⟨m₁, m₂, h₁, h₂, hl₁, fun h => hw ?_, hz, hz ▸ Ne.symm hw⟩
  rw [← BitVec.add_sub_cancel (m.load L n) (V.setWidth n), ← h, hl₁, BitVec.sub_self]

end Widths

/-- The failing input: a 16-bit word holding `1` at location `0`, and `V = 1`. -/
theorem add16_overwrites_word :
    ∃ m₁ m₂, rRiscvAdd16.applyRelocation 0 1 (Function.update (fun _ => 0) 0 1) = .ok () m₁ ∧
      rRiscvSub16.applyRelocation 0 1 m₁ = .ok () m₂ ∧
      m₁.load 0 16 = (1 : BitVec 64).setWidth 16 ∧
      m₁.load 0 16 ≠ Mem.load (Function.update (fun _ => 0) 0 1) 0 16 + (1 : BitVec 64).setWidth 16 ∧
      m₂.load 0 16 = 0#16 ∧ m₂.load 0 16 ≠ Mem.load (Function.update (fun _ => 0) 0 1) 0 16 :=
  add_overwrites_word (by decide) 0 1 _ (by decide)

end Kmod
