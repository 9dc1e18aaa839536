import Mathlib.Data.BitVec

/-!
# RISC-V immediate layouts

What the RISC-V ISA manual says each instruction format carries: which bits of
the instruction word hold its immediate (`…Field`), and the offset those bits
spell, sign-extended to 64 bits (`…Imm`). They are written from the manual's
format tables, not from the loader, and are what `Kmod.Splice` checks the
loader's hand-written masks and shifts against.

Bit `k` of the immediate is written `inst.extractLsb' j 1` for the instruction
bit `j` that holds it; runs of bits are one `extractLsb'`. Every immediate
concatenation ends at the bit 0 the format leaves implicit.
-/

namespace Kmod.Isa

/-- B-type (`beq`…): imm[12|10:5] in bits 31:25, imm[4:1|11] in bits 11:7. -/
def bImm (inst : BitVec 32) : BitVec 64 :=
  (inst.extractLsb' 31 1 ++ inst.extractLsb' 7 1 ++ inst.extractLsb' 25 6 ++
    inst.extractLsb' 8 4 ++ 0#1).signExtend 64

/-- J-type (`jal`): imm[20|10:1|11|19:12] in bits 31:12. -/
def jImm (inst : BitVec 32) : BitVec 64 :=
  (inst.extractLsb' 31 1 ++ inst.extractLsb' 12 8 ++ inst.extractLsb' 20 1 ++
    inst.extractLsb' 21 10 ++ 0#1).signExtend 64

/-- CB-type (`c.beqz`, `c.bnez`): offset[8|4:3] in bits 12:10 and
offset[7:6|2:1|5] in bits 6:2. -/
def cbImm (inst : BitVec 16) : BitVec 64 :=
  (inst.extractLsb' 12 1 ++ inst.extractLsb' 5 2 ++ inst.extractLsb' 2 1 ++
    inst.extractLsb' 10 2 ++ inst.extractLsb' 3 2 ++ 0#1).signExtend 64

/-- CJ-type (`c.j`, `c.jal`): offset[11|4|9:8|10|6|7|3:1|5] in bits 12:2. -/
def cjImm (inst : BitVec 16) : BitVec 64 :=
  (inst.extractLsb' 12 1 ++ inst.extractLsb' 8 1 ++ inst.extractLsb' 9 2 ++
    inst.extractLsb' 6 1 ++ inst.extractLsb' 7 1 ++ inst.extractLsb' 2 1 ++
    inst.extractLsb' 11 1 ++ inst.extractLsb' 3 3 ++ 0#1).signExtend 64

/-- U-type (`lui`, `auipc`): imm[31:12] in bits 31:12, worth `imm << 12`. -/
def uImm (inst : BitVec 32) : BitVec 64 :=
  (inst.extractLsb' 12 20 ++ 0#12).signExtend 64

/-- I-type (`addi`, `jalr`, loads): imm[11:0] in bits 31:20. -/
def iImm (inst : BitVec 32) : BitVec 64 :=
  (inst.extractLsb' 20 12).signExtend 64

/-- S-type (stores): imm[11:5] in bits 31:25, imm[4:0] in bits 11:7. -/
def sImm (inst : BitVec 32) : BitVec 64 :=
  (inst.extractLsb' 25 7 ++ inst.extractLsb' 7 5).signExtend 64

/-- The bits of a B-type or S-type word that hold its immediate. -/
def bField (i : Nat) : Prop := (7 ≤ i ∧ i < 12) ∨ 25 ≤ i

/-- The bits of a J-type or U-type word that hold its immediate. -/
def jField (i : Nat) : Prop := 12 ≤ i

/-- The bits of a CB-type word that hold its offset. -/
def cbField (i : Nat) : Prop := (2 ≤ i ∧ i < 7) ∨ (10 ≤ i ∧ i < 13)

/-- The bits of a CJ-type word that hold its offset. -/
def cjField (i : Nat) : Prop := 2 ≤ i ∧ i < 13

/-- The bits of an I-type word that hold its immediate. -/
def iField (i : Nat) : Prop := 20 ≤ i

/-! ## Reading a signed value back from its low bits -/

/-- A value whose signed reading lies in `[-2^k, 2^k)` repeats bit `k` in every bit
above it. -/
theorem getLsbD_eq_of_toInt_mem {w k i : Nat} {x : BitVec w}
    (h : -(2 ^ k : Int) ≤ x.toInt ∧ x.toInt < 2 ^ k) (hki : k ≤ i) (hi : i < w) :
    x.getLsbD i = x.getLsbD k := by
  have hpow : ∀ j, k ≤ j → (2 : Nat) ^ k ≤ 2 ^ j := fun j => Nat.pow_le_pow_right (by decide)
  have hk2 : (2 : Int) ^ k = ((2 ^ k : Nat) : Int) := by norm_cast
  rw [BitVec.toInt_eq_toNat_cond, hk2] at h
  have hx := x.isLt
  split at h
  · -- nonnegative: every bit from `k` up is clear
    have hlt : x.toNat < 2 ^ k := by omega
    have hzero : ∀ j, k ≤ j → x.getLsbD j = false := fun j hkj =>
      Nat.testBit_lt_two_pow (Nat.lt_of_lt_of_le hlt (hpow j hkj))
    rw [hzero i hki, hzero k le_rfl]
  · -- negative: every bit from `k` up is set, as the complement is below `2^k`
    have hlt : (~~~x).toNat < 2 ^ k := by rw [BitVec.toNat_not]; omega
    have hone : ∀ j, k ≤ j → j < w → x.getLsbD j = true := fun j hkj hj => by
      have h0 : (~~~x).getLsbD j = false :=
        Nat.testBit_lt_two_pow (Nat.lt_of_lt_of_le hlt (hpow j hkj))
      simpa [BitVec.getLsbD_not, hj] using h0
    rw [hone i hki hi, hone k le_rfl (by omega)]

/-- An `n`-bit value that agrees with `x` below bit `n` sign-extends to `x`, when
`x`'s signed reading fits in `n` bits. -/
theorem signExtend_eq_of_getLsbD {n : Nat} {y : BitVec n} {x : BitVec 64} (hn : 0 < n)
    (hx : -(2 ^ (n - 1) : Int) ≤ x.toInt ∧ x.toInt < 2 ^ (n - 1))
    (hy : ∀ i < n, y.getLsbD i = x.getLsbD i) : y.signExtend 64 = x := by
  ext i
  rw [BitVec.getLsbD_signExtend]
  simp only [i.isLt, decide_True, Bool.true_and]
  split
  · exact hy i ‹_›
  · rw [BitVec.msb_eq_getLsbD_last, hy _ (by omega),
      getLsbD_eq_of_toInt_mem hx (by omega) i.isLt]

/-- The converse: a value whose bits from `k` up all repeat bit `k` reads, signed, in
`[-2^k, 2^k)`. -/
theorem toInt_mem_of_getLsbD_eq {k : Nat} {x : BitVec 64} (hk : k < 64)
    (h : ∀ i, k ≤ i → i < 64 → x.getLsbD i = x.getLsbD k) :
    -(2 ^ k : Int) ≤ x.toInt ∧ x.toInt < 2 ^ k := by
  have hpow : (2 : Nat) ^ k ≤ 2 ^ 63 := Nat.pow_le_pow_right (by decide) (by omega)
  have hk2 : (2 : Int) ^ k = ((2 ^ k : Nat) : Int) := by norm_cast
  have hhigh : ∀ y : BitVec 64, ∀ i, 64 ≤ i → y.toNat.testBit i = false := fun y i hi =>
    Nat.testBit_lt_two_pow (Nat.lt_of_lt_of_le y.isLt (Nat.pow_le_pow_right (by decide) hi))
  have hx := x.isLt
  rw [BitVec.toInt_eq_toNat_cond, hk2]
  cases hb : x.getLsbD k
  · -- every bit from `k` up is clear
    have hlt : x.toNat < 2 ^ k := Nat.lt_pow_two_of_testBit _ fun i hi => by
      by_cases h64 : i < 64
      · exact (h i hi h64).trans hb
      · exact hhigh x i (by omega)
    split <;> omega
  · -- every bit from `k` up is set: the complement is below `2^k`
    have hlt : (~~~x).toNat < 2 ^ k := Nat.lt_pow_two_of_testBit _ fun i hi => by
      by_cases h64 : i < 64
      · show (~~~x).getLsbD i = false
        simp only [BitVec.getLsbD_not, h64, decide_True, h i hi h64, hb, Bool.not_true,
          Bool.and_false]
      · exact hhigh _ i (by omega)
    rw [BitVec.toNat_not] at hlt
    split <;> omega

/-! ## Offsets out of reach

A field of `r` offset bits over an implicit bit 0 holds what is left of an offset
`o` once it is wrapped into `[-2^r, 2^r)` and its bit 0 dropped. -/

/-- `o` with bits `1` to `r` kept, bit 0 cleared and bit `r` repeated above. -/
def wrap (r : Nat) (o : BitVec 64) : BitVec 64 := (o.extractLsb' 1 r ++ 0#1).signExtend 64

theorem getLsbD_wrap {r i : Nat} (o : BitVec 64) (hr0 : 0 < r) (hi : i < 64) :
    (wrap r o).getLsbD i = if i = 0 then false else o.getLsbD (min i r) := by
  simp only [wrap, BitVec.getLsbD_signExtend, BitVec.getLsbD_append, BitVec.getLsbD_extractLsb',
    BitVec.msb_eq_getLsbD_last, hi, decide_True, Bool.true_and, BitVec.getLsbD_zero]
  rcases Nat.eq_zero_or_pos i with rfl | h0
  · -- bit 0 is the appended zero
    simp only [Nat.zero_lt_succ, ite_true, Nat.lt_one_iff, decide_True, cond_true]
  rw [if_neg (show ¬ i = 0 by omega)]
  split
  · -- inside the field: bit `i` of the offset
    rw [min_eq_left (by omega), show 1 + (i - 1) = i by omega,
      decide_eq_false (show ¬ i < 1 by omega), decide_eq_true (show i - 1 < r by omega)]
    rfl
  · -- above the field: its top bit, bit `r` of the offset
    rw [min_eq_right (by omega), show 1 + (r + 1 - 1 - 1) = r by omega,
      decide_eq_false (show ¬ r + 1 - 1 < 1 by omega),
      decide_eq_true (show r + 1 - 1 - 1 < r by omega)]
    rfl

theorem getLsbD_wrap_zero (r : Nat) (o : BitVec 64) : (wrap r o).getLsbD 0 = false := by
  simp only [wrap, BitVec.getLsbD_signExtend, BitVec.getLsbD_append, BitVec.getLsbD_zero,
    Nat.zero_lt_succ, decide_True, Bool.true_and, ite_true, Nat.lt_irrefl, cond_true]

/-- A wrapped offset is in reach. -/
theorem wrap_mem {r : Nat} (o : BitVec 64) (hr0 : 0 < r) (hr : r < 64) :
    -(2 ^ r : Int) ≤ (wrap r o).toInt ∧ (wrap r o).toInt < 2 ^ r :=
  toInt_mem_of_getLsbD_eq hr fun i hri hi => by
    rw [getLsbD_wrap o hr0 hi, getLsbD_wrap o hr0 hr, if_neg (by omega), if_neg (by omega),
      min_eq_right hri, min_self]

end Kmod.Isa
