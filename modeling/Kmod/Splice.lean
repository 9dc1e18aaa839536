import Mathlib.Tactic.IntervalCases
import Kmod.Riscv64
import Kmod.Isa

/-!
# The instruction splices, bit by bit

Each splice of `Kmod.Riscv64` masks the original word and ORs in the offset's
bits, shifted to where the format keeps them. Read as data, a splice is a mask
and a list of `Field`s (`assemble`), and one lemma evaluates any such splice bit
by bit (`getLsbD_assemble`): word bit `i` is the offset bit its format's table
names, or the original word's bit. What is particular to a format is its table
and the check that the mask and fields realise it (`placesAt`), a finite fact
about constants closed by `decide`.

From these closed forms follow the decoding of every patched word (`…Imm_splice…`)
and the bits a patch keeps (`…_of_not_…Field`), and, since a splice reads only
the offset bits its table names (`assemble_congr`), the decoding of an offset out
of reach (`…_wrap`).
-/

namespace Kmod

/-! ## Splices as data -/

/-- One field of a splice: the source value masked with `mask`, then shifted left by `s`
(`shl`) or arithmetically right by `s` (`sshr`), and cut to the word's width. -/
inductive Field (u : Nat) where
  | shl (mask : BitVec u) (s : Nat)
  | sshr (mask : BitVec u) (s : Nat)

namespace Field

variable {u : Nat}

/-- The field's bits in a `v`-bit word. -/
def piece (v : Nat) (o : BitVec u) : Field u → BitVec v
  | shl c s => ((o &&& c) <<< s).setWidth v
  | sshr c s => ((o &&& c).sshiftRight s).setWidth v

/-- The source bit the field puts at word bit `i`, if it puts one there. -/
def src (i : Nat) : Field u → Option Nat
  | shl c s => if s ≤ i ∧ c.getLsbD (i - s) then some (i - s) else none
  | sshr c s => if c.getLsbD (s + i) then some (s + i) else none

/-- Every word bit the field can reach comes from below the source's sign bit. -/
def fits (v : Nat) : Field u → Bool
  | shl _ _ => v ≤ u
  | sshr _ s => s + v ≤ u

theorem getLsbD_piece (f : Field u) (o : BitVec u) {v i : Nat} (hf : f.fits v) (hi : i < v) :
    (f.piece v o).getLsbD i = match f.src i with | some j => o.getLsbD j | none => false := by
  cases f with
  | shl c s =>
    simp only [fits, decide_eq_true_eq] at hf
    simp only [piece, src, BitVec.getLsbD_setWidth, BitVec.getLsbD_shiftLeft, BitVec.getLsbD_and,
      decide_eq_true hi, decide_eq_true (Nat.lt_of_lt_of_le hi hf), Bool.true_and]
    by_cases hs : s ≤ i
    · cases hc : c.getLsbD (i - s) <;> simp [hs, hc]
    · simp [hs, Nat.lt_of_not_le hs]
  | sshr c s =>
    simp only [fits, decide_eq_true_eq] at hf
    simp only [piece, src, BitVec.getLsbD_setWidth, BitVec.getLsbD_sshiftRight, BitVec.getLsbD_and,
      decide_eq_true hi, if_pos (show s + i < u by omega), show ¬ u ≤ i by omega, decide_False,
      Bool.not_false, Bool.true_and]
    cases hc : c.getLsbD (s + i) <;> simp [hc]

end Field

/-- A splice: the word's bits under `mask`, OR-ed with each field in turn. -/
def assemble {u v : Nat} (mask : BitVec v) (fs : List (Field u)) (w : BitVec v) (o : BitVec u) :
    BitVec v :=
  fs.foldl (fun acc f => acc ||| f.piece v o) (w &&& mask)

/-- Word bit `i` of the splice is source bit `j` where `tab i = some j` and the word's own bit
where `tab i = none`: the mask keeps exactly the bits no field writes, and every field writing
bit `i` brings source bit `j`. -/
def placesAt {u v : Nat} (mask : BitVec v) (fs : List (Field u)) (tab : Nat → Option Nat)
    (i : Nat) : Bool :=
  match tab i with
  | none => mask.getLsbD i && fs.all (fun f => f.src i == none)
  | some j => !mask.getLsbD i && fs.any (fun f => f.src i == some j) &&
      fs.all (fun f => f.src i == none || f.src i == some j)

section Assemble

variable {u v : Nat} {mask : BitVec v} {fs : List (Field u)} {tab : Nat → Option Nat}

theorem getLsbD_foldl_piece (o : BitVec u) {i : Nat} (hi : i < v) :
    ∀ (gs : List (Field u)) (acc : BitVec v), gs.all (·.fits v) →
      (gs.foldl (fun acc f => acc ||| f.piece v o) acc).getLsbD i =
        (acc.getLsbD i ||
          gs.any fun f => match f.src i with | some j => o.getLsbD j | none => false)
  | [], acc, _ => by simp
  | f :: gs, acc, hf => by
    simp only [List.all_cons, Bool.and_eq_true] at hf
    rw [List.foldl_cons, getLsbD_foldl_piece o hi gs _ hf.2, BitVec.getLsbD_or,
      Field.getLsbD_piece f o hf.1 hi, List.any_cons, Bool.or_assoc]

theorem any_src_eq_some (b : Nat → Bool) {i j : Nat} :
    ∀ gs : List (Field u), gs.all (fun f => f.src i == none || f.src i == some j) →
      (gs.any fun f => match f.src i with | some j' => b j' | none => false) =
        (gs.any (fun f => f.src i == some j) && b j)
  | [], _ => rfl
  | f :: gs, h => by
    simp only [List.all_cons, Bool.and_eq_true, Bool.or_eq_true, beq_iff_eq] at h
    rw [List.any_cons, List.any_cons, any_src_eq_some b gs (by simpa using h.2)]
    rcases h.1 with h₁ | h₁ <;> simp [h₁, Bool.or_and_distrib_right]

/-- The bit evaluation shared by every splice: bit `i` of `assemble mask fs w o` is read off
its table. -/
theorem getLsbD_assemble (hf : fs.all (·.fits v)) (ht : ∀ i < v, placesAt mask fs tab i)
    (w : BitVec v) (o : BitVec u) {i : Nat} (hi : i < v) :
    (assemble mask fs w o).getLsbD i = match tab i with
      | some j => o.getLsbD j
      | none => w.getLsbD i := by
  have hp := ht i hi
  rw [assemble, getLsbD_foldl_piece o hi fs _ hf, BitVec.getLsbD_and]
  unfold placesAt at hp
  split at hp
  · next hn =>
    simp only [Bool.and_eq_true, List.all_eq_true, beq_iff_eq] at hp
    have hz : (fs.any fun f => match f.src i with | some j => o.getLsbD j | none => false) =
        false := List.any_eq_false.2 fun f hf' => by simp [hp.2 f hf']
    rw [hn, hz, hp.1, Bool.and_true, Bool.or_false]
  · next j hj =>
    simp only [Bool.and_eq_true, Bool.not_eq_true'] at hp
    rw [hj, any_src_eq_some _ fs hp.2, hp.1.1, hp.1.2]
    simp

end Assemble

/-- A splice reads only the source bits its table names: offsets that agree on every bit
satisfying `P`, where the table names only such bits, give the same word. -/
theorem assemble_congr {u v : Nat} {mask : BitVec v} {fs : List (Field u)}
    (tab : Nat → Option Nat) (hf : fs.all (·.fits v)) (ht : ∀ i < v, placesAt mask fs tab i)
    (P : Nat → Prop) [DecidablePred P] (hP : ∀ i < v, (tab i).all (fun j => decide (P j)))
    (w : BitVec v) {o o' : BitVec u} (h : ∀ j, P j → o.getLsbD j = o'.getLsbD j) :
    assemble mask fs w o = assemble mask fs w o' := by
  apply BitVec.eq_of_getLsbD_eq
  intro ⟨i, hi⟩
  rw [getLsbD_assemble hf ht w o hi, getLsbD_assemble hf ht w o' hi]
  have hPi := hP i hi
  cases hj : tab i with
  | none => rfl
  | some j => rw [hj] at hPi; exact h j (of_decide_eq_true hPi)

/-! ## The mask constants -/

theorem getLsbD_ofNat_two_pow_sub_one {v n i : Nat} (hi : i < v) :
    (BitVec.ofNat v (2 ^ n - 1)).getLsbD i = decide (i < n) := by
  rw [BitVec.getLsbD_ofNat, Nat.testBit_two_pow_sub_one, decide_eq_true hi, Bool.true_and]

/-! ## The formats' tables -/

/-- B-type: imm[12] at bit 31, imm[10:5] at 30:25, imm[4:1] at 11:8, imm[11] at 7. -/
def branchTab (i : Nat) : Option Nat :=
  if i = 7 then some 11 else if 8 ≤ i ∧ i < 12 then some (i - 7)
  else if 25 ≤ i ∧ i < 31 then some (i - 20) else if i = 31 then some 12 else none

/-- J-type: imm[19:12] at 19:12, imm[11] at 20, imm[10:1] at 30:21, imm[20] at 31. -/
def jalTab (i : Nat) : Option Nat :=
  if 12 ≤ i ∧ i < 20 then some i else if i = 20 then some 11
  else if 21 ≤ i ∧ i < 31 then some (i - 20) else if i = 31 then some 20 else none

/-- CB-type: offset[5] at 2, [2:1] at 4:3, [7:6] at 6:5, [4:3] at 11:10, [8] at 12. -/
def rvcBranchTab (i : Nat) : Option Nat :=
  if i = 2 then some 5 else if 3 ≤ i ∧ i < 5 then some (i - 2)
  else if 5 ≤ i ∧ i < 7 then some (i + 1) else if 10 ≤ i ∧ i < 12 then some (i - 7)
  else if i = 12 then some 8 else none

/-- CJ-type: offset[5] at 2, [3:1] at 5:3, [7] at 6, [6] at 7, [10] at 8, [9:8] at 10:9,
[4] at 11, [11] at 12. -/
def rvcJumpTab (i : Nat) : Option Nat :=
  if i = 2 then some 5 else if 3 ≤ i ∧ i < 6 then some (i - 2) else if i = 6 then some 7
  else if i = 7 then some 6 else if i = 8 then some 10 else if 9 ≤ i ∧ i < 11 then some (i - 1)
  else if i = 11 then some 4 else if i = 12 then some 11 else none

/-- S-type: imm[4:0] at 11:7, imm[11:5] at 31:25. -/
def lo12STab (i : Nat) : Option Nat :=
  if 7 ≤ i ∧ i < 12 then some (i - 7) else if 25 ≤ i ∧ i < 32 then some (i - 20) else none

/-! ## The splices read as data -/

section Splices

variable (w : BitVec 32) (c : BitVec 16) (o : BitVec 64) (imm : BitVec 32) {i : Nat}

theorem spliceBranch_eq_assemble :
    spliceBranch w o = assemble 0x1fff07f#32
      [.shl 0x1000#64 (31 - 12), .sshr 0x800#64 (11 - 7), .shl 0x7e0#64 (30 - 10),
        .shl 0x1e#64 (11 - 4)] w o := rfl

theorem spliceJal_eq_assemble :
    spliceJal w o = assemble 0xFFF#32
      [.shl 0x100000#64 (31 - 20), .shl 0xff000#64 0, .shl 0x800#64 (20 - 11),
        .shl 0x7fe#64 (30 - 10)] w o := by
  simp only [spliceJal, assemble, List.foldl, Field.piece, BitVec.shiftLeft_zero]

theorem spliceRvcBranch_eq_assemble :
    spliceRvcBranch c o = assemble 0xe383#16
      [.shl 0x100#64 (12 - 8), .sshr 0xc0#64 (6 - 5), .sshr 0x20#64 (5 - 2),
        .shl 0x18#64 (12 - 5), .shl 0x6#64 (12 - 10)] c o := rfl

theorem spliceRvcJump_eq_assemble :
    spliceRvcJump c o = assemble 0xe003#16
      [.shl 0x800#64 (12 - 11), .sshr 0x400#64 (10 - 8), .shl 0x300#64 (12 - 11),
        .sshr 0x80#64 (7 - 6), .shl 0x40#64 (12 - 11), .sshr 0x20#64 (5 - 2),
        .shl 0x10#64 (12 - 5), .shl 0xe#64 (12 - 10)] c o := rfl

theorem spliceLo12S_eq_assemble :
    spliceLo12S w imm = assemble 0x1fff07f#32
      [.shl 0xfe0#32 (31 - 11), .shl 0x1f#32 (11 - 4)] w imm := by
  simp only [spliceLo12S, assemble, List.foldl, Field.piece, BitVec.setWidth_eq]

/-- Each bit of the B-type splice: the offset bit `branchTab` names, or the word's. -/
theorem getLsbD_spliceBranch (hi : i < 32) :
    (spliceBranch w o).getLsbD i = match branchTab i with
      | some j => o.getLsbD j
      | none => w.getLsbD i := by
  rw [spliceBranch_eq_assemble]
  exact getLsbD_assemble (by decide) (by decide) w o hi

/-- Each bit of the J-type splice: the offset bit `jalTab` names, or the word's. -/
theorem getLsbD_spliceJal (hi : i < 32) :
    (spliceJal w o).getLsbD i = match jalTab i with
      | some j => o.getLsbD j
      | none => w.getLsbD i := by
  rw [spliceJal_eq_assemble]
  exact getLsbD_assemble (by decide) (by decide) w o hi

/-- Each bit of the CB-type splice: the offset bit `rvcBranchTab` names, or the word's. -/
theorem getLsbD_spliceRvcBranch (hi : i < 16) :
    (spliceRvcBranch c o).getLsbD i = match rvcBranchTab i with
      | some j => o.getLsbD j
      | none => c.getLsbD i := by
  rw [spliceRvcBranch_eq_assemble]
  exact getLsbD_assemble (by decide) (by decide) c o hi

/-- Each bit of the CJ-type splice: the offset bit `rvcJumpTab` names, or the word's. -/
theorem getLsbD_spliceRvcJump (hi : i < 16) :
    (spliceRvcJump c o).getLsbD i = match rvcJumpTab i with
      | some j => o.getLsbD j
      | none => c.getLsbD i := by
  rw [spliceRvcJump_eq_assemble]
  exact getLsbD_assemble (by decide) (by decide) c o hi

/-- Each bit of the S-type splice: the immediate bit `lo12STab` names, or the word's. -/
theorem getLsbD_spliceLo12S (hi : i < 32) :
    (spliceLo12S w imm).getLsbD i = match lo12STab i with
      | some j => imm.getLsbD j
      | none => w.getLsbD i := by
  rw [spliceLo12S_eq_assemble]
  exact getLsbD_assemble (by decide) (by decide) w imm hi

/-- The U-type splice keeps the word's bits 11:0, OR-ed with the value's, and takes bits
31:12 from the value. -/
theorem getLsbD_spliceHi20 (h : BitVec 64) (hi : i < 32) :
    (spliceHi20 w h).getLsbD i =
      if 12 ≤ i then h.getLsbD i else (w.getLsbD i || h.getLsbD i) := by
  rw [spliceHi20, BitVec.getLsbD_or, BitVec.getLsbD_and, BitVec.getLsbD_setWidth,
    show (0xfff#32) = BitVec.ofNat 32 (2 ^ 12 - 1) from rfl, getLsbD_ofNat_two_pow_sub_one hi,
    decide_eq_true hi, Bool.true_and]
  by_cases h12 : 12 ≤ i
  · simp [h12, Nat.not_lt.2 h12]
  · simp [h12, Nat.lt_of_not_le h12]

/-- The I-type splice keeps the word's bits 19:0 and takes bits 31:20 from the immediate. -/
theorem getLsbD_spliceLo12I (hi : i < 32) :
    (spliceLo12I w imm).getLsbD i = if 20 ≤ i then imm.getLsbD (i - 20) else w.getLsbD i := by
  rw [spliceLo12I, BitVec.getLsbD_or, BitVec.getLsbD_and, BitVec.getLsbD_shiftLeft,
    show (0xfffff#32) = BitVec.ofNat 32 (2 ^ 20 - 1) from rfl, getLsbD_ofNat_two_pow_sub_one hi,
    decide_eq_true hi, Bool.true_and]
  by_cases h20 : 20 ≤ i
  · simp [h20, Nat.not_lt.2 h20]
  · simp [h20, Nat.lt_of_not_le h20]

end Splices

/-! ## Reading the jump offsets back

For an even offset in the format's range, the ISA's decoding of the patched word
is the offset; every bit outside the format's immediate field is the original
word's. -/

section Jumps

variable (w : BitVec 32) (c : BitVec 16) {o : BitVec 64} {i : Nat}

/-- The B-type decoding of the patched word is the offset, for an even offset in reach. -/
theorem bImm_spliceBranch (hr : -(2 ^ 12 : Int) ≤ o.toInt ∧ o.toInt < 2 ^ 12)
    (h0 : o.getLsbD 0 = false) : Isa.bImm (spliceBranch w o) = o := by
  refine Isa.signExtend_eq_of_getLsbD (by decide) hr fun i hi => ?_
  interval_cases i <;> simp (disch := decide) only [BitVec.getLsbD_append,
    BitVec.getLsbD_extractLsb', getLsbD_spliceBranch] <;> first | rfl | exact h0.symm

/-- The J-type decoding of the patched word is the offset, for an even offset in reach. -/
theorem jImm_spliceJal (hr : -(2 ^ 20 : Int) ≤ o.toInt ∧ o.toInt < 2 ^ 20)
    (h0 : o.getLsbD 0 = false) : Isa.jImm (spliceJal w o) = o := by
  refine Isa.signExtend_eq_of_getLsbD (by decide) hr fun i hi => ?_
  interval_cases i <;> simp (disch := decide) only [BitVec.getLsbD_append,
    BitVec.getLsbD_extractLsb', getLsbD_spliceJal] <;> first | rfl | exact h0.symm

/-- The CB-type decoding of the patched word is the offset, for an even offset in reach. -/
theorem cbImm_spliceRvcBranch (hr : -(2 ^ 8 : Int) ≤ o.toInt ∧ o.toInt < 2 ^ 8)
    (h0 : o.getLsbD 0 = false) : Isa.cbImm (spliceRvcBranch c o) = o := by
  refine Isa.signExtend_eq_of_getLsbD (by decide) hr fun i hi => ?_
  interval_cases i <;> simp (disch := decide) only [BitVec.getLsbD_append,
    BitVec.getLsbD_extractLsb', getLsbD_spliceRvcBranch] <;> first | rfl | exact h0.symm

/-- The CJ-type decoding of the patched word is the offset, for an even offset in reach. -/
theorem cjImm_spliceRvcJump (hr : -(2 ^ 11 : Int) ≤ o.toInt ∧ o.toInt < 2 ^ 11)
    (h0 : o.getLsbD 0 = false) : Isa.cjImm (spliceRvcJump c o) = o := by
  refine Isa.signExtend_eq_of_getLsbD (by decide) hr fun i hi => ?_
  interval_cases i <;> simp (disch := decide) only [BitVec.getLsbD_append,
    BitVec.getLsbD_extractLsb', getLsbD_spliceRvcJump] <;> first | rfl | exact h0.symm

/-- Outside the B-type immediate field the patched word is the original. -/
theorem getLsbD_spliceBranch_of_not_bField (hi : i < 32) (hf : ¬ Isa.bField i) :
    (spliceBranch w o).getLsbD i = w.getLsbD i := by
  simp only [Isa.bField] at hf
  rw [getLsbD_spliceBranch w o hi,
    show branchTab i = none by simp (disch := omega) only [branchTab, if_neg]]

/-- Outside the J-type immediate field the patched word is the original. -/
theorem getLsbD_spliceJal_of_not_jField (hi : i < 32) (hf : ¬ Isa.jField i) :
    (spliceJal w o).getLsbD i = w.getLsbD i := by
  simp only [Isa.jField] at hf
  rw [getLsbD_spliceJal w o hi,
    show jalTab i = none by simp (disch := omega) only [jalTab, if_neg]]

/-- Outside the CB-type immediate field the patched word is the original. -/
theorem getLsbD_spliceRvcBranch_of_not_cbField (hi : i < 16) (hf : ¬ Isa.cbField i) :
    (spliceRvcBranch c o).getLsbD i = c.getLsbD i := by
  simp only [Isa.cbField] at hf
  rw [getLsbD_spliceRvcBranch c o hi,
    show rvcBranchTab i = none by simp (disch := omega) only [rvcBranchTab, if_neg]]

/-- Outside the CJ-type immediate field the patched word is the original. -/
theorem getLsbD_spliceRvcJump_of_not_cjField (hi : i < 16) (hf : ¬ Isa.cjField i) :
    (spliceRvcJump c o).getLsbD i = c.getLsbD i := by
  simp only [Isa.cjField] at hf
  rw [getLsbD_spliceRvcJump c o hi,
    show rvcJumpTab i = none by simp (disch := omega) only [rvcJumpTab, if_neg]]

/-! ## Offsets out of reach

Each jump splice reads only bits `1` to `reach` of the offset (`…_congr`), so for
every offset, in reach or not, the patched word decodes to the offset wrapped
into the format's reach (`…_wrap`). -/

/-- The B-type splice reads only bits 1 to 12 of the offset. -/
theorem spliceBranch_congr {o o' : BitVec 64}
    (h : ∀ j, 1 ≤ j → j ≤ 12 → o.getLsbD j = o'.getLsbD j) :
    spliceBranch w o = spliceBranch w o' := by
  rw [spliceBranch_eq_assemble, spliceBranch_eq_assemble]
  exact assemble_congr branchTab (by decide) (by decide) (fun j => 1 ≤ j ∧ j ≤ 12) (by decide)
    w fun j hj => h j hj.1 hj.2

/-- Any offset, patched by the B-type splice, decodes to its wrap into `[-2^12, 2^12)`. -/
theorem bImm_spliceBranch_wrap (o : BitVec 64) :
    Isa.bImm (spliceBranch w o) = Isa.wrap 12 o := by
  rw [spliceBranch_congr w fun j h1 hj => by
      rw [Isa.getLsbD_wrap (r := 12) o (by decide) (by omega), if_neg (by omega), min_eq_left hj],
    bImm_spliceBranch w (Isa.wrap_mem o (by decide) (by decide)) (Isa.getLsbD_wrap_zero 12 o)]

/-- The J-type splice reads only bits 1 to 20 of the offset. -/
theorem spliceJal_congr {o o' : BitVec 64}
    (h : ∀ j, 1 ≤ j → j ≤ 20 → o.getLsbD j = o'.getLsbD j) :
    spliceJal w o = spliceJal w o' := by
  rw [spliceJal_eq_assemble, spliceJal_eq_assemble]
  exact assemble_congr jalTab (by decide) (by decide) (fun j => 1 ≤ j ∧ j ≤ 20) (by decide)
    w fun j hj => h j hj.1 hj.2

/-- Any offset, patched by the J-type splice, decodes to its wrap into `[-2^20, 2^20)`. -/
theorem jImm_spliceJal_wrap (o : BitVec 64) :
    Isa.jImm (spliceJal w o) = Isa.wrap 20 o := by
  rw [spliceJal_congr w fun j h1 hj => by
      rw [Isa.getLsbD_wrap (r := 20) o (by decide) (by omega), if_neg (by omega), min_eq_left hj],
    jImm_spliceJal w (Isa.wrap_mem o (by decide) (by decide)) (Isa.getLsbD_wrap_zero 20 o)]

/-- The CB-type splice reads only bits 1 to 8 of the offset. -/
theorem spliceRvcBranch_congr {o o' : BitVec 64}
    (h : ∀ j, 1 ≤ j → j ≤ 8 → o.getLsbD j = o'.getLsbD j) :
    spliceRvcBranch c o = spliceRvcBranch c o' := by
  rw [spliceRvcBranch_eq_assemble, spliceRvcBranch_eq_assemble]
  exact assemble_congr rvcBranchTab (by decide) (by decide) (fun j => 1 ≤ j ∧ j ≤ 8)
    (by decide) c fun j hj => h j hj.1 hj.2

/-- Any offset, patched by the CB-type splice, decodes to its wrap into `[-2^8, 2^8)`. -/
theorem cbImm_spliceRvcBranch_wrap (o : BitVec 64) :
    Isa.cbImm (spliceRvcBranch c o) = Isa.wrap 8 o := by
  rw [spliceRvcBranch_congr c fun j h1 hj => by
      rw [Isa.getLsbD_wrap (r := 8) o (by decide) (by omega), if_neg (by omega), min_eq_left hj],
    cbImm_spliceRvcBranch c (Isa.wrap_mem o (by decide) (by decide)) (Isa.getLsbD_wrap_zero 8 o)]

/-- The CJ-type splice reads only bits 1 to 11 of the offset. -/
theorem spliceRvcJump_congr {o o' : BitVec 64}
    (h : ∀ j, 1 ≤ j → j ≤ 11 → o.getLsbD j = o'.getLsbD j) :
    spliceRvcJump c o = spliceRvcJump c o' := by
  rw [spliceRvcJump_eq_assemble, spliceRvcJump_eq_assemble]
  exact assemble_congr rvcJumpTab (by decide) (by decide) (fun j => 1 ≤ j ∧ j ≤ 11)
    (by decide) c fun j hj => h j hj.1 hj.2

/-- Any offset, patched by the CJ-type splice, decodes to its wrap into `[-2^11, 2^11)`. -/
theorem cjImm_spliceRvcJump_wrap (o : BitVec 64) :
    Isa.cjImm (spliceRvcJump c o) = Isa.wrap 11 o := by
  rw [spliceRvcJump_congr c fun j h1 hj => by
      rw [Isa.getLsbD_wrap (r := 11) o (by decide) (by omega), if_neg (by omega), min_eq_left hj],
    cjImm_spliceRvcJump c (Isa.wrap_mem o (by decide) (by decide)) (Isa.getLsbD_wrap_zero 11 o)]

end Jumps

end Kmod
