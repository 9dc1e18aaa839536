import Kmod.Splice

/-!
# The hi20/lo12 split

An `auipc`/`lui` and the I- or S-type instruction after it together address
`imm20 << 12 + sext(imm12)`. The loader splits a 32-bit value `o` in three
places (`PCREL_HI20` with its `LO12` partners, `CALL`/`CALL_PLT`, and the
absolute `HI20`/`LO12` pair) by the ABI's rounding: `hi20 = (o + 0x800) &
0xfffff000` and `lo12 = o - hi20`. The halves are computed by different code in
each place (`i64`, `u64`, or `i32` after `address as i32`), but every one keeps
bits 31:12 of `o + 0x800` in the upper instruction and bits 11:0 of `o` in the
lower one, and for every `o` whose signed reading lies in `[-2^31 - 2^11,
2^31 - 2^11)` those two halves add back up to `o` (`uImm_add_iImm_split`).

The upper half's mask `0xfffff000` also clears bits 63:32, so for a negative
offset the driver's `lo_12` is far outside `[-2048, 2047]`; only its low twelve
bits reach the instruction, and those are right.
-/

namespace Kmod

open Riscv64RelocationType

/-! ## Sign extension and signed readings -/

theorem toNat_signExtend_64 {w : Nat} (x : BitVec w) (hw : w ≤ 64) :
    (x.signExtend 64).toNat = if x.msb then x.toNat + (2 ^ 64 - 2 ^ w) else x.toNat := by
  have hp : 2 ^ w ≤ 2 ^ 64 := Nat.pow_le_pow_right (by decide) hw
  have hx := x.isLt
  cases h : x.msb
  · rw [BitVec.signExtend_eq_not_setWidth_not_of_msb_false h]
    simp only [BitVec.toNat_setWidth, if_false, Bool.false_eq_true]
    exact Nat.mod_eq_of_lt (by omega)
  · rw [BitVec.signExtend_eq_not_setWidth_not_of_msb_true h]
    simp only [BitVec.toNat_not, BitVec.toNat_setWidth, if_true]
    rw [Nat.mod_eq_of_lt (by omega)]
    omega

theorem bmod_of_small {x : Int} (h : -(2 ^ 63) ≤ x ∧ x < 2 ^ 63) : x.bmod (2 ^ 64) = x := by
  rw [Int.bmod_def]
  split <;> omega

/-- A 64-bit sum of two small signed values is their integer sum. -/
theorem toInt_add_of_small {x y : BitVec 64}
    (h : -(2 ^ 63) ≤ x.toInt + y.toInt ∧ x.toInt + y.toInt < 2 ^ 63) :
    (x + y).toInt = x.toInt + y.toInt := by
  rw [BitVec.toInt_add, bmod_of_small h]

theorem toInt_mem_64 (x : BitVec 64) : -(2 ^ 63) ≤ x.toInt ∧ x.toInt < 2 ^ 63 := by
  rw [BitVec.toInt_eq_toNat_cond]
  have := x.isLt
  split <;> omega

theorem ofInt_toInt_64 (x : BitVec 64) : BitVec.ofInt 64 x.toInt = x :=
  BitVec.toInt_inj.1 (by rw [BitVec.toInt_ofInt, bmod_of_small (toInt_mem_64 x)])

/-! ## The split adds back up -/

/-- Bits 31:12 of `o + 0x800` as an upper immediate, plus bits 11:0 of `o` as a
signed twelve-bit immediate, give back `o`. -/
theorem hi20_add_lo12 (o : BitVec 64)
    (h : -(2 ^ 31 + 2 ^ 11 : Int) ≤ o.toInt ∧ o.toInt < 2 ^ 31 - 2 ^ 11) :
    ((o + 0x800#64).extractLsb' 12 20 ++ 0#12).signExtend 64 +
      (o.extractLsb' 0 12).signExtend 64 = o := by
  rw [BitVec.toInt_eq_toNat_cond] at h
  rw [BitVec.toNat_eq, BitVec.toNat_add, toNat_signExtend_64 _ (by decide),
    toNat_signExtend_64 _ (by decide), BitVec.msb_eq_decide, BitVec.msb_eq_decide]
  simp only [BitVec.toNat_append, BitVec.extractLsb'_toNat, BitVec.toNat_add, BitVec.toNat_ofNat,
    Nat.shiftRight_eq_div_pow, Nat.shiftLeft_eq, Nat.zero_mod, Nat.or_zero, decide_eq_true_eq]
  simp only [Nat.reducePow, Nat.reduceMod, Nat.reduceAdd, Nat.reduceSub, Nat.div_one]
  have := o.isLt
  split at h <;> split_ifs <;> omega

theorem toInt_signExtend_64 {w : Nat} (x : BitVec w) (hw : w ≤ 64) :
    (x.signExtend 64).toInt = x.toInt := by
  have hp : 2 ^ w ≤ 2 ^ 64 := Nat.pow_le_pow_right (by decide) hw
  have := x.isLt
  rw [BitVec.signExtend, BitVec.toInt_ofInt, bmod_of_small]
  rw [BitVec.toInt_eq_toNat_cond]
  split <;> omega

/-- The split read as signed integers: no wrap-around is involved. -/
theorem hi20_add_lo12_toInt (o : BitVec 64)
    (h : -(2 ^ 31 + 2 ^ 11 : Int) ≤ o.toInt ∧ o.toInt < 2 ^ 31 - 2 ^ 11) :
    (((o + 0x800#64).extractLsb' 12 20 ++ 0#12).signExtend 64).toInt +
      ((o.extractLsb' 0 12).signExtend 64).toInt = o.toInt := by
  conv_rhs => rw [← hi20_add_lo12 o h]
  refine (toInt_add_of_small ?_).symm
  rw [toInt_signExtend_64 _ (by decide), toInt_signExtend_64 _ (by decide),
    BitVec.toInt_eq_toNat_cond, BitVec.toInt_eq_toNat_cond]
  have := ((o + 0x800#64).extractLsb' 12 20 ++ 0#12).isLt
  have := (o.extractLsb' 0 12).isLt
  split <;> split <;> omega

/-! ## Reading the halves out of the patched words -/

theorem uImm_spliceHi20 (a : BitVec 32) (h : BitVec 64) :
    Isa.uImm (spliceHi20 a h) = (h.extractLsb' 12 20 ++ 0#12).signExtend 64 := by
  have : (spliceHi20 a h).extractLsb' 12 20 = h.extractLsb' 12 20 := by
    ext i
    simp [getLsbD_spliceHi20 a h (show 12 + (i : Nat) < 32 by omega)]
  rw [Isa.uImm, this]

theorem iImm_spliceLo12I (j imm : BitVec 32) :
    Isa.iImm (spliceLo12I j imm) = (imm.extractLsb' 0 12).signExtend 64 := by
  have : (spliceLo12I j imm).extractLsb' 20 12 = imm.extractLsb' 0 12 := by
    ext i
    simp [getLsbD_spliceLo12I j imm (show 20 + (i : Nat) < 32 by omega)]
  rw [Isa.iImm, this]

theorem sImm_spliceLo12S (s imm : BitVec 32) :
    Isa.sImm (spliceLo12S s imm) = (imm.extractLsb' 0 12).signExtend 64 := by
  have : (spliceLo12S s imm).extractLsb' 25 7 ++ (spliceLo12S s imm).extractLsb' 7 5 =
      imm.extractLsb' 0 12 := by
    ext ⟨i, hi⟩
    simp only [BitVec.getLsbD_append, BitVec.getLsbD_extractLsb']
    interval_cases i <;> simp (disch := decide) only [getLsbD_spliceLo12S] <;> rfl
  rw [Isa.sImm, this]

theorem getLsbD_hi20_mask {w : Nat} (hw : 32 ≤ w) (x : BitVec w) {i : Nat} (hi : i < 32) :
    (x &&& 0xfffff000#w).getLsbD i = (decide (12 ≤ i) && x.getLsbD i) := by
  simp only [BitVec.getLsbD_and, BitVec.getLsbD_ofNat, show i < w by omega, decide_True,
    Bool.true_and]
  interval_cases i <;> simp [Nat.testBit]

theorem extractLsb'_hi20_mask (x : BitVec 64) :
    (x &&& 0xfffff000#64).extractLsb' 12 20 = x.extractLsb' 12 20 := by
  ext i
  simp [getLsbD_hi20_mask (by decide) x (show 12 + (i : Nat) < 32 by omega)]

/-- Subtracting a value whose low twelve bits are clear leaves the low twelve bits. -/
theorem low12_sub {w : Nat} (hw : 12 ≤ w) (x y : BitVec w) (hy : y.extractLsb' 0 12 = 0#12) :
    (x - y).extractLsb' 0 12 = x.extractLsb' 0 12 := by
  have h2 : 2 ^ w % 2 ^ 12 = 0 :=
    Nat.mod_eq_zero_of_dvd (Nat.pow_dvd_pow 2 hw)
  rw [BitVec.toNat_eq] at hy ⊢
  simp only [BitVec.extractLsb'_toNat, Nat.shiftRight_zero, BitVec.toNat_sub,
    BitVec.toNat_ofNat, Nat.zero_mod] at hy ⊢
  rw [Nat.mod_mod_of_dvd _ (Nat.pow_dvd_pow 2 hw)]
  have := y.isLt
  omega

theorem low12_hi20_mask {w : Nat} (hw : 32 ≤ w) (x : BitVec w) :
    (x &&& 0xfffff000#w).extractLsb' 0 12 = 0#12 := by
  ext i
  rw [BitVec.getLsbD_extractLsb', getLsbD_hi20_mask hw x (show 0 + (i : Nat) < 32 by omega)]
  simp [show ¬ 12 ≤ 0 + (i : Nat) by omega]

theorem low12_and_fff {w : Nat} (hw : 12 ≤ w) (z : BitVec w) :
    (z &&& 0xfff#w).extractLsb' 0 12 = z.extractLsb' 0 12 := by
  ext ⟨i, hi⟩
  simp only [BitVec.getLsbD_extractLsb', BitVec.getLsbD_and, BitVec.getLsbD_ofNat,
    show 0 + i < w by omega, decide_True, Bool.true_and]
  interval_cases i <;> simp [Nat.testBit]

theorem low12_setWidth {w v : Nat} (hv : 12 ≤ v) (z : BitVec w) :
    (z.setWidth v).extractLsb' 0 12 = z.extractLsb' 0 12 := by
  rw [BitVec.toNat_eq]
  simp only [BitVec.extractLsb'_toNat, Nat.shiftRight_zero, BitVec.toNat_setWidth]
  rw [Nat.mod_mod_of_dvd _ (Nat.pow_dvd_pow 2 hv)]

/-! ## The bits a split keeps -/

/-- The `auipc`/`lui` half keeps the register and opcode bits below bit 12. -/
theorem getLsbD_spliceHi20_mask (w : BitVec 32) (x : BitVec 64) {i : Nat} (hi : i < 12) :
    (spliceHi20 w (x &&& 0xfffff000#64)).getLsbD i = w.getLsbD i := by
  rw [getLsbD_spliceHi20 _ _ (by omega), if_neg (by omega),
    getLsbD_hi20_mask (by decide) _ (by omega)]
  simp [show ¬ 12 ≤ i by omega]

theorem getLsbD_spliceLo12I_low (w imm : BitVec 32) {i : Nat} (hi : i < 20) :
    (spliceLo12I w imm).getLsbD i = w.getLsbD i := by
  rw [getLsbD_spliceLo12I _ _ (by omega), if_neg (by omega)]

theorem getLsbD_spliceLo12S_of_not_bField (w imm : BitVec 32) {i : Nat} (hi : i < 32)
    (hf : ¬ Isa.bField i) : (spliceLo12S w imm).getLsbD i = w.getLsbD i := by
  simp only [Isa.bField] at hf
  rw [getLsbD_spliceLo12S _ _ hi, show lo12STab i = none by simp (disch := omega) only [lo12STab, if_neg]]

/-! ## The PC-relative split -/

/-- The `auipc` immediate and the I-type immediate of the `PCREL_HI20`/`PCREL_LO12_I`
split of an offset in range add back to the offset. -/
theorem uImm_add_iImm_split (o : BitVec 64)
    (h : -(2 ^ 31 + 2 ^ 11 : Int) ≤ o.toInt ∧ o.toInt < 2 ^ 31 - 2 ^ 11) (wh wl : BitVec 32) :
    Isa.uImm (spliceHi20 wh ((o + 0x800#64) &&& 0xfffff000#64)) +
      Isa.iImm (spliceLo12I wl ((o - ((o + 0x800#64) &&& 0xfffff000#64)).setWidth 32 &&&
        0xfff#32)) = o := by
  rw [uImm_spliceHi20, iImm_spliceLo12I, extractLsb'_hi20_mask, low12_and_fff (by decide),
    low12_setWidth (by decide), low12_sub (by decide) _ _ (low12_hi20_mask (by decide) _),
    hi20_add_lo12 _ h]

/-- The same with the S-type immediate of `PCREL_LO12_S`. -/
theorem uImm_add_sImm_split (o : BitVec 64)
    (h : -(2 ^ 31 + 2 ^ 11 : Int) ≤ o.toInt ∧ o.toInt < 2 ^ 31 - 2 ^ 11) (wh wl : BitVec 32) :
    Isa.uImm (spliceHi20 wh ((o + 0x800#64) &&& 0xfffff000#64)) +
      Isa.sImm (spliceLo12S wl ((o - ((o + 0x800#64) &&& 0xfffff000#64)).setWidth 32)) = o := by
  rw [uImm_spliceHi20, sImm_spliceLo12S, extractLsb'_hi20_mask, low12_setWidth (by decide),
    low12_sub (by decide) _ _ (low12_hi20_mask (by decide) _), hi20_add_lo12 _ h]

/-! ## `CALL` and `CALL_PLT` -/

/-- The auipc at `L` and the jalr at `L + 4` address `V`, and keep the bits their
immediates do not use. -/
def CallPatched (L V : BitVec 64) (m m' : Mem) : Prop :=
  L + Isa.uImm (m'.load L 32) + Isa.iImm (m'.load (L + 4#64) 32) = V ∧
    (∀ i < 12, (m'.load L 32).getLsbD i = (m.load L 32).getLsbD i) ∧
    ∀ i < 20, (m'.load (L + 4#64) 32).getLsbD i = (m.load (L + 4#64) 32).getLsbD i

theorem next_word_disjoint (L : BitVec 64) :
    ∀ x, InWindow (L + 4#64) (32 / 8) x → ¬ InWindow L (32 / 8) x := by
  intro x; simp only [InWindow]; bv_omega

theorem prev_word_disjoint (L : BitVec 64) :
    ∀ x, InWindow L (32 / 8) x → ¬ InWindow (L + 4#64) (32 / 8) x :=
  fun x hx hx' => next_word_disjoint L x hx' hx

theorem callPatched_of_valid (name : String) (L V : BitVec 64) (m : Mem)
    (h : riscvInsnValid32bitOffset (V - L) = true) :
    ∃ m', applyRRiscvCallPair name ⟨L⟩ V m = .ok () m' ∧ CallPatched L V m m' := by
  refine ⟨_, applyRRiscvCallPair_ok ⟨L⟩ V m name h, ?_⟩
  simp only [CallPatched, Ptr.add_addr, BitVec.ofNat_eq_ofNat, Mem.load_store, Nat.reduceMod,
    Nat.reduceLeDiff,
    Mem.load_store_of_disjoint _ _ (prev_word_disjoint L),
    Mem.load_store_of_disjoint _ _ (next_word_disjoint L)]
  have hr := (riscvInsnValid32bitOffset_iff _).1 h
  refine ⟨?_, fun i hi => ?_, fun i hi => ?_⟩
  · rw [uImm_spliceHi20, iImm_spliceLo12I, extractLsb'_hi20_mask, low12_setWidth (by decide),
      low12_and_fff (by decide), low12_sub (by decide) _ _ (low12_hi20_mask (by decide) _),
      add_assoc, hi20_add_lo12 _ hr]
    exact add_sub_cancel L V
  · exact getLsbD_spliceHi20_mask _ _ hi
  · exact getLsbD_spliceLo12I_low _ _ hi

/-- The offsets an auipc+jalr pair reaches: `imm20 << 12` plus a signed twelve-bit
`imm12` covers exactly `[-2^31 - 2^11, 2^31 - 2^11)`, modulo `2^64`. -/
theorem reachable_iff (L V : BitVec 64) :
    (∃ imm20 imm12 : Int, -2 ^ 19 ≤ imm20 ∧ imm20 < 2 ^ 19 ∧ -2 ^ 11 ≤ imm12 ∧ imm12 < 2 ^ 11 ∧
        L + BitVec.ofInt 64 (imm20 * 2 ^ 12 + imm12) = V) ↔
      -(2 ^ 31 + 2 ^ 11 : Int) ≤ (V - L).toInt ∧ (V - L).toInt < 2 ^ 31 - 2 ^ 11 := by
  constructor
  · rintro ⟨imm20, imm12, h1, h2, h3, h4, hV⟩
    have hs : (V - L).toInt = imm20 * 2 ^ 12 + imm12 := by
      rw [← hV, add_sub_cancel_left, BitVec.toInt_ofInt, bmod_of_small (by omega)]
    omega
  · intro h
    refine ⟨((V - L).toInt + 2 ^ 11) / 2 ^ 12,
      (V - L).toInt - ((V - L).toInt + 2 ^ 11) / 2 ^ 12 * 2 ^ 12, by omega, by omega, by omega,
      by omega, ?_⟩
    rw [add_sub_cancel, ofInt_toInt_64]
    exact add_sub_cancel L V

theorem callPair_ok_iff (name : String) (L V : BitVec 64) (m : Mem) :
    (∃ m', applyRRiscvCallPair name ⟨L⟩ V m = .ok () m') ↔
      -(2 ^ 31 + 2 ^ 11 : Int) ≤ (V - L).toInt ∧ (V - L).toInt < 2 ^ 31 - 2 ^ 11 := by
  rw [← riscvInsnValid32bitOffset_iff]
  cases hv : riscvInsnValid32bitOffset (V - L)
  · simp [applyRRiscvCallPair_err ⟨L⟩ V m name hv]
  · simp [applyRRiscvCallPair_ok ⟨L⟩ V m name hv]

/-- `CALL` and `CALL_PLT` return `Ok` exactly on the targets an auipc+jalr pair
reaches, and then the pair addresses the target and keeps the bits its immediates
do not use; on `Err` memory is as it was. -/
theorem call_relocations_reach_target (k : Riscv64RelocationType)
    (hk : k = .rRiscvCall ∨ k = .rRiscvCallPlt) (L V : BitVec 64) (m : Mem) :
    ((∃ m', k.applyRelocation L V m = .ok () m') ↔
      ∃ imm20 imm12 : Int, -2 ^ 19 ≤ imm20 ∧ imm20 < 2 ^ 19 ∧ -2 ^ 11 ≤ imm12 ∧ imm12 < 2 ^ 11 ∧
        L + BitVec.ofInt 64 (imm20 * 2 ^ 12 + imm12) = V) ∧
    ((∃ m', k.applyRelocation L V m = .ok () m') ↔
      -(2 ^ 31 + 2 ^ 11 : Int) ≤ (V - L).toInt ∧ (V - L).toInt < 2 ^ 31 - 2 ^ 11) ∧
    (∀ m', k.applyRelocation L V m = .ok () m' → CallPatched L V m m') ∧
    (∀ e m', k.applyRelocation L V m = .err e m' → m' = m) := by
  obtain ⟨name, hname⟩ : ∃ name, k.applyRelocation L V m = applyRRiscvCallPair name ⟨L⟩ V m := by
    rcases hk with rfl | rfl <;> exact ⟨_, rfl⟩
  rw [hname, reachable_iff, ← callPair_ok_iff name L V m]
  refine ⟨Iff.rfl, Iff.rfl, fun m' hm' => ?_, fun e m' he => ?_⟩
  · have hv := (riscvInsnValid32bitOffset_iff _).2 ((callPair_ok_iff name L V m).1 ⟨_, hm'⟩)
    obtain ⟨m'', hm'', hp⟩ := callPatched_of_valid name L V m hv
    rw [hm''] at hm'
    cases hm'
    exact hp
  · cases hv : riscvInsnValid32bitOffset (V - L)
    · rw [applyRRiscvCallPair_err ⟨L⟩ V m name hv] at he
      cases he
      rfl
    · rw [applyRRiscvCallPair_ok ⟨L⟩ V m name hv] at he
      cases he

theorem call_0x8000_to_0x9234 :
    ((∃ m', rRiscvCall.applyRelocation 0x8000 0x9234 (fun _ => 0) = .ok () m') ↔
      ∃ imm20 imm12 : Int, -2 ^ 19 ≤ imm20 ∧ imm20 < 2 ^ 19 ∧ -2 ^ 11 ≤ imm12 ∧ imm12 < 2 ^ 11 ∧
        0x8000 + BitVec.ofInt 64 (imm20 * 2 ^ 12 + imm12) = 0x9234) ∧
    ((∃ m', rRiscvCall.applyRelocation 0x8000 0x9234 (fun _ => 0) = .ok () m') ↔
      -(2 ^ 31 + 2 ^ 11 : Int) ≤ (0x9234 - 0x8000 : BitVec 64).toInt ∧
        (0x9234 - 0x8000 : BitVec 64).toInt < 2 ^ 31 - 2 ^ 11) ∧
    (∀ m', rRiscvCall.applyRelocation 0x8000 0x9234 (fun _ => 0) = .ok () m' →
      CallPatched 0x8000 0x9234 (fun _ => 0) m') ∧
    (∀ e m', rRiscvCall.applyRelocation 0x8000 0x9234 (fun _ => 0) = .err e m' → m' = fun _ => 0) :=
  call_relocations_reach_target .rRiscvCall (.inl rfl) 0x8000 0x9234 (fun _ => 0)

/-! ## The absolute `HI20` with `LO12_I` and `LO12_S` -/

/-- `apply_r_riscv_lo12_i_rela`'s `i32` residue keeps the low twelve bits of `V`. -/
theorem low12_lo12_i32 (V : BitVec 64) :
    (V.setWidth 32 - ((V.setWidth 32 + 0x800#32) &&& 0xfffff000#32)).extractLsb' 0 12 =
      V.extractLsb' 0 12 := by
  rw [low12_sub (by decide) _ _ (low12_hi20_mask (by decide) _), low12_setWidth (by decide)]

/-- For every `V` whose signed reading lies in `[-2^31 - 2^11, 2^31 - 2^11)`, `HI20`
and `LO12_I` (or `LO12_S`) applied with `V` leave immediates that add up to `V`
as signed integers, and keep every other bit of the words they patch. -/
theorem absolute_hi20_lo12_encode (Lu Li V : BitVec 64) (m : Mem)
    (hV : -(2 ^ 31 + 2 ^ 11 : Int) ≤ V.toInt ∧ V.toInt < 2 ^ 31 - 2 ^ 11) :
    ∃ mu mi ms, rRiscvHi20.applyRelocation Lu V m = .ok () mu ∧
      rRiscvLo12I.applyRelocation Li V m = .ok () mi ∧
      rRiscvLo12S.applyRelocation Li V m = .ok () ms ∧
      (Isa.uImm (mu.load Lu 32)).toInt + (Isa.iImm (mi.load Li 32)).toInt = V.toInt ∧
      (Isa.uImm (mu.load Lu 32)).toInt + (Isa.sImm (ms.load Li 32)).toInt = V.toInt ∧
      (∀ i < 12, (mu.load Lu 32).getLsbD i = (m.load Lu 32).getLsbD i) ∧
      (∀ i < 20, (mi.load Li 32).getLsbD i = (m.load Li 32).getLsbD i) ∧
      ∀ i < 32, ¬ Isa.bField i → (ms.load Li 32).getLsbD i = (m.load Li 32).getLsbD i := by
  refine ⟨_, _, _, rfl, rfl, rfl, ?_⟩
  simp only [Mem.load_store, Nat.reduceMod, Nat.reduceLeDiff]
  have hu : Isa.uImm (spliceHi20 (m.load Lu 32) ((V + 0x800#64) &&& 0xfffff000#64)) =
      ((V + 0x800#64).extractLsb' 12 20 ++ 0#12).signExtend 64 := by
    rw [uImm_spliceHi20, extractLsb'_hi20_mask]
  refine ⟨?_, ?_, fun i hi => ?_, fun i hi => ?_, fun i hi hf => ?_⟩
  · rw [hu, iImm_spliceLo12I, low12_and_fff (by decide), low12_lo12_i32, hi20_add_lo12_toInt _ hV]
  · rw [hu, sImm_spliceLo12S, low12_lo12_i32, hi20_add_lo12_toInt _ hV]
  · exact getLsbD_spliceHi20_mask _ _ hi
  · exact getLsbD_spliceLo12I_low _ _ hi
  · exact getLsbD_spliceLo12S_of_not_bField _ _ hi hf

theorem absolute_split_at_lower_edge :
    ∃ mu mi ms, rRiscvHi20.applyRelocation 0 (-0x80000800#64) (fun _ => 0) = .ok () mu ∧
      rRiscvLo12I.applyRelocation 4 (-0x80000800#64) (fun _ => 0) = .ok () mi ∧
      rRiscvLo12S.applyRelocation 4 (-0x80000800#64) (fun _ => 0) = .ok () ms ∧
      (Isa.uImm (mu.load 0 32)).toInt + (Isa.iImm (mi.load 4 32)).toInt = (-0x80000800#64).toInt ∧
      (Isa.uImm (mu.load 0 32)).toInt + (Isa.sImm (ms.load 4 32)).toInt = (-0x80000800#64).toInt ∧
      (∀ i < 12, (mu.load 0 32).getLsbD i = (Mem.load (fun _ => 0) 0 32).getLsbD i) ∧
      (∀ i < 20, (mi.load 4 32).getLsbD i = (Mem.load (fun _ => 0) 4 32).getLsbD i) ∧
      ∀ i < 32, ¬ Isa.bField i →
        (ms.load 4 32).getLsbD i = (Mem.load (fun _ => 0) 4 32).getLsbD i :=
  absolute_hi20_lo12_encode 0 4 (-0x80000800#64) (fun _ => 0) (by decide)

end Kmod
