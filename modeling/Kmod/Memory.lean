import Mathlib.Logic.Function.Basic
import Mathlib.Tactic.Ring

/-!
# Byte-addressed module memory

The loader patches module memory through raw pointers (`Ptr::read::<T>` and
`Ptr::write::<T>` in `arch/mod.rs`), one little-endian 2-, 4- or 8-byte word at
a time. The model is a total map from 64-bit addresses to bytes; a `w`-bit
access at `a` touches the `w / 8` bytes `a, a + 1, …` with the address
arithmetic wrapping, so every access is defined and a window never needs a
side condition to stay inside the address space.

Reads and writes are recursions on the byte count (`readLE`, `writeLE`), and
everything later proofs need about them is here, once: a write leaves the bytes
outside its window alone (`writeLE_of_not_inWindow`), writes inside its window
bytes that do not depend on the old memory (`writeLE_of_inWindow`), and reading
back what was written returns it (`Mem.load_store`).
-/

namespace Kmod

/-- Module memory: one byte per 64-bit address. -/
abbrev Mem := BitVec 64 → BitVec 8

/-! ## Windows -/

/-- `x` is one of the `n` bytes starting at `a`, counting modulo `2^64`. -/
def InWindow (a : BitVec 64) (n : Nat) (x : BitVec 64) : Prop := (x - a).toNat < n

instance (a : BitVec 64) (n : Nat) (x : BitVec 64) : Decidable (InWindow a n x) :=
  inferInstanceAs (Decidable (_ < _))

theorem not_inWindow_zero (a x : BitVec 64) : ¬ InWindow a 0 x := by
  simp [InWindow]

theorem inWindow_self {a : BitVec 64} {n : Nat} (hn : 0 < n) : InWindow a n a := by
  simpa [InWindow] using hn

/-- Peeling the first byte off a window. -/
theorem inWindow_succ {a x : BitVec 64} {n : Nat} :
    InWindow a (n + 1) x ↔ x = a ∨ InWindow (a + 1) n x := by
  simp only [InWindow]
  bv_omega

theorem inWindow_mono {a x : BitVec 64} {n k : Nat} (h : InWindow a n x) (hnk : n ≤ k) :
    InWindow a k x :=
  Nat.lt_of_lt_of_le h hnk

/-- A window of `n + k` bytes is a window of `n` followed by one of `k`. -/
theorem inWindow_add {a x : BitVec 64} {n k : Nat} (hn : n < 2 ^ 64) :
    InWindow a (n + k) x ↔ InWindow a n x ∨ InWindow (a + BitVec.ofNat 64 n) k x := by
  simp only [InWindow, BitVec.toNat_sub, BitVec.toNat_add, BitVec.toNat_ofNat]
  have := x.isLt; have := a.isLt
  rw [Nat.mod_eq_of_lt hn]
  omega

/-! ## Little-endian reads and writes -/

/-- The little-endian number spelled by the `n` bytes at `a, a + 1, …`. -/
def readLE (m : Mem) (a : BitVec 64) : Nat → Nat
  | 0 => 0
  | n + 1 => (m a).toNat + 256 * readLE m (a + 1) n

/-- Store the low `n` bytes of `v` little-endian at `a, a + 1, …`. -/
def writeLE (m : Mem) (a : BitVec 64) (v : Nat) : Nat → Mem
  | 0 => m
  | n + 1 => writeLE (Function.update m a (BitVec.ofNat 8 v)) (a + 1) (v / 256) n

theorem readLE_congr {m m' : Mem} {a : BitVec 64} {n : Nat}
    (h : ∀ x, InWindow a n x → m x = m' x) : readLE m a n = readLE m' a n := by
  induction n generalizing a with
  | zero => rfl
  | succ n ih =>
    simp only [readLE]
    rw [h a (inWindow_succ.2 (.inl rfl)), ih fun x hx => h x (inWindow_succ.2 (.inr hx))]

theorem readLE_lt (m : Mem) (a : BitVec 64) (n : Nat) : readLE m a n < 256 ^ n := by
  induction n generalizing a with
  | zero => simp [readLE]
  | succ n ih =>
    have h1 := (m a).isLt
    have h2 := ih (a + 1)
    simp only [readLE, pow_succ]
    omega

/-- A write leaves every byte outside its window alone. -/
theorem writeLE_of_not_inWindow {m : Mem} {a x : BitVec 64} {v n : Nat}
    (hx : ¬ InWindow a n x) : writeLE m a v n x = m x := by
  induction n generalizing m a v with
  | zero => rfl
  | succ n ih =>
    rw [inWindow_succ, not_or] at hx
    simp only [writeLE]
    rw [ih hx.2, Function.update_noteq hx.1]

/-- Inside its window, what a write leaves does not depend on the memory before. -/
theorem writeLE_of_inWindow {m m' : Mem} {a x : BitVec 64} {v n : Nat}
    (hx : InWindow a n x) : writeLE m a v n x = writeLE m' a v n x := by
  induction n generalizing m m' a v with
  | zero => exact absurd hx (not_inWindow_zero a x)
  | succ n ih =>
    simp only [writeLE]
    by_cases hw : InWindow (a + 1) n x
    · exact ih hw
    · have hxa : x = a := (inWindow_succ.1 hx).resolve_right hw
      rw [writeLE_of_not_inWindow hw, writeLE_of_not_inWindow hw, hxa,
        Function.update_same, Function.update_same]

/-- Bit `i` of byte `k` of a little-endian read is bit `i` of the byte at `a + k`. -/
theorem testBit_readLE (m : Mem) (a : BitVec 64) {n k i : Nat} (hk : k < n) (hi : i < 8) :
    (readLE m a n).testBit (8 * k + i) = (m (a + BitVec.ofNat 64 k)).getLsbD i := by
  induction n generalizing a k with
  | zero => omega
  | succ n ih =>
    have hb := (m a).isLt
    rw [readLE, Nat.add_comm, show (256 : Nat) = 2 ^ 8 from rfl, Nat.testBit_mul_pow_two_add _ hb]
    rcases k with _ | k
    · simp [hi, BitVec.getLsbD]
    · rw [if_neg (by omega), show 8 * (k + 1) + i - 8 = 8 * k + i by omega, ih _ (by omega)]
      congr 2
      bv_omega

/-- Inside its window, a write leaves byte `x - a` of the value. -/
theorem writeLE_apply {m : Mem} {a x : BitVec 64} {v n : Nat} (hn : n < 2 ^ 64)
    (hx : InWindow a n x) : writeLE m a v n x = BitVec.ofNat 8 (v / 256 ^ (x - a).toNat) := by
  induction n generalizing m a v with
  | zero => exact absurd hx (not_inWindow_zero a x)
  | succ n ih =>
    simp only [writeLE]
    by_cases hw : InWindow (a + 1) n x
    · rw [ih (by omega) hw, Nat.div_div_eq_div_mul, ← pow_succ']
      congr 3
      simp only [InWindow] at hx hw
      bv_omega
    · have hxa : x = a := (inWindow_succ.1 hx).resolve_right hw
      subst hxa
      rw [writeLE_of_not_inWindow hw, Function.update_same, BitVec.sub_self]
      simp

theorem readLE_writeLE (m : Mem) (a : BitVec 64) (v : Nat) {n : Nat} (hn : n < 2 ^ 64) :
    readLE (writeLE m a v n) a n = v % 256 ^ n := by
  induction n generalizing m a v with
  | zero => simp [readLE, writeLE, Nat.mod_one]
  | succ n ih =>
    have ha : ¬ InWindow (a + 1) n a := by
      simp only [InWindow]
      bv_omega
    simp only [readLE, writeLE]
    rw [writeLE_of_not_inWindow ha, Function.update_same, ih _ _ _ (by omega), pow_succ',
      Nat.mod_mul, BitVec.toNat_ofNat]

/-! ## Typed accesses -/

/-- The `w`-bit little-endian value at `a` (`Ptr::read::<uW>`). -/
def Mem.load (m : Mem) (a : BitVec 64) (w : Nat) : BitVec w :=
  BitVec.ofNat w (readLE m a (w / 8))

/-- Store `v` little-endian at `a` (`Ptr::write::<uW>`). -/
def Mem.store {w : Nat} (m : Mem) (a : BitVec 64) (v : BitVec w) : Mem :=
  writeLE m a v.toNat (w / 8)

theorem Mem.load_congr {m m' : Mem} {a : BitVec 64} {w : Nat}
    (h : ∀ x, InWindow a (w / 8) x → m x = m' x) : m.load a w = m'.load a w := by
  rw [Mem.load, Mem.load, readLE_congr h]

theorem Mem.store_of_not_inWindow {w : Nat} {m : Mem} {a x : BitVec 64} {v : BitVec w}
    (hx : ¬ InWindow a (w / 8) x) : m.store a v x = m x :=
  writeLE_of_not_inWindow hx

theorem Mem.store_of_inWindow {w : Nat} {m m' : Mem} {a x : BitVec 64} {v : BitVec w}
    (hx : InWindow a (w / 8) x) : m.store a v x = m'.store a v x :=
  writeLE_of_inWindow hx

/-- Reading back a stored word returns it, for every whole-byte width. -/
@[simp] theorem Mem.load_store {w : Nat} (m : Mem) (a : BitVec 64) (v : BitVec w)
    (hw : w % 8 = 0 := by decide) (hw' : w ≤ 64 := by decide) : (m.store a v).load a w = v := by
  have h256 : 256 ^ (w / 8) = 2 ^ w := by
    rw [show (256 : Nat) = 2 ^ 8 from rfl, ← pow_mul, Nat.mul_div_cancel' (Nat.dvd_of_mod_eq_zero hw)]
  rw [Mem.load, Mem.store, readLE_writeLE _ _ _ (by omega), h256, Nat.mod_eq_of_lt v.isLt,
    BitVec.ofNat_toNat, BitVec.setWidth_eq]

/-- A load is blind to a store into a window it does not share a byte with. -/
theorem Mem.load_store_of_disjoint {w w' : Nat} (m : Mem) {a b : BitVec 64} (v : BitVec w')
    (h : ∀ x, InWindow b (w / 8) x → ¬ InWindow a (w' / 8) x) :
    (m.store a v).load b w = m.load b w :=
  Mem.load_congr fun x hx => Mem.store_of_not_inWindow (h x hx)

end Kmod
