import Kmod.Relocate

/-!
# The `Elf64_Rela` byte format

`from_raw_rela` reads a relocation section as consecutive 24-byte records, each three
little-endian 64-bit fields (`r_offset`, `r_info`, `r_addend`). This file writes records back
to bytes the way the object file stores them and proves that the reader returns exactly the
records written (`fromRawRela_toBytes`), so every list of records is the parse of some
section, and the loop results quantify over all of them. Conversely, the records read from a
section, written back, are its bytes up to the last whole record (`relasToBytes_fromRawRela`).
-/

namespace Kmod

/-- The `n` little-endian bytes of `v`. -/
def leBytesOf (v : Nat) : Nat → List (BitVec 8)
  | 0 => []
  | n + 1 => BitVec.ofNat 8 v :: leBytesOf (v / 256) n

@[simp] theorem length_leBytesOf (v n : Nat) : (leBytesOf v n).length = n := by
  induction n generalizing v with
  | zero => rfl
  | succ n ih => simp [leBytesOf, ih]

theorem leBytes_leBytesOf (v n : Nat) : leBytes (leBytesOf v n) = v % 256 ^ n := by
  induction n generalizing v with
  | zero => simp [leBytesOf, leBytes, Nat.mod_one]
  | succ n ih => rw [leBytesOf, leBytes, ih, BitVec.toNat_ofNat, pow_succ' 256, Nat.mod_mul]

/-- A 64-bit field as the object file stores it. -/
def u64Bytes (v : BitVec 64) : List (BitVec 8) := leBytesOf v.toNat 8

theorem leBytes_u64Bytes (v : BitVec 64) : BitVec.ofNat 64 (leBytes (u64Bytes v)) = v := by
  rw [u64Bytes, leBytes_leBytesOf, show (256 : Nat) ^ 8 = 2 ^ 64 by norm_num,
    Nat.mod_eq_of_lt v.isLt, BitVec.ofNat_toNat, BitVec.setWidth_eq]

theorem leBytes_lt (l : List (BitVec 8)) : leBytes l < 256 ^ l.length := by
  induction l with
  | nil => simp [leBytes]
  | cons b l ih =>
    have := b.isLt
    simp only [leBytes, List.length_cons, pow_succ]
    omega

/-- Writing back the number a list of bytes spells gives the bytes. -/
theorem leBytesOf_leBytes (l : List (BitVec 8)) : leBytesOf (leBytes l) l.length = l := by
  induction l with
  | nil => rfl
  | cons b l ih =>
    have hb := b.isLt
    rw [List.length_cons, leBytesOf, leBytes,
      show (b.toNat + 256 * leBytes l) / 256 = leBytes l by omega, ih]
    congr 1
    apply BitVec.eq_of_toNat_eq
    rw [BitVec.toNat_ofNat]
    omega

theorem u64Bytes_leBytes {l : List (BitVec 8)} (h : l.length = 8) :
    u64Bytes (BitVec.ofNat 64 (leBytes l)) = l := by
  have hl := leBytes_lt l
  rw [h] at hl
  rw [u64Bytes, BitVec.toNat_ofNat, Nat.mod_eq_of_lt (by simpa using hl)]
  simpa only [h] using leBytesOf_leBytes l

/-- One record's 24 bytes. -/
def Elf64Rela.toBytes (r : Elf64Rela) : List (BitVec 8) :=
  u64Bytes r.rOffset ++ u64Bytes r.rInfo ++ u64Bytes r.rAddend

@[simp] theorem Elf64Rela.length_toBytes (r : Elf64Rela) : r.toBytes.length = 24 := by
  simp [Elf64Rela.toBytes, u64Bytes]

theorem Elf64Rela.ofBytes_toBytes (r : Elf64Rela) : Elf64Rela.ofBytes r.toBytes = r := by
  have h8 : ∀ v, (u64Bytes v).length = 8 := fun v => length_leBytesOf _ _
  have h16 : ∀ l : List (BitVec 8), l.drop 16 = (l.drop 8).drop 8 := fun l => by
    rw [List.drop_drop]
  simp only [Elf64Rela.ofBytes, Elf64Rela.toBytes, List.append_assoc, h16, List.drop_left' (h8 _),
    List.take_left' (h8 _), List.take_of_length_le (le_of_eq (h8 _)), leBytes_u64Bytes]

/-- Twenty-four bytes read as a record and written back are the same bytes. -/
theorem Elf64Rela.toBytes_ofBytes {bs : List (BitVec 8)} (h : bs.length = 24) :
    (Elf64Rela.ofBytes bs).toBytes = bs := by
  have h8 : ∀ j, j + 8 ≤ bs.length → ((bs.drop j).take 8).length = 8 := fun j hj => by
    simp; omega
  rw [Elf64Rela.toBytes, Elf64Rela.ofBytes]
  dsimp only
  rw [u64Bytes_leBytes (by simpa using h8 0 (by omega)), u64Bytes_leBytes (h8 8 (by omega)),
    u64Bytes_leBytes (h8 16 (by omega)), ← List.take_add, show (16 : Nat) = 8 + 8 from rfl,
    ← List.take_add, List.take_of_length_le (by omega)]

/-- A section of records as the object file stores it. -/
def relasToBytes (rs : List Elf64Rela) : List (BitVec 8) := rs.flatMap Elf64Rela.toBytes

theorem relasOfBytes_relasToBytes (rs : List Elf64Rela) :
    relasOfBytes (relasToBytes rs) rs.length = rs := by
  induction rs with
  | nil => rfl
  | cons r rs ih =>
    simp only [relasToBytes, List.flatMap_cons, List.length_cons, relasOfBytes] at ih ⊢
    rw [List.take_left' r.length_toBytes, List.drop_left' r.length_toBytes, ih,
      Elf64Rela.ofBytes_toBytes]

/-- Reading back a written section returns its records. -/
theorem fromRawRela_toBytes (rs : List Elf64Rela) :
    fromRawRela (relasToBytes rs) (24 * rs.length) = rs := by
  rw [fromRawRela, Nat.mul_div_cancel_left _ (by decide), relasOfBytes_relasToBytes]

/-- `count` records read from at least `24 * count` bytes, written back, are those bytes. -/
theorem relasToBytes_relasOfBytes {buf : List (BitVec 8)} {count : Nat}
    (h : 24 * count ≤ buf.length) : relasToBytes (relasOfBytes buf count) = buf.take (24 * count) := by
  induction count generalizing buf with
  | zero => rfl
  | succ count ih =>
    rw [relasOfBytes, relasToBytes, List.flatMap_cons, ← relasToBytes,
      Elf64Rela.toBytes_ofBytes (by simp; omega), ih (by simp; omega), ← List.take_add]
    congr 1
    omega

/-- `from_raw_rela` loses nothing but a trailing partial record: the records it reads from a
section of `size` bytes, written back, are the section's first `24 * (size / 24)` bytes. -/
theorem relasToBytes_fromRawRela (buf : List (BitVec 8)) {size : Nat} (h : size ≤ buf.length) :
    relasToBytes (fromRawRela buf size) = buf.take (24 * (size / 24)) :=
  relasToBytes_relasOfBytes (by omega)

end Kmod
