import Mathlib.Data.List.Basic

/-!
# Module metadata: `str_to_array64` and `ModuleInfo::name`

`declare_module!` stores the module's name and version in `ModuleInfo` as `[u8; 64]` and
`[u8; 32]`. `str_to_array64` (`str_to_array32`) copies at most 63 (31) bytes of the string into
a zeroed array, so the field always ends in a NUL. `ModuleInfo::name` (`version`) reads the field
up to its first NUL and passes those bytes to `core::str::from_utf8`, or returns the text
`Invalid UTF-8` when they are not UTF-8.

A Rust `&str` is its bytes, which `from_utf8` has checked against UTF-8 (`runUtf8Validation`,
Unicode's Table 3-7); the copy is made byte by byte. A cut of a valid string is valid exactly at
a character boundary (`runUtf8Validation_take`). So a name without NUL comes back whole when it
has at most 63 bytes, cut to 63 bytes when byte 63 starts a character, and as the placeholder,
which is no prefix of it, when byte 63 lies inside a character (`nameStr_declareModule`,
`versionStr_declareModule`, `name_cut_inside_char`).
-/

namespace Kmod

/-! ## UTF-8 as `core::str::from_utf8` checks it -/

/-- `utf8_is_cont_byte`: a byte of `0x80..=0xBF`, which continues a character. -/
def isContByte (b : BitVec 8) : Bool := 0x80 ≤ b.toNat && b.toNat < 0xC0

/-- `utf8_char_width`: the length of the character a first byte starts, or `0` for a byte that
starts none. -/
def utf8CharWidth (b : BitVec 8) : Nat :=
  if b.toNat < 0x80 then 1
  else if b.toNat < 0xC2 then 0
  else if b.toNat < 0xE0 then 2
  else if b.toNat < 0xF0 then 3
  else if b.toNat < 0xF5 then 4
  else 0

/-- The second byte of a three-byte character: `(0xE0, 0xA0..=0xBF) | (0xE1..=0xEC,
0x80..=0xBF) | (0xED, 0x80..=0x9F) | (0xEE..=0xEF, 0x80..=0xBF)`. -/
def secondByteOk3 (first second : BitVec 8) : Bool :=
  let f := first.toNat
  let s := second.toNat
  (f == 0xE0 && 0xA0 ≤ s && s ≤ 0xBF) ||
    (0xE1 ≤ f && f ≤ 0xEC && 0x80 ≤ s && s ≤ 0xBF) ||
    (f == 0xED && 0x80 ≤ s && s ≤ 0x9F) ||
    (0xEE ≤ f && f ≤ 0xEF && 0x80 ≤ s && s ≤ 0xBF)

/-- The second byte of a four-byte character: `(0xF0, 0x90..=0xBF) | (0xF1..=0xF3,
0x80..=0xBF) | (0xF4, 0x80..=0x8F)`. -/
def secondByteOk4 (first second : BitVec 8) : Bool :=
  let f := first.toNat
  let s := second.toNat
  (f == 0xF0 && 0x90 ≤ s && s ≤ 0xBF) ||
    (0xF1 ≤ f && f ≤ 0xF3 && 0x80 ≤ s && s ≤ 0xBF) ||
    (f == 0xF4 && 0x80 ≤ s && s ≤ 0x8F)

/-- `run_utf8_validation`, one character at a time (its word-at-a-time ASCII path accepts the
same bytes): a first byte of width `w`, then `w - 1` continuation bytes, the second narrowed
after `E0`, `ED`, `F0` and `F4` as Unicode's Table 3-7 narrows it. -/
def runUtf8Validation : List (BitVec 8) → Bool
  | [] => true
  | first :: rest =>
    match utf8CharWidth first, rest with
    | 1, rest => runUtf8Validation rest
    | 2, b₁ :: rest => isContByte b₁ && runUtf8Validation rest
    | 3, b₁ :: b₂ :: rest =>
      secondByteOk3 first b₁ && isContByte b₂ && runUtf8Validation rest
    | 4, b₁ :: b₂ :: b₃ :: rest =>
      secondByteOk4 first b₁ && isContByte b₂ && isContByte b₃ && runUtf8Validation rest
    | _, _ => false

/-- `str::is_char_boundary` on the string's bytes. -/
def isCharBoundary (s : List (BitVec 8)) (index : Nat) : Bool :=
  if index = 0 then true
  else match s[index]? with
    | none => index == s.length
    | some b => !isContByte b

/-! ## Cutting a valid string -/

theorem isContByte_of_secondByteOk3 {f s : BitVec 8} (h : secondByteOk3 f s = true) :
    isContByte s = true := by
  simp only [secondByteOk3, isContByte, Bool.or_eq_true, Bool.and_eq_true, beq_iff_eq,
    decide_eq_true_eq] at h ⊢
  omega

theorem isContByte_of_secondByteOk4 {f s : BitVec 8} (h : secondByteOk4 f s = true) :
    isContByte s = true := by
  simp only [secondByteOk4, isContByte, Bool.or_eq_true, Bool.and_eq_true, beq_iff_eq,
    decide_eq_true_eq] at h ⊢
  omega

/-- A continuation byte starts no character. -/
theorem utf8CharWidth_of_isContByte {b : BitVec 8} (h : isContByte b = true) :
    utf8CharWidth b = 0 := by
  simp only [isContByte, Bool.and_eq_true, decide_eq_true_eq] at h
  rw [utf8CharWidth, if_neg (by omega), if_pos (by omega)]

/-- The bytes of a character of width `w` that a shorter list cannot hold. -/
theorem runUtf8Validation_short {b : BitVec 8} {l : List (BitVec 8)}
    (h : l.length + 1 < utf8CharWidth b) : runUtf8Validation (b :: l) = false := by
  unfold runUtf8Validation
  split <;> first | rfl | (simp only [List.length_cons, *] at h; omega)

theorem runUtf8Validation_width_zero {b : BitVec 8} {l : List (BitVec 8)}
    (h : utf8CharWidth b = 0) : runUtf8Validation (b :: l) = false := by
  unfold runUtf8Validation
  split <;> simp_all

section Widths

variable {b b₁ b₂ b₃ : BitVec 8} {l : List (BitVec 8)}

theorem runUtf8Validation_width_one (h : utf8CharWidth b = 1) :
    runUtf8Validation (b :: l) = runUtf8Validation l := by
  simp only [runUtf8Validation, h]

theorem runUtf8Validation_width_two (h : utf8CharWidth b = 2) :
    runUtf8Validation (b :: b₁ :: l) = (isContByte b₁ && runUtf8Validation l) := by
  simp only [runUtf8Validation, h]

theorem runUtf8Validation_width_three (h : utf8CharWidth b = 3) :
    runUtf8Validation (b :: b₁ :: b₂ :: l) =
      (secondByteOk3 b b₁ && isContByte b₂ && runUtf8Validation l) := by
  simp only [runUtf8Validation, h]

theorem runUtf8Validation_width_four (h : utf8CharWidth b = 4) :
    runUtf8Validation (b :: b₁ :: b₂ :: b₃ :: l) =
      (secondByteOk4 b b₁ && isContByte b₂ && isContByte b₃ && runUtf8Validation l) := by
  simp only [runUtf8Validation, h]

end Widths

/-- A valid string starts with a first byte, never with a continuation byte. -/
theorem not_isContByte_of_valid {b : BitVec 8} {l : List (BitVec 8)}
    (h : runUtf8Validation (b :: l) = true) : isContByte b = false := by
  cases hc : isContByte b
  · rfl
  · rw [runUtf8Validation_width_zero (utf8CharWidth_of_isContByte hc)] at h
    cases h

theorem isCharBoundary_zero (l : List (BitVec 8)) : isCharBoundary l 0 = true := rfl

theorem isCharBoundary_of_lt {l : List (BitVec 8)} {n : Nat} (h0 : n ≠ 0) (h : n < l.length) :
    isCharBoundary l n = !isContByte l[n] := by
  simp only [isCharBoundary, h0, if_false, List.getElem?_eq_getElem h]

theorem isCharBoundary_cons_add_two {b : BitVec 8} {l : List (BitVec 8)} {k : Nat} :
    isCharBoundary (b :: l) (k + 2) = isCharBoundary l (k + 1) := by
  simp [isCharBoundary]

/-- Past the first byte, a boundary of `b :: l` is one of `l`, as long as `l` does not start
with a continuation byte. -/
theorem isCharBoundary_cons_succ {b : BitVec 8} {l : List (BitVec 8)} {k : Nat}
    (h : runUtf8Validation l = true) : isCharBoundary (b :: l) (k + 1) = isCharBoundary l k := by
  rcases k with _ | k
  · rcases l with _ | ⟨c, l⟩
    · rfl
    · simp [isCharBoundary, not_isContByte_of_valid h]
  · exact isCharBoundary_cons_add_two

/-- A cut strictly inside the first character: the cut is too short to validate, and it ends
before a continuation byte, so not on a boundary either. -/
theorem runUtf8Validation_take_inside {b : BitVec 8} {l : List (BitVec 8)} {n : Nat}
    (h0 : n ≠ 0) (hw : n < utf8CharWidth b) (hn : n < (b :: l).length)
    (hc : isContByte (b :: l)[n] = true) :
    runUtf8Validation ((b :: l).take n) = isCharBoundary (b :: l) n := by
  obtain ⟨k, rfl⟩ : ∃ k, n = k + 1 := ⟨n - 1, by omega⟩
  rw [isCharBoundary_of_lt h0 hn, hc, List.take_succ_cons,
    runUtf8Validation_short (by simp only [List.length_take]; omega)]
  rfl

/-- A cut of a valid string is valid exactly when it falls on a character boundary. -/
theorem runUtf8Validation_take : ∀ {l : List (BitVec 8)}, runUtf8Validation l = true →
    ∀ {n : Nat}, n ≤ l.length → runUtf8Validation (l.take n) = isCharBoundary l n := by
  intro l
  induction l using runUtf8Validation.induct with
  | case1 => intro _ n hn; rw [List.length_nil, Nat.le_zero] at hn; subst hn; rfl
  | case2 first rest hw ih =>
    intro hl n hn
    rw [runUtf8Validation_width_one hw] at hl
    rcases n with _ | k
    · rfl
    · rw [List.take_succ_cons, runUtf8Validation_width_one hw, ih hl (by simpa using hn),
        isCharBoundary_cons_succ hl]
  | case3 first b₁ rest hw ih =>
    intro hl n hn
    rw [runUtf8Validation_width_two hw, Bool.and_eq_true] at hl
    rcases n with _ | _ | k
    · rfl
    · exact runUtf8Validation_take_inside (by omega) (by omega) (by simp) hl.1
    · rw [List.take_succ_cons, List.take_succ_cons, runUtf8Validation_width_two hw, hl.1,
        Bool.true_and, ih hl.2 (by simpa using hn), isCharBoundary_cons_add_two,
        isCharBoundary_cons_succ hl.2]
  | case4 first b₁ b₂ rest hw ih =>
    intro hl n hn
    rw [runUtf8Validation_width_three hw, Bool.and_eq_true, Bool.and_eq_true] at hl
    rcases n with _ | _ | _ | k
    · rfl
    · exact runUtf8Validation_take_inside (by omega) (by omega) (by simp)
        (isContByte_of_secondByteOk3 hl.1.1)
    · exact runUtf8Validation_take_inside (by omega) (by omega) (by simp) hl.1.2
    · rw [List.take_succ_cons, List.take_succ_cons, List.take_succ_cons,
        runUtf8Validation_width_three hw, hl.1.1, hl.1.2, Bool.true_and, Bool.true_and,
        ih hl.2 (by simpa using hn), isCharBoundary_cons_add_two, isCharBoundary_cons_add_two,
        isCharBoundary_cons_succ hl.2]
  | case5 first b₁ b₂ b₃ rest hw ih =>
    intro hl n hn
    rw [runUtf8Validation_width_four hw, Bool.and_eq_true, Bool.and_eq_true,
      Bool.and_eq_true] at hl
    rcases n with _ | _ | _ | _ | k
    · rfl
    · exact runUtf8Validation_take_inside (by omega) (by omega) (by simp)
        (isContByte_of_secondByteOk4 hl.1.1.1)
    · exact runUtf8Validation_take_inside (by omega) (by omega) (by simp) hl.1.1.2
    · exact runUtf8Validation_take_inside (by omega) (by omega) (by simp) hl.1.2
    · rw [List.take_succ_cons, List.take_succ_cons, List.take_succ_cons, List.take_succ_cons,
        runUtf8Validation_width_four hw, hl.1.1.1, hl.1.1.2, hl.1.2, Bool.true_and,
        Bool.true_and, Bool.true_and, ih hl.2 (by simpa using hn), isCharBoundary_cons_add_two,
        isCharBoundary_cons_add_two, isCharBoundary_cons_add_two, isCharBoundary_cons_succ hl.2]
  | case6 first rest h₁ h₂ h₃ h₄ =>
    intro hl
    exfalso
    unfold runUtf8Validation at hl
    split at hl
    · exact h₁ ‹_›
    · exact h₂ _ _ ‹_› rfl
    · exact h₃ _ _ _ ‹_› rfl
    · exact h₄ _ _ _ _ ‹_› rfl
    · cases hl

/-! ## Strings, fields and `ModuleInfo` -/

/-- A Rust `&str`: bytes that `from_utf8` accepts. -/
@[ext] structure RustStr where
  bytes : List (BitVec 8)
  valid : runUtf8Validation bytes = true

/-- `core::str::from_utf8`, its `Utf8Error` as `none`. -/
def fromUtf8 (v : List (BitVec 8)) : Option RustStr :=
  if h : runUtf8Validation v = true then some ⟨v, h⟩ else none

/-- The bytes of an ASCII text. -/
def asciiBytes (t : String) : List (BitVec 8) := t.toList.map fun c => BitVec.ofNat 8 c.toNat

/-- The placeholder `"Invalid UTF-8"`. -/
def invalidUtf8 : RustStr := ⟨asciiBytes "Invalid UTF-8", by decide⟩

/-- A Rust `[u8; n]`. -/
structure U8Array (n : Nat) where
  bytes : List (BitVec 8)
  length_eq : bytes.length = n

/-- `while i < bytes.len() && i < cap { array[i] = bytes[i]; i += 1; }`, from `i` on, for at
most `fuel` iterations. -/
def copyLoop (bytes : List (BitVec 8)) (cap : Nat) :
    Nat → List (BitVec 8) → Nat → List (BitVec 8)
  | 0, array, _ => array
  | fuel + 1, array, i =>
    if h : i < bytes.length ∧ i < cap then
      copyLoop bytes cap fuel (array.set i (bytes.get ⟨i, h.1⟩)) (i + 1)
    else array

theorem length_copyLoop (bytes : List (BitVec 8)) (cap : Nat) :
    ∀ fuel array i, (copyLoop bytes cap fuel array i).length = array.length
  | 0, _, _ => rfl
  | fuel + 1, array, i => by
    unfold copyLoop
    split
    · rw [length_copyLoop, List.length_set]
    · rfl

/-- `str_to_array64` and `str_to_array32`: a zeroed `[u8; n]`, then the copy loop, which stops
at the end of the string or at `cap`. -/
def strToArray (n cap : Nat) (s : RustStr) : U8Array n :=
  ⟨copyLoop s.bytes cap cap (List.replicate n 0) 0, by
    rw [length_copyLoop, List.length_replicate]⟩

/-- `str_to_array64`. -/
def strToArray64 (s : RustStr) : U8Array 64 := strToArray 64 63 s

/-- `str_to_array32`. -/
def strToArray32 (s : RustStr) : U8Array 32 := strToArray 32 31 s

/-! ## The copy loop -/

/-- The array after `i` iterations: the first `i` bytes, then zeros. -/
def copied (bytes : List (BitVec 8)) (n i : Nat) : List (BitVec 8) :=
  bytes.take i ++ List.replicate (n - i) 0

/-- One iteration: `array[i] = bytes[i]` extends the copied prefix by one byte. -/
theorem copied_set {bytes : List (BitVec 8)} {n i : Nat} (hi : i < bytes.length) (hn : i < n) :
    (copied bytes n i).set i (bytes.get ⟨i, hi⟩) = copied bytes n (i + 1) := by
  have hl : (bytes.take i).length = i := by simp; omega
  obtain ⟨k, hk⟩ : ∃ k, n - i = k + 1 := ⟨n - i - 1, by omega⟩
  rw [copied, hk, List.set_append_right _ _ (by omega), hl, Nat.sub_self, List.replicate_succ,
    List.set_cons_zero, copied, List.take_succ, List.getElem?_eq_getElem hi, Option.toList_some,
    List.append_assoc, List.singleton_append, show n - (i + 1) = k by omega]
  rfl

/-- The loop, run with enough fuel, copies `min bytes.length cap` bytes. -/
theorem copyLoop_copied {bytes : List (BitVec 8)} {n cap : Nat} (hcap : cap ≤ n) :
    ∀ fuel i, i ≤ min bytes.length cap → min bytes.length cap - i ≤ fuel →
      copyLoop bytes cap fuel (copied bytes n i) i = copied bytes n (min bytes.length cap)
  | 0, i, hi, hf => by rw [show i = min bytes.length cap by omega]; rfl
  | fuel + 1, i, hi, hf => by
    unfold copyLoop
    split
    · next h =>
      rw [copied_set h.1 (by omega), copyLoop_copied hcap fuel (i + 1) (by omega) (by omega)]
    · next h => rw [show i = min bytes.length cap by omega]

/-- The array `strToArray n cap s` holds the first `cap` bytes of `s`, then zeros. -/
theorem strToArray_bytes {n cap : Nat} (hcap : cap ≤ n) (s : RustStr) :
    (strToArray n cap s).bytes =
      s.bytes.take cap ++ List.replicate (n - min s.bytes.length cap) 0 := by
  have h : copyLoop s.bytes cap cap (copied s.bytes n 0) 0 = _ :=
    copyLoop_copied hcap cap 0 (Nat.zero_le _) (by omega)
  rw [show copied s.bytes n 0 = List.replicate n 0 by simp [copied]] at h
  show copyLoop s.bytes cap cap (List.replicate n 0) 0 = _
  rw [h, copied, Nat.min_comm, ← List.take_take, List.take_length]

/-- `ModuleInfo::name` and `ModuleInfo::version` on their field: the bytes up to the first NUL
(`position(|&c| c == 0).unwrap_or(len)`) through `from_utf8`, or `"Invalid UTF-8"`. -/
def decodeField (field : List (BitVec 8)) : RustStr :=
  let len := (field.findIdx? (· == 0)).getD field.length
  (fromUtf8 (field.take len)).getD invalidUtf8

/-- The fields of `ModuleInfo` that `name` and `version` read. -/
structure ModuleInfo where
  name : U8Array 64
  version : U8Array 32

/-- `ModuleInfo::name`. -/
def ModuleInfo.nameStr (self : ModuleInfo) : RustStr := decodeField self.name.bytes

/-- `ModuleInfo::version`. -/
def ModuleInfo.versionStr (self : ModuleInfo) : RustStr := decodeField self.version.bytes

/-- The `ModuleInfo` that `declare_module!(name, version, ..)` stores. -/
def declareModule (name version : RustStr) : ModuleInfo :=
  ⟨strToArray64 name, strToArray32 version⟩

/-! ## Reading a field back -/

/-- The first NUL of bytes without a NUL, then zeros, is right after the bytes. -/
theorem findIdx?_append_zeros {p : List (BitVec 8)} (hp : 0#8 ∉ p) {k : Nat} (hk : 0 < k) :
    (p ++ List.replicate k 0).findIdx? (· == 0) = some p.length := by
  induction p with
  | nil =>
    obtain ⟨k, rfl⟩ : ∃ j, k = j + 1 := ⟨k - 1, by omega⟩
    rfl
  | cons b p ih =>
    rw [List.mem_cons, not_or] at hp
    rw [List.cons_append, List.findIdx?_cons, List.findIdx?_succ, ih hp.2]
    simp [Ne.symm hp.1]

theorem decodeField_append_zeros {p : List (BitVec 8)} (hp : 0#8 ∉ p) {k : Nat} (hk : 0 < k) :
    decodeField (p ++ List.replicate k 0) = (fromUtf8 p).getD invalidUtf8 := by
  rw [decodeField, findIdx?_append_zeros hp hk, Option.getD_some, List.take_left]

/-- What `str_to_array` and the field decoder give back: the string's first `cap` bytes when
they end on a character boundary (in particular the whole string when it has at most `cap`
bytes), and the placeholder otherwise. -/
theorem decodeField_strToArray {n cap : Nat} (hcap : cap < n) (s : RustStr)
    (hs : 0#8 ∉ s.bytes) :
    (decodeField (strToArray n cap s).bytes).bytes =
      if s.bytes.length ≤ cap ∨ isCharBoundary s.bytes cap = true then s.bytes.take cap
      else invalidUtf8.bytes := by
  rw [strToArray_bytes hcap.le, decodeField_append_zeros (fun h => hs (List.mem_of_mem_take h))
    (by omega)]
  have hv : runUtf8Validation (s.bytes.take cap) =
      (decide (s.bytes.length ≤ cap) || isCharBoundary s.bytes cap) := by
    by_cases hl : s.bytes.length ≤ cap
    · rw [List.take_of_length_le hl, s.valid, decide_eq_true hl, Bool.true_or]
    · rw [runUtf8Validation_take s.valid (by omega), decide_eq_false hl, Bool.false_or]
  unfold fromUtf8
  split
  · next h => rw [if_pos (by simpa [hv] using h)]; rfl
  · next h => rw [if_neg (by simpa [hv] using h)]; rfl

/-- `name()` of a declared module: the name when it has at most 63 bytes, its first 63 bytes
when byte 63 starts a character, and the placeholder when byte 63 is inside one. -/
theorem nameStr_declareModule (name version : RustStr) (h : 0#8 ∉ name.bytes) :
    (declareModule name version).nameStr.bytes =
      if name.bytes.length ≤ 63 ∨ isCharBoundary name.bytes 63 = true then name.bytes.take 63
      else invalidUtf8.bytes :=
  decodeField_strToArray (by decide) name h

/-- `version()` of a declared module, with 31 for 63. -/
theorem versionStr_declareModule (name version : RustStr) (h : 0#8 ∉ version.bytes) :
    (declareModule name version).versionStr.bytes =
      if version.bytes.length ≤ 31 ∨ isCharBoundary version.bytes 31 = true then
        version.bytes.take 31
      else invalidUtf8.bytes :=
  decodeField_strToArray (by decide) version h

/-- A name and a version that fit their fields come back unchanged. -/
theorem declareModule_round_trip {name version : RustStr} (hn : 0#8 ∉ name.bytes)
    (hv : 0#8 ∉ version.bytes) (hln : name.bytes.length ≤ 63)
    (hlv : version.bytes.length ≤ 31) :
    (declareModule name version).nameStr = name ∧
      (declareModule name version).versionStr = version :=
  ⟨RustStr.ext (by
      rw [nameStr_declareModule _ _ hn, if_pos (.inl hln), List.take_of_length_le hln]),
    RustStr.ext (by rw [versionStr_declareModule _ _ hv, if_pos (.inl hlv),
      List.take_of_length_le hlv])⟩

/-- The name the `hello` module declares. -/
def helloName : RustStr := ⟨asciiBytes "hello", by decide⟩

/-- The version the `hello` module declares. -/
def helloVersion : RustStr := ⟨asciiBytes "1.0.0", by decide⟩

/-- `declare_module!("hello", "1.0.0", ..)` reads back as `hello`, version `1.0.0`. -/
theorem hello_module_round_trip :
    (declareModule helloName helloVersion).nameStr = helloName ∧
      (declareModule helloName helloVersion).versionStr = helloVersion :=
  @declareModule_round_trip helloName helloVersion (by decide) (by decide) (by decide) (by decide)

/-- 62 ASCII letters and `é` (`C3 A9`): byte 63 is the second byte of `é`. -/
def cutName : RustStr := ⟨List.replicate 62 0x61#8 ++ [0xc3#8, 0xa9#8], by decide⟩

/-- 30 ASCII letters and `é`: byte 31 is the second byte of `é`. -/
def cutVersion : RustStr := ⟨List.replicate 30 0x61#8 ++ [0xc3#8, 0xa9#8], by decide⟩

/-- A name whose 63-byte cut splits `é`, and a version whose 31-byte cut does, both read back
as the placeholder, which is a prefix of neither. -/
theorem name_cut_inside_char :
    0#8 ∉ cutName.bytes ∧ 0#8 ∉ cutVersion.bytes ∧
      (declareModule cutName cutVersion).nameStr = invalidUtf8 ∧
      (declareModule cutName cutVersion).versionStr = invalidUtf8 ∧
      ¬ invalidUtf8.bytes <+: cutName.bytes ∧ ¬ invalidUtf8.bytes <+: cutVersion.bytes := by
  have hn : 0#8 ∉ cutName.bytes := by decide
  have hv : 0#8 ∉ cutVersion.bytes := by decide
  refine ⟨hn, hv, RustStr.ext ?_, RustStr.ext ?_, by decide, by decide⟩
  · rw [nameStr_declareModule _ _ hn, if_neg (by decide)]
  · rw [versionStr_declareModule _ _ hv, if_neg (by decide)]

end Kmod
