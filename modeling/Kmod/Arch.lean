import Kmod.Memory

/-!
# The architecture-independent layer (`arch/mod.rs`)

`Ptr` with its raw reads and writes, the two `r_info` field extractors, and the
effect every relocation routine runs in. The Rust functions return
`Result<()>` and write module memory in place, so a failed call still leaves
whatever it wrote behind; a panic (`unimplemented!`, an index out of bounds)
ends the load altogether. `RelocM` is therefore a state monad over `Mem` with
two ways out: `err` keeps the memory as it stood at the failure, `panic`
keeps nothing.

Integer arithmetic is the release build's: `+` and `-` wrap, and
`debug_assert!` is compiled out. `Kmod.Overflow` says where a debug build
would panic instead.
-/

namespace Kmod

/-- `ModuleErr`: the one variant the relocation code raises. -/
inductive ModuleErr where
  | relocationFailed (msg : String)
  deriving DecidableEq, Repr

/-- How a relocation routine ends. -/
inductive Outcome (α : Type) where
  | ok (a : α) (m : Mem)
  | err (e : ModuleErr) (m : Mem)
  | panic (msg : String)

/-- A routine that reads and writes module memory and may fail or panic. -/
def RelocM (α : Type) : Type := Mem → Outcome α

namespace RelocM

instance : Monad RelocM where
  pure a m := .ok a m
  bind x f m := match x m with
    | .ok a m' => f a m'
    | .err e m' => .err e m'
    | .panic s => .panic s

@[simp] theorem pure_apply {α : Type} (a : α) (m : Mem) : (pure a : RelocM α) m = .ok a m := rfl

@[simp] theorem bind_apply {α β : Type} (x : RelocM α) (f : α → RelocM β) (m : Mem) :
    (x >>= f) m = match x m with
      | .ok a m' => f a m'
      | .err e m' => .err e m'
      | .panic s => .panic s := rfl

/-- `return Err(e)`. -/
def fail {α : Type} (e : ModuleErr) : RelocM α := fun m => .err e m

/-- A Rust panic with its message. -/
def panic {α : Type} (msg : String) : RelocM α := fun _ => .panic msg

@[simp] theorem fail_apply {α : Type} (e : ModuleErr) (m : Mem) :
    (fail e : RelocM α) m = .err e m := rfl

@[simp] theorem panic_apply {α : Type} (msg : String) (m : Mem) :
    (panic msg : RelocM α) m = .panic msg := rfl

/-- `unimplemented!(msg)`. -/
def unimplemented {α : Type} (msg : String) : RelocM α := panic ("not implemented: " ++ msg)

end RelocM

/-! ## Computations that do not touch memory

The relocation driver looks up section headers and symbols, decodes the kind and
searches for a partner entry before it touches memory. Those steps are plain
functions into `Except Fault`, lifted into `RelocM` by `RelocM.lift`. -/

/-- A way out of a relocation routine other than returning. -/
inductive Fault where
  | err (e : ModuleErr)
  | panic (msg : String)
  deriving DecidableEq, Repr

/-- A `do` block over `Except` succeeds exactly when each of its steps does. -/
theorem Except.bind_eq_ok {ε α β : Type} {x : Except ε α} {f : α → Except ε β} {b : β} :
    x >>= f = .ok b ↔ ∃ a, x = .ok a ∧ f a = .ok b := by
  cases x <;> simp [bind, Except.bind]

/-- `xs[i]` on a slice: the element, or Rust's out-of-bounds panic. -/
def index {α : Type} (xs : List α) (i : Nat) : Except Fault α :=
  match xs[i]? with
  | some a => pure a
  | none => throw (.panic ("index out of bounds: the len is " ++ toString xs.length ++
      " but the index is " ++ toString i))

/-- `&xs[a..b]`: the bytes from `a` up to `b`, or the slice-index panic. -/
def slice {α : Type} (xs : List α) (a b : Nat) : Except Fault (List α) :=
  if a > b then
    throw (.panic ("slice index starts at " ++ toString a ++ " but ends at " ++ toString b))
  else if b > xs.length then
    throw (.panic ("range end index " ++ toString b ++ " out of range for slice of length " ++
      toString xs.length))
  else
    pure ((xs.drop a).take (b - a))

namespace RelocM

/-- Run a computation that does not touch memory. -/
def lift {α : Type} : Except Fault α → RelocM α
  | .ok a => pure a
  | .error (.err e) => fail e
  | .error (.panic s) => panic s

@[simp] theorem lift_ok {α : Type} (a : α) : lift (.ok a) = pure a := rfl

end RelocM

/-! ## Raw pointers -/

/-- `struct Ptr(u64)`. -/
structure Ptr where
  addr : BitVec 64

namespace Ptr

/-- `Ptr::read::<T>` for a `w`-bit integer `T`. -/
def read (p : Ptr) (w : Nat) : RelocM (BitVec w) := fun m => .ok (m.load p.addr w) m

/-- `Ptr::write::<T>` for a `w`-bit integer `T`. -/
def write {w : Nat} (p : Ptr) (v : BitVec w) : RelocM Unit := fun m => .ok () (m.store p.addr v)

/-- `Ptr::add`: `Ptr(self.0 + offset as u64)`. -/
def add (p : Ptr) (offset : Nat) : Ptr := ⟨p.addr + BitVec.ofNat 64 offset⟩

@[simp] theorem read_apply (p : Ptr) (w : Nat) (m : Mem) : p.read w m = .ok (m.load p.addr w) m := rfl

@[simp] theorem write_apply {w : Nat} (p : Ptr) (v : BitVec w) (m : Mem) :
    p.write v m = .ok () (m.store p.addr v) := rfl

@[simp] theorem add_addr (p : Ptr) (offset : Nat) : (p.add offset).addr = p.addr + BitVec.ofNat 64 offset :=
  rfl

end Ptr

/-! ## Formatting used in error messages -/

/-- Lowercase hexadecimal digits of `n` (`{:x}`). -/
def hexDigits (n : Nat) : String := String.mk (Nat.toDigits 16 n)

/-- `{:016x}` of a `u64`. -/
def fmtHex016 (v : BitVec 64) : String :=
  let s := hexDigits v.toNat
  "".pushn '0' (16 - s.length) ++ s

/-- `{:p}` of `location.as_ptr::<u32>()`. -/
def Ptr.fmt (p : Ptr) : String := "0x" ++ hexDigits p.addr.toNat

/-! ## `r_info` fields -/

/-- `get_rela_type`: the low 32 bits of `r_info`. -/
def getRelaType (rInfo : BitVec 64) : BitVec 32 := (rInfo &&& 0xffffffff#64).setWidth 32

/-- `get_rela_sym_idx`: the high 32 bits of `r_info`, as a `usize`. -/
def getRelaSymIdx (rInfo : BitVec 64) : Nat := (rInfo >>> 32).toNat

end Kmod
