import Kmod.Memory
import Kmod.Arch
import Kmod.Riscv64
import Kmod.Relocate
import Kmod.Isa
import Kmod.Splice
import Kmod.HiLo
import Kmod.Jumps
import Kmod.Footprint
import Kmod.LabelArith
import Kmod.Records
import Kmod.Run
import Kmod.Reorder
import Kmod.Pairing
import Kmod.Panics
import Kmod.Overflow
import Kmod.DebugDriver
import Kmod.ModuleInfo
import Kmod.Overwrite
import Kmod.Locality
