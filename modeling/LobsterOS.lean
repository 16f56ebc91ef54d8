import LobsterOS.Loop
import LobsterOS.Scheduler
import LobsterOS.SchedulerSwap
import LobsterOS.SchedulerInvariant
import LobsterOS.Executor
import LobsterOS.ExecutorSafety
import LobsterOS.Memory
import LobsterOS.Keyboard
import LobsterOS.KeyboardSafety
import LobsterOS.Elf
import LobsterOS.ElfLoad
import LobsterOS.ElfCopy
import LobsterOS.FixedBlock
import LobsterOS.FixedBlockSafety
import LobsterOS.Paging
import LobsterOS.PagingMapTo
import LobsterOS.Process
import LobsterOS.ProcessSpawn
import LobsterOS.ProcessStale
import LobsterOS.Fat
import LobsterOS.FatDirectory
import LobsterOS.FatFile
import LobsterOS.Vga
import LobsterOS.VgaLayout
import LobsterOS.Pci
import LobsterOS.Disk
import LobsterOS.Acpi
import LobsterOS.PciInit
import LobsterOS.Syscall
import LobsterOS.SchedulerFairness
import LobsterOS.DiskTransfer
