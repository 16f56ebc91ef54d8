import LobsterOS.Acpi
import LobsterOS.Pci

/-! The MCFG table and `pci::init` of `pci.rs`, after `acpi::init`: what fills `DEVICES`. -/

namespace LobsterOS.Pci

open Elf (readLE)
open Fs (utf8Valid)
open Acpi (bytesAt sdtHeaderSize signature getLength getSignatureStr RSDT)

/-- `MCFGTable`: its header and its entries. -/
structure MCFGTable where
  header : Nat
  entries : List MCFGEntry
  deriving DecidableEq, Repr

/-- `size_of::<MCFGEntry>()`. -/
def mcfgEntrySize : Nat := 16

/-- The fields of the `MCFGEntry` at `addr` that the scan reads: `config_space` at offset 0,
`start_bus` at 10 and `end_bus` at 11. -/
def MCFGEntry.read (mem : Nat → UInt8) (addr : Nat) : MCFGEntry :=
  ⟨(readLE (bytesAt mem addr mcfgEntrySize) 0 8).toUInt64, mem (addr+10), mem (addr+11)⟩

/-- `MCFGTable::from_header(header)`: the entries after the header and its 8 reserved bytes. -/
def MCFGTable.fromHeader (mem : Nat → UInt8) (header : Nat) : Except Acpi.Panic MCFGTable := do
  let headerEndAddr ← checkedAdd 64 header sdtHeaderSize
  let entriesStartAddr ← checkedAdd 64 headerEndAddr 8
  let n ← checkedSub (getLength mem header) sdtHeaderSize
  let entryCount := (← checkedSub n 8) / mcfgEntrySize
  pure ⟨header, (List.range entryCount).map fun i =>
    MCFGEntry.read mem (entriesStartAddr+mcfgEntrySize*i)⟩

/-- `"MCFG"`. -/
def mcfgSignature : List UInt8 := [0x4D, 0x43, 0x46, 0x47]

/-- `get_mcfg()`, with the contents of the static `RSDT`: the first table signed `"MCFG"`. -/
def getMcfg (mem : Nat → UInt8) (rsdt : Option RSDT) : Except Acpi.Panic MCFGTable := do
  let some rsdt := rsdt | throw .unwrapNone
  let some mcfgHeader ← rsdt.tables.findM? (fun sdt => do
      return (← getSignatureStr mem sdt) == mcfgSignature)
    | throw (.expect "No MCFG found in RSDT")
  MCFGTable.fromHeader mem mcfgHeader

/-- The configuration space at `addr` as the scan reads it: `vendor_id` at offset 0 and
`header_type` at offset 14. -/
def configSpaces (mem : Nat → UInt8) (addr : Nat) : BaseConfigurationSpace :=
  ⟨(readLE (bytesAt mem addr 2) 0 2).toUInt16, mem (addr+14)⟩

/-- A panic of the scan, as a panic of the boot. -/
def Panic.lift : Panic → Acpi.Panic
  | .panic msg => .panic msg

/-- `pci::init(phys_offset)`, with the contents of the static `RSDT`: the devices it stores in
`DEVICES`. -/
def init (mem : Nat → UInt8) (rsdt : Option RSDT) (physOffset : UInt64) :
    Except Acpi.Panic (List Nat) := do
  let mcfg ← getMcfg mem rsdt
  -- `MCFG.get().unwrap()` in `enumerate_bus` sees the table `init_once` has just stored
  (enumerateBus (configSpaces mem) mcfg.entries physOffset).mapError Panic.lift

/-- The entries of the MCFG at `header`: one for each 16 bytes after the header and its
reserved field. -/
def mcfgEntries (mem : Nat → UInt8) (header : Nat) : List MCFGEntry :=
  (List.range ((getLength mem header - sdtHeaderSize - 8)/mcfgEntrySize)).map fun i =>
    MCFGEntry.read mem (header+sdtHeaderSize+8+mcfgEntrySize*i)

/-- `MCFGTable::from_header` fails only on a table too short for its header and reserved
field: either subtraction then overflows, with the same message. -/
theorem MCFGTable.fromHeader_eq {mem : Nat → UInt8} {header : Nat}
    (hh : header + sdtHeaderSize + 8 < 2^64) :
    MCFGTable.fromHeader mem header =
      if sdtHeaderSize + 8 ≤ getLength mem header then .ok ⟨header, mcfgEntries mem header⟩
      else .error (.panic "attempt to subtract with overflow") := by
  have hend : (checkedAdd 64 header sdtHeaderSize : Except Acpi.Panic Nat) =
      .ok (header + sdtHeaderSize) :=
    checkedAdd_of_lt (by omega)
  have hstart : (checkedAdd 64 (header + sdtHeaderSize) 8 : Except Acpi.Panic Nat) =
      .ok (header + sdtHeaderSize + 8) :=
    checkedAdd_of_lt hh
  by_cases hlen : sdtHeaderSize + 8 ≤ getLength mem header
  · simp only [MCFGTable.fromHeader, hend, hstart, bind, Except.bind,
      checkedSub_of_le (show sdtHeaderSize ≤ getLength mem header by omega),
      checkedSub_of_le (show 8 ≤ getLength mem header - sdtHeaderSize by omega),
      if_pos hlen, pure, Except.pure, mcfgEntries]
  · rw [if_neg hlen]
    -- either subtraction can be the one that overflows
    by_cases hshort : getLength mem header < sdtHeaderSize
    · simp only [MCFGTable.fromHeader, hend, hstart, bind, Except.bind,
        checkedSub_of_lt hshort, Acpi.panicMsg_panic]
    · simp only [MCFGTable.fromHeader, hend, hstart, bind, Except.bind,
        checkedSub_of_le (show sdtHeaderSize ≤ getLength mem header by omega),
        checkedSub_of_lt (show getLength mem header - sdtHeaderSize < 8 by omega),
        Acpi.panicMsg_panic]

end LobsterOS.Pci
