import LobsterOS.Acpi
import LobsterOS.Disk

/-! The transfers `read_sectors` and `write_sectors` of `disk.rs`: one command slot programmed,
issued and polled, with the drive's register values as inputs. -/

namespace LobsterOS.Disk

open Fs (DiskAccessError sectorSize)
open Elf (readLE leBytes readLE_leBytes)
open Acpi (bytesAt)

instance : PanicMsg Panic := ⟨.panic⟩

@[simp] theorem panicMsg_panic (msg : String) : (PanicMsg.panic msg : Panic) = .panic msg := rfl

/-! ### Bit fields and bytes -/

/-- What a `#[bitfield]` setter leaves in `x` when it stores `value` in the field of `bits`
bits at `offset`: `x & !(mask << offset) | (value & mask) << offset`, as arithmetic. -/
def withBits (x offset bits value : Nat) : Nat :=
  x % 2^offset + 2^offset * (value % 2^bits + 2^bits * (x / 2^offset / 2^bits))

/-- The field of `bits` bits at `offset` of `x`. -/
def getBits (x offset bits : Nat) : Nat := x / 2^offset % 2^bits

/-- A setter in a debug build, where it asserts that the value fits its field. -/
def withBitsChecked (x offset bits value : Nat) : Except Panic Nat :=
  if value < 2^bits then .ok (withBits x offset bits value)
  else .error (.panic "value out of bounds")

/-! ### The command a transfer programs -/

/-- The fields of the packed `FISRegH2D` that a transfer writes. `bitField` is the integer of
its `FISRegH2DBitField`: `pmport` in bits 0 to 3 and `c`, command rather than control, in
bit 7. -/
structure FisRegH2D where
  fisType : UInt8
  bitField : Nat
  command : UInt8
  lba0 : UInt8
  lba1 : UInt8
  lba2 : UInt8
  device : UInt8
  lba3 : UInt8
  lba4 : UInt8
  lba5 : UInt8
  count : UInt16
  deriving DecidableEq, Repr

/-- A command slot as a transfer uses it: `bit_field0` of its `HBACommandHeader`
(`command_fis_length` in bits 0 to 4, `write` in bit 6), the command FIS of its
`HBACommandTable`, and `data_base` and `bit_field` (`byte_count` in bits 0 to 21, `interrupt`
in bit 31) of the table's first PRDT entry. -/
structure CommandSlot where
  header : Nat
  fis : FisRegH2D
  dataBase : UInt64
  prdtBits : Nat
  deriving DecidableEq, Repr

/-- What a transfer reads of an `AHCIPort`: `host_capability` of its HBA, the port's
`sata_active` and `command_issue` as `find_command_slot` reads them, and its command slots. -/
structure AhciPort where
  hostCapability : UInt32
  sataActive : UInt32
  commandIssue : UInt32
  slots : Nat → CommandSlot

def AhciPort.setSlot (port : AhciPort) (i : Nat) (c : CommandSlot) : AhciPort :=
  { port with slots := Function.update port.slots i c }

/-- `FISType::RegH2D`. -/
def fisTypeRegH2D : UInt8 := 0x27

/-- `size_of::<FISRegH2D>() / size_of::<u32>()`: the FIS is 20 bytes. -/
def commandFisLength : Nat := 20/4

/-- The writes of `cmd_fis`'s fields over the FIS the slot held. -/
def commandFis (old : FisRegH2D) (command : UInt8) (lba : UInt64) (sectorCount : UInt16) :
    FisRegH2D :=
  let lbas := leBytes lba.toNat 8
  { old with
    fisType := fisTypeRegH2D
    bitField := withBits old.bitField 7 1 1
    command
    lba0 := lbas.getD 0 0
    lba1 := lbas.getD 1 0
    lba2 := lbas.getD 2 0
    lba3 := lbas.getD 3 0
    lba4 := lbas.getD 4 0
    lba5 := lbas.getD 5 0
    device := 64
    count := sectorCount }

/-- `read_sectors` and `write_sectors` from the search for a free slot to the command FIS:
the port with the slot programmed, and the slot and the buffer's physical address, or
`NoCommandSlots` (the error the source returns) when the buffer has none. `buffer` is what
comes between the header and the PRDT entry: the buffer's physical address as
`translate_addr` gives it, after `read_sectors` has allocated the buffer. -/
def programCommand (command : UInt8) (write : Nat) (port : AhciPort)
    (buffer : Except Panic (Option UInt64)) (lba : UInt64) (sectorCount : UInt16) :
    Except Panic (AhciPort × Except DiskAccessError (Nat × UInt64)) := do
  let slot ← match findCommandSlot port.hostCapability port.sataActive port.commandIssue with
    | .ok (some i) => pure i
    | .ok none => throw (.panic "No free command slots")
    | .error p => throw p
  let old := port.slots slot
  -- `set_command_fis_length` and `set_write`, whose values fit their fields
  let header := withBits (withBits old.header 0 5 commandFisLength) 6 1 write
  let port := port.setSlot slot { old with header }
  match ← buffer with
  | none => pure (port, .error .NoCommandSlots)
  | some dataBase =>
    let byteCount ← checkedSub (512*sectorCount.toNat) 1
    let prdtBits ← withBitsChecked old.prdtBits 0 22 byteCount
    let prdtBits := withBits prdtBits 31 1 1
    let fis := commandFis old.fis command lba sectorCount
    pure (port.setSlot slot { header, fis, dataBase, prdtBits }, .ok (slot, dataBase))

/-- What the port's registers read while a command is in flight, one list per register in
the order the driver reads it. -/
structure Reads where
  taskFileData : List UInt32
  commandIssue : List UInt32
  interruptStatus : List UInt32
  deriving DecidableEq, Repr

/-- `loop { if (tfd & 0x88) == 0 { break } }`: the drive is neither busy (bit 7) nor asking
for data (bit 3). -/
def waitReady : List UInt32 → Option Unit
  | [] => none
  | tfd :: tfds => if tfd &&& 0x88 = 0 then some () else waitReady tfds

/-- `((is >> 30) & 0b1) == 1`: the task file error bit of `interrupt_status`. -/
def taskFileError (is : UInt32) : Bool := (is >>> 30) &&& 0b1 == 1

/-- The loop that waits for the command: a pass reads `command_issue` and stops once the
slot's bit is clear, and otherwise reads `interrupt_status` and gives up on a task file error.
It returns the reads of `interrupt_status` left for the check after the loop. -/
def pollIssue (bit : UInt32) :
    List UInt32 → List UInt32 → Option (Except DiskAccessError (List UInt32))
  | [], _ => none
  | ci :: cis, iss =>
    if ci &&& bit = 0 then some (.ok iss) else
    match iss with
    | [] => none
    | is :: iss => if taskFileError is then some (.error .TaskFileError) else pollIssue bit cis iss

/-- From the wait for the drive to the check of `interrupt_status` after the loop. -/
def awaitCommand (slot : Nat) (reads : Reads) : Option (Except DiskAccessError Unit) :=
  match waitReady reads.taskFileData, reads.commandIssue with
  | none, _ => none
  | some (), [] => none
  -- `command_issue |= 0b1 << slot` reads the register once before it sets the slot's bit
  | some (), _ :: cis =>
    match pollIssue ((1 : UInt32) <<< slot.toUInt32) cis reads.interruptStatus with
    | none => none
    | some (.error e) => some (.error e)
    | some (.ok []) => none
    | some (.ok (is :: _)) => some (if taskFileError is then .error .TaskFileError else .ok ())

/-- The body `read_sectors` and `write_sectors` share. `drive` is what the drive does with the
command once it is issued: given the port as the driver programmed it and the slot, the values
the registers read from then on and the physical memory once it is done. `finish` makes the
result out of that memory and the buffer's physical address; none where reading it back
faults. -/
def transferSectors {α : Type} (command : UInt8) (write : Nat)
    (finish : (Nat → UInt8) → UInt64 → Option α) (port : AhciPort)
    (buffer : Except Panic (Option UInt64)) (drive : AhciPort → Nat → Reads × (Nat → UInt8))
    (lba : UInt64) (sectorCount : UInt16) :
    Option (Except Panic (AhciPort × Except DiskAccessError α)) :=
  match programCommand command write port buffer lba sectorCount with
  | .error p => some (.error p)
  | .ok (port', .error e) => some (.ok (port', .error e))
  | .ok (port', .ok (slot, dataBase)) =>
    let (reads, mem) := drive port' slot
    (awaitCommand slot reads).bind fun
      | .error e => some (.ok (port', .error e))
      | .ok () => (finish mem dataBase).map fun v => .ok (port', .ok v)

/-- The `n` bytes of the `Vec` at the virtual address `addr`, read through the kernel's page
tables `translate`; none where a page of it is not mapped and the read faults. -/
def vecBytes (translate : Nat → Option UInt64) (mem : Nat → UInt8) (addr n : Nat) :
    Option (List UInt8) :=
  (List.range n).mapM fun i => (translate (addr+i)).map fun p => mem p.toNat

/-- `Vec::with_capacity(size)` at `addr`, then `translate_addr` of its start. -/
def allocateBuffer (heap : HeapRoom) (translate : Nat → Option UInt64) (addr size : Nat) :
    Except Panic (Option UInt64) := do
  heap.allocate size
  pure (translate addr)

/-- `read_sectors(mapper, drive_num, lba, sector_count)`: READ DMA EXT into the `Vec` of
`512 * sector_count` bytes that the heap hands out at `addr`, returned once the drive is done.
`translate` is `mapper.translate_addr`; the drive writes physical memory from the address of
the buffer's first byte on, and the `Vec` is read back through its pages. -/
def readSectors (heap : HeapRoom) (translate : Nat → Option UInt64) (addr : Nat)
    (port : AhciPort) (drive : AhciPort → Nat → Reads × (Nat → UInt8)) (lba : UInt64)
    (sectorCount : UInt16) : Option (Except Panic (AhciPort × Except DiskAccessError (List UInt8))) :=
  transferSectors 0x25 0 (fun mem _ => vecBytes translate mem addr (512*sectorCount.toNat)) port
    (allocateBuffer heap translate addr (512*sectorCount.toNat)) drive lba sectorCount

/-- `write_sectors(mapper, drive_num, lba, sector_count, buffer)`: WRITE DMA EXT from the
`Vec` at `addr`, whose length it never looks at. -/
def writeSectors (translate : Nat → Option UInt64) (addr : Nat) (port : AhciPort)
    (drive : AhciPort → Nat → Reads × (Nat → UInt8)) (lba : UInt64) (sectorCount : UInt16) :
    Option (Except Panic (AhciPort × Except DiskAccessError Unit)) :=
  transferSectors 0x35 1 (fun _ _ => some ()) port (.ok (translate addr)) drive lba sectorCount

/-! ### What a transfer programs -/

theorem getBits_withBits (x offset bits value : Nat) :
    getBits (withBits x offset bits value) offset bits = value % 2^bits := by
  have hlow : x % 2^offset / 2^offset = 0 := Nat.div_eq_of_lt (Nat.mod_lt _ (by positivity))
  rw [getBits, withBits, Nat.add_mul_div_left _ _ (by positivity), hlow, Nat.zero_add,
    Nat.add_mul_mod_self_left, Nat.mod_mod]

theorem getBits_eq_mod_div (y offset bits : Nat) :
    getBits y offset bits = y % 2^(offset+bits) / 2^offset := by
  rw [getBits, Nat.pow_add, Nat.mod_mul_right_div_self]

/-- A setter keeps every bit below its field. -/
theorem withBits_mod_of_le {k offset : Nat} (h : k ≤ offset) (x bits value : Nat) :
    withBits x offset bits value % 2^k = x % 2^k := by
  obtain ⟨c, hc⟩ : 2^k ∣ 2^offset := Nat.pow_dvd_pow 2 h
  rw [withBits, hc, Nat.mul_assoc, Nat.add_mul_mod_self_left, Nat.mod_mod_of_dvd _ (Dvd.intro c rfl)]

/-- A setter keeps every field below its own. -/
theorem getBits_withBits_of_le {offset' bits' offset : Nat} (h : offset'+bits' ≤ offset)
    (x bits value : Nat) :
    getBits (withBits x offset bits value) offset' bits' = getBits x offset' bits' := by
  rw [getBits_eq_mod_div, getBits_eq_mod_div, withBits_mod_of_le h]

/-- The LBA a drive reads from a command FIS: its six LBA bytes, little-endian. -/
def FisRegH2D.lba (fis : FisRegH2D) : Nat :=
  readLE [fis.lba0, fis.lba1, fis.lba2, fis.lba3, fis.lba4, fis.lba5] 0 6

/-- The FIS names the low 48 bits of the LBA: `to_le_bytes` has eight bytes and the FIS
takes six. -/
theorem lba_commandFis (old : FisRegH2D) (command : UInt8) (lba : UInt64) (sectorCount : UInt16) :
    (commandFis old command lba sectorCount).lba = lba.toNat % 2^48 := by
  have hsix : [(leBytes lba.toNat 8).getD 0 0, (leBytes lba.toNat 8).getD 1 0,
      (leBytes lba.toNat 8).getD 2 0, (leBytes lba.toNat 8).getD 3 0,
      (leBytes lba.toNat 8).getD 4 0, (leBytes lba.toNat 8).getD 5 0] = leBytes lba.toNat 6 := by
    simp only [leBytes, List.getD_cons_zero, List.getD_cons_succ]
  rw [FisRegH2D.lba, commandFis]
  simp only
  rw [hsix, readLE_leBytes]
  norm_num

/-- A slot that holds a DMA command `command` as a drive expects it: a Register H2D FIS with
`c` set, LBA addressing (bit 6 of `device`) and a sector count, a command header that gives
the FIS's five dwords and the write bit `write`, and a PRDT entry with room for the sectors. -/
def CommandSlot.issues (c : CommandSlot) (command : UInt8) (write : Nat) : Prop :=
  c.fis.fisType = fisTypeRegH2D ∧ getBits c.fis.bitField 7 1 = 1 ∧ c.fis.command = command ∧
    c.fis.device &&& 0x40 ≠ 0 ∧ 0 < c.fis.count.toNat ∧ getBits c.header 0 5 = 5 ∧
    getBits c.header 6 1 = write ∧ c.fis.count.toNat*sectorSize ≤ getBits c.prdtBits 0 22 + 1

instance (c : CommandSlot) (command : UInt8) (write : Nat) : Decidable (c.issues command write) :=
  inferInstanceAs (Decidable (_ ∧ _ ∧ _ ∧ _ ∧ _ ∧ _ ∧ _ ∧ _))

@[simp] theorem setSlot_slots_self (port : AhciPort) (i : Nat) (c : CommandSlot) :
    (port.setSlot i c).slots i = c := by
  simp only [AhciPort.setSlot, Function.update_self]

@[simp] theorem setSlot_setSlot (port : AhciPort) (i : Nat) (c c' : CommandSlot) :
    (port.setSlot i c).setSlot i c' = port.setSlot i c' := by
  simp only [AhciPort.setSlot, Function.update_idem]

/-- The slot a transfer programs over `old`. -/
def programmedSlot (old : CommandSlot) (command : UInt8) (write : Nat) (dataBase : UInt64)
    (lba : UInt64) (sectorCount : UInt16) : CommandSlot :=
  { header := withBits (withBits old.header 0 5 commandFisLength) 6 1 write
    fis := commandFis old.fis command lba sectorCount
    dataBase
    prdtBits := withBits (withBits old.prdtBits 0 22 (512*sectorCount.toNat-1)) 31 1 1 }

/-- A transfer of at least one sector and at most a PRDT entry's 4 MiB, from a free slot into a
buffer with a physical address, programs the slot and goes on to issue it. -/
theorem programCommand_ok {port : AhciPort} {slot : Nat} {sectorCount : UInt16}
    (hslot : findCommandSlot port.hostCapability port.sataActive port.commandIssue = .ok (some slot))
    (hcount : 0 < sectorCount.toNat) (hroom : 512*sectorCount.toNat ≤ 2^22)
    (command : UInt8) (write : Nat) (dataBase lba : UInt64) :
    programCommand command write port (.ok (some dataBase)) lba sectorCount =
      .ok (port.setSlot slot (programmedSlot (port.slots slot) command write dataBase lba sectorCount),
        .ok (slot, dataBase)) := by
  have hsub : (checkedSub (512*sectorCount.toNat) 1 : Except Panic Nat) =
      .ok (512*sectorCount.toNat-1) :=
    checkedSub_of_le (by omega)
  have hbits : withBitsChecked (port.slots slot).prdtBits 0 22 (512*sectorCount.toNat-1) =
      .ok (withBits (port.slots slot).prdtBits 0 22 (512*sectorCount.toNat-1)) :=
    if_pos (by omega)
  rw [programCommand, hslot]
  simp only [bind, Except.bind, pure, Except.pure, hsub, hbits, setSlot_setSlot, programmedSlot]

/-- What the programmed slot tells the drive: the command at the low 48 bits of the LBA, the
sector count, and the buffer. -/
theorem programmedSlot_issues (old : CommandSlot) (command : UInt8) {write : Nat} (hw : write < 2)
    (dataBase lba : UInt64) {sectorCount : UInt16} (hcount : 0 < sectorCount.toNat)
    (hroom : 512*sectorCount.toNat ≤ 2^22) :
    (programmedSlot old command write dataBase lba sectorCount).issues command write := by
  have hheader : getBits (withBits (withBits old.header 0 5 commandFisLength) 6 1 write) 0 5 = 5 := by
    rw [getBits_withBits_of_le (by omega), getBits_withBits]
    decide
  have hprdt : getBits (withBits (withBits old.prdtBits 0 22 (512*sectorCount.toNat-1)) 31 1 1)
      0 22 = 512*sectorCount.toNat-1 := by
    rw [getBits_withBits_of_le (by omega), getBits_withBits, Nat.mod_eq_of_lt (by omega)]
  refine ⟨rfl, ?_, rfl, ?_, hcount, hheader, ?_, ?_⟩
  · show getBits (withBits old.fis.bitField 7 1 1) 7 1 = 1
    rw [getBits_withBits]
    rfl
  · show (64 : UInt8) &&& 0x40 ≠ 0
    decide
  · show getBits (withBits (withBits old.header 0 5 commandFisLength) 6 1 write) 6 1 = write
    rw [getBits_withBits, Nat.mod_eq_of_lt (by omega)]
  · show sectorCount.toNat*sectorSize ≤
      getBits (withBits (withBits old.prdtBits 0 22 (512*sectorCount.toNat-1)) 31 1 1) 0 22 + 1
    rw [hprdt, sectorSize]
    omega

/-! ### The buffer -/

theorem allocateBuffer_of_grants {heap : HeapRoom} {size : Nat} (h : heap.grants size = true)
    (translate : Nat → Option UInt64) (addr : Nat) :
    allocateBuffer heap translate addr size = .ok (translate addr) := by
  rw [allocateBuffer, HeapRoom.allocate_of_grants h]
  rfl

theorem allocateBuffer_of_not_grants {heap : HeapRoom} {size : Nat} (h : heap.grants size = false)
    (translate : Nat → Option UInt64) (addr : Nat) :
    allocateBuffer heap translate addr size = .error (.panic (allocError size)) := by
  rw [allocateBuffer, HeapRoom.allocate_of_not_grants h]
  rfl

theorem allocateBuffer_eq_ok {heap : HeapRoom} {translate : Nat → Option UInt64} {addr size : Nat}
    {phys : Option UInt64} :
    allocateBuffer heap translate addr size = .ok phys ↔ heap.grants size = true ∧ translate addr = phys := by
  cases hg : heap.grants size
  · simp [allocateBuffer_of_not_grants hg]
  · simp [allocateBuffer_of_grants hg]

/-- The `n` bytes of the buffer at `addr` lie in one run of physical memory from `base`, the
one block that a PRDT entry describes. -/
def Contiguous (translate : Nat → Option UInt64) (addr n : Nat) (base : UInt64) : Prop :=
  ∀ i < n, (translate (addr+i)).map UInt64.toNat = some (base.toNat+i)

section Contiguous

variable {translate : Nat → Option UInt64} {addr n : Nat} {base : UInt64}

theorem translate_of_contiguous (h : Contiguous translate addr n base) (hn : 0 < n) :
    translate addr = some base := by
  have h0 := h 0 hn
  simp only [Nat.add_zero] at h0
  obtain ⟨p, hp, hpb⟩ := Option.map_eq_some_iff.mp h0
  rw [hp, UInt64.toNat_inj.mp hpb]

/-- A buffer in one run of physical memory reads back as the bytes of that run. -/
theorem vecBytes_of_contiguous (h : Contiguous translate addr n base) (mem : Nat → UInt8) :
    vecBytes translate mem addr n = some (bytesAt mem base.toNat n) := by
  have hbyte : ∀ i ∈ List.range n,
      (translate (addr+i)).map (fun p => mem p.toNat) = pure (mem (base.toNat+i)) := by
    intro i hi
    obtain ⟨p, hp, hpb⟩ := Option.map_eq_some_iff.mp (h i (List.mem_range.mp hi))
    rw [hp, Option.map_some, hpb]
    rfl
  rw [vecBytes, mapM_of_pure hbyte]
  rfl

end Contiguous

/-! ### A drive that carries out the command it is issued -/

/-- The memory after a DMA of `bytes` to the address `base`. -/
def dmaWrite (mem : Nat → UInt8) (base : Nat) (bytes : List UInt8) : Nat → UInt8 :=
  fun a => if base ≤ a ∧ a < base+bytes.length then bytes.getD (a-base) 0 else mem a

theorem bytesAt_dmaWrite (mem : Nat → UInt8) (base : Nat) (bytes : List UInt8) :
    bytesAt (dmaWrite mem base bytes) base bytes.length = bytes := by
  apply List.ext_getElem (by simp)
  intro i hi _
  have hin : base ≤ base+i ∧ base+i < base+bytes.length := by
    rw [Acpi.length_bytesAt] at hi
    omega
  simp only [bytesAt, List.getElem_map, List.getElem_range, dmaWrite, if_pos hin,
    Nat.add_sub_cancel_left, List.getD_eq_getElem?_getD, List.getElem?_eq_getElem (by omega),
    Option.getD_some]

/-- A drive holding the disk image `disk` that carries out a READ DMA EXT: it copies the
sectors the FIS names to the memory at the PRDT entry and reports the command done, and
reports a task file error for any other command, sectors past the end of the image
included. -/
def readDrive (disk : List UInt8) (mem : Nat → UInt8) (port : AhciPort) (slot : Nat) :
    Reads × (Nat → UInt8) :=
  let c := port.slots slot
  if c.issues 0x25 0 ∧ (c.fis.lba+c.fis.count.toNat)*sectorSize ≤ disk.length then
    (⟨[0], [0, 0], [0]⟩, dmaWrite mem c.dataBase.toNat
      ((disk.drop (c.fis.lba*sectorSize)).take (c.fis.count.toNat*sectorSize)))
  else (⟨[0], [0, 0], [0x40000000]⟩, mem)

theorem awaitCommand_done (slot : Nat) : awaitCommand slot ⟨[0], [0, 0], [0]⟩ = some (.ok ()) := by
  simp [awaitCommand, waitReady, pollIssue, taskFileError]

theorem awaitCommand_taskFileError (slot : Nat) :
    awaitCommand slot ⟨[0], [0, 0], [0x40000000]⟩ = some (.error .TaskFileError) := by
  have hbit : taskFileError 0x40000000 = true := by decide
  simp [awaitCommand, waitReady, pollIssue, hbit]

/-- A read from the drive of a disk image, with the port it leaves. -/
theorem readSectors_readDrive_eq {heap : HeapRoom} {translate : Nat → Option UInt64} {addr : Nat}
    {port : AhciPort} {slot : Nat} {sectorCount : UInt16} {dataBase : UInt64}
    (hslot : findCommandSlot port.hostCapability port.sataActive port.commandIssue = .ok (some slot))
    (hcount : 0 < sectorCount.toNat) (hroom : 512*sectorCount.toNat ≤ 2^22)
    (hheap : heap.grants (512*sectorCount.toNat) = true)
    (hbuf : Contiguous translate addr (512*sectorCount.toNat) dataBase)
    (disk : List UInt8) (mem : Nat → UInt8) (lba : UInt64) :
    readSectors heap translate addr port (readDrive disk mem) lba sectorCount =
      some (.ok (port.setSlot slot (programmedSlot (port.slots slot) 0x25 0 dataBase lba sectorCount),
        Fs.readSectors disk (lba.toNat % 2^48) sectorCount.toNat)) := by
  have hphys : translate addr = some dataBase := translate_of_contiguous hbuf (by omega)
  rw [readSectors, transferSectors, allocateBuffer_of_grants hheap, hphys,
    programCommand_ok hslot hcount hroom]
  set c := programmedSlot (port.slots slot) 0x25 0 dataBase lba sectorCount with hc
  have hissues : c.issues 0x25 0 := programmedSlot_issues _ _ (by omega) _ _ hcount hroom
  have hlba : c.fis.lba = lba.toNat % 2^48 := lba_commandFis _ _ _ _
  have hcnt : c.fis.count = sectorCount := rfl
  have hbase : c.dataBase = dataBase := rfl
  simp only [readDrive, setSlot_slots_self, hlba, hcnt, hbase]
  by_cases hin : (lba.toNat % 2^48+sectorCount.toNat)*sectorSize ≤ disk.length
  · -- the drive copies the sectors, which fill the buffer the `Vec` reads back
    have hlen : ((disk.drop ((lba.toNat % 2^48)*sectorSize)).take
        (sectorCount.toNat*sectorSize)).length = 512*sectorCount.toNat := by
      have hin' := hin
      simp only [sectorSize] at hin'
      simp only [List.length_take, List.length_drop, sectorSize]
      omega
    rw [if_pos ⟨hissues, hin⟩, awaitCommand_done, Fs.readSectors, if_pos hin]
    simp only [Option.bind_some, vecBytes_of_contiguous hbuf, Option.map_some]
    rw [← hlen, bytesAt_dmaWrite]
  · rw [if_neg (fun h => hin h.2), awaitCommand_taskFileError, Fs.readSectors, if_neg hin]
    rfl

/-- Against a drive that carries out the command it is issued, `read_sectors` is the read of
the disk image that the filesystem is built on, at the low 48 bits of the LBA: a transfer of
at least one sector and at most a PRDT entry's 4 MiB, from a free slot, into a buffer that the
heap hands out and that lies in one run of physical memory, returns the sectors it names, or
the drive's task file error past the end of the image. -/
theorem readSectors_readDrive {heap : HeapRoom} {translate : Nat → Option UInt64} {addr : Nat}
    {port : AhciPort} {slot : Nat} {sectorCount : UInt16} {dataBase : UInt64}
    (hslot : findCommandSlot port.hostCapability port.sataActive port.commandIssue = .ok (some slot))
    (hcount : 0 < sectorCount.toNat) (hroom : 512*sectorCount.toNat ≤ 2^22)
    (hheap : heap.grants (512*sectorCount.toNat) = true)
    (hbuf : Contiguous translate addr (512*sectorCount.toNat) dataBase)
    (disk : List UInt8) (mem : Nat → UInt8) (lba : UInt64) :
    ∃ port', readSectors heap translate addr port (readDrive disk mem) lba sectorCount =
      some (.ok (port', Fs.readSectors disk (lba.toNat % 2^48) sectorCount.toNat)) :=
  ⟨_, readSectors_readDrive_eq hslot hcount hroom hheap hbuf disk mem lba⟩

/-! ### When a transfer succeeds, for every drive -/

/-- The slot's bit of `command_issue`, `0b1 << slot`. -/
def issueBit (slot : Nat) : UInt32 := (1 : UInt32) <<< slot.toUInt32

/-- The answers of a drive that ends a command without error, as the driver reads them: the
drive turns ready, and the slot's bit of `command_issue` is clear at the `n`-th poll and not
before, with no task file error in the `n` reads of `interrupt_status` in the loop nor in the
one after it. The first read of `command_issue` is the one `command_issue |= 0b1 << slot`
makes. -/
def Completes (slot : Nat) (reads : Reads) : Prop :=
  (∃ tfd ∈ reads.taskFileData, tfd &&& 0x88 = 0) ∧
    ∃ n, (∀ i < n, ∃ ci, reads.commandIssue[i+1]? = some ci ∧ ci &&& issueBit slot ≠ 0) ∧
      (∃ ci, reads.commandIssue[n+1]? = some ci ∧ ci &&& issueBit slot = 0) ∧
      ∀ i ≤ n, ∃ is, reads.interruptStatus[i]? = some is ∧ taskFileError is = false

theorem waitReady_eq_some : ∀ {tfds : List UInt32},
    waitReady tfds = some () ↔ ∃ tfd ∈ tfds, tfd &&& 0x88 = 0
  | [] => by simp [waitReady]
  | tfd :: tfds => by
    by_cases h : tfd &&& 0x88 = 0
    · simp [waitReady, h]
    · simp [waitReady, h, waitReady_eq_some]

/-- The completion loop comes back done exactly when the slot's bit clears at some poll `n`,
after `n` polls that saw it set and `n` reads of `interrupt_status` without a task file error;
the reads it leaves are those after the `n`-th. By induction on the reads of
`command_issue`, one poll a step. -/
theorem pollIssue_eq_ok {bit : UInt32} {rest : List UInt32} : ∀ {cis iss : List UInt32},
    pollIssue bit cis iss = some (.ok rest) ↔
      ∃ n, (∀ i < n, ∃ ci, cis[i]? = some ci ∧ ci &&& bit ≠ 0) ∧
        (∃ ci, cis[n]? = some ci ∧ ci &&& bit = 0) ∧
        (∀ i < n, ∃ is, iss[i]? = some is ∧ taskFileError is = false) ∧ rest = iss.drop n
  | [], iss => by simp [pollIssue]
  | ci :: cis, iss => by
    by_cases hci : ci &&& bit = 0
    · -- the first poll ends the loop, so `n` is 0
      simp only [pollIssue, if_pos hci, Option.some.injEq, Except.ok.injEq]
      constructor
      · rintro rfl
        exact ⟨0, by simp, ⟨ci, rfl, hci⟩, by simp, rfl⟩
      · rintro ⟨n, hset, -, -, rfl⟩
        cases n with
        | zero => rfl
        | succ n =>
          obtain ⟨c, hc, hne⟩ := hset 0 (by omega)
          simp only [List.getElem?_cons_zero, Option.some.injEq] at hc
          exact absurd (hc ▸ hci) hne
    · -- the loop goes on only past a read of `interrupt_status` without an error
      cases iss with
      | nil =>
        simp only [pollIssue, if_neg hci, reduceCtorEq, false_iff, not_exists, not_and]
        intro n _ h0 hst
        cases n with
        | zero => simp at h0; exact absurd h0 hci
        | succ n => simpa using hst 0 (by omega)
      | cons is iss =>
        by_cases his : taskFileError is = true
        · simp only [pollIssue, if_neg hci, if_pos his, Option.some.injEq, reduceCtorEq,
            false_iff, not_exists, not_and]
          intro n _ h0 hst
          cases n with
          | zero => simp at h0; exact absurd h0 hci
          | succ n =>
            obtain ⟨i, hi, hne⟩ := hst 0 (by omega)
            simp only [List.getElem?_cons_zero, Option.some.injEq] at hi
            rw [← hi, his] at hne
            exact Bool.noConfusion hne
        · simp only [pollIssue, if_neg hci, if_neg his]
          rw [pollIssue_eq_ok]
          constructor
          · rintro ⟨n, hset, hclear, hst, rfl⟩
            refine ⟨n+1, ?_, by simpa using hclear, ?_, by simp⟩
            · intro i hi
              cases i with
              | zero => exact ⟨ci, rfl, hci⟩
              | succ i => simpa using hset i (by omega)
            · intro i hi
              cases i with
              | zero => exact ⟨is, rfl, by simpa using his⟩
              | succ i => simpa using hst i (by omega)
          · rintro ⟨n, hset, hclear, hst, rfl⟩
            cases n with
            | zero => simp at hclear; exact absurd hclear hci
            | succ n =>
              refine ⟨n, fun i hi => by simpa using hset (i+1) (by omega), by simpa using hclear,
                fun i hi => by simpa using hst (i+1) (by omega), by simp⟩

/-- The checks after the loop: the wait came back, and the loop came back done with a read of
`interrupt_status` left that shows no task file error. -/
theorem awaitCommand_eq_ok_iff {slot : Nat} {tfds : List UInt32} {c : UInt32}
    {cis iss : List UInt32} :
    awaitCommand slot ⟨tfds, c :: cis, iss⟩ = some (.ok ()) ↔
      waitReady tfds = some () ∧ ∃ is rest, pollIssue (issueBit slot) cis iss =
        some (.ok (is :: rest)) ∧ taskFileError is = false := by
  unfold awaitCommand
  rw [show (1 : UInt32) <<< slot.toUInt32 = issueBit slot from rfl]
  cases waitReady tfds with
  | none => simp
  | some u =>
    simp only
    cases pollIssue (issueBit slot) cis iss with
    | none => simp
    | some r =>
      rcases r with e | _ | ⟨is, rest⟩
      · simp
      · simp
      · cases his : taskFileError is <;> simp [his]

/-- The wait, the issue and the loop come back done exactly on the answers of a drive that
completes the command. -/
theorem awaitCommand_eq_ok (slot : Nat) (reads : Reads) :
    awaitCommand slot reads = some (.ok ()) ↔ Completes slot reads := by
  obtain ⟨tfds, cis, iss⟩ := reads
  cases cis with
  | nil =>
    have hnil : awaitCommand slot ⟨tfds, [], iss⟩ ≠ some (.ok ()) := by
      unfold awaitCommand
      cases waitReady tfds <;> simp
    simp only [Completes, List.getElem?_nil, reduceCtorEq, false_and, exists_false, and_false,
      iff_false]
    exact fun h => hnil h
  | cons c cis =>
    simp only [awaitCommand_eq_ok_iff, waitReady_eq_some, Completes, List.getElem?_cons_succ]
    apply and_congr_right
    intro _
    constructor
    · rintro ⟨is, rest, hpoll, his⟩
      obtain ⟨n, hset, hclear, hst, hrest⟩ := pollIssue_eq_ok.mp hpoll
      -- the read after the loop is the `n`-th of `interrupt_status`
      have hn : iss[n]? = some is := by
        rw [← List.head?_drop, ← hrest]
        rfl
      refine ⟨n, hset, hclear, fun i hi => ?_⟩
      rcases Nat.lt_or_eq_of_le hi with hi | rfl
      · exact hst i hi
      · exact ⟨is, hn, his⟩
    · rintro ⟨n, hset, hclear, hst⟩
      obtain ⟨is, hn, his⟩ := hst n (Nat.le_refl n)
      have hdrop : iss.drop n = is :: iss.drop (n+1) := by
        obtain ⟨hlt, heq⟩ := List.getElem?_eq_some_iff.mp hn
        rw [List.drop_eq_getElem_cons hlt, heq]
      refine ⟨is, iss.drop (n+1), ?_, his⟩
      rw [← hdrop]
      exact pollIssue_eq_ok.mpr ⟨n, hset, hclear, fun i hi => hst i (by omega), rfl⟩

/-- No free slot: `expect("No free command slots")`, or the search's own panic. -/
theorem programCommand_of_no_slot {port : AhciPort} {r : Except Panic (Option Nat)}
    (hslot : findCommandSlot port.hostCapability port.sataActive port.commandIssue = r)
    (hr : ∀ i, r ≠ .ok (some i)) (command : UInt8) (write : Nat)
    (buffer : Except Panic (Option UInt64)) (lba : UInt64) (sectorCount : UInt16) :
    ∃ p, programCommand command write port buffer lba sectorCount = .error p := by
  rw [programCommand, hslot]
  rcases r with p | _ | i
  · exact ⟨p, rfl⟩
  · exact ⟨_, rfl⟩
  · exact absurd rfl (hr i)

/-- A free slot and a buffer without a physical address: the header is written, and the
transfer stops with `NoCommandSlots`. -/
theorem programCommand_of_phys_none {port : AhciPort} {slot : Nat}
    (hslot : findCommandSlot port.hostCapability port.sataActive port.commandIssue = .ok (some slot))
    (command : UInt8) (write : Nat) (lba : UInt64) (sectorCount : UInt16) :
    programCommand command write port (.ok none) lba sectorCount =
      .ok (port.setSlot slot { port.slots slot with
        header := withBits (withBits (port.slots slot).header 0 5 commandFisLength) 6 1 write },
        .error .NoCommandSlots) := by
  rw [programCommand, hslot]
  rfl

/-- A free slot and a buffer that cannot be allocated: the header is written, and the
allocation's panic stops the transfer. -/
theorem programCommand_of_buffer_error {port : AhciPort} {slot : Nat}
    (hslot : findCommandSlot port.hostCapability port.sataActive port.commandIssue = .ok (some slot))
    (command : UInt8) (write : Nat) (p : Panic) (lba : UInt64) (sectorCount : UInt16) :
    programCommand command write port (.error p) lba sectorCount = .error p := by
  rw [programCommand, hslot]
  rfl

/-- No sector to transfer: `512 * sector_count as usize - 1` underflows. -/
theorem programCommand_of_count_zero {port : AhciPort} {slot : Nat} {sectorCount : UInt16}
    (hslot : findCommandSlot port.hostCapability port.sataActive port.commandIssue = .ok (some slot))
    (hcount : sectorCount.toNat = 0) (command : UInt8) (write : Nat) (dataBase lba : UInt64) :
    programCommand command write port (.ok (some dataBase)) lba sectorCount =
      .error (.panic "attempt to subtract with overflow") := by
  have hsub : (checkedSub (512*sectorCount.toNat) 1 : Except Panic Nat) =
      .error (.panic "attempt to subtract with overflow") :=
    checkedSub_of_lt (by omega)
  rw [programCommand, hslot]
  simp only [bind, Except.bind, pure, Except.pure, hsub]

/-- More sectors than a PRDT entry's 22-bit byte count holds: the setter's assertion fails. -/
theorem programCommand_of_room_lt {port : AhciPort} {slot : Nat} {sectorCount : UInt16}
    (hslot : findCommandSlot port.hostCapability port.sataActive port.commandIssue = .ok (some slot))
    (hroom : 2^22 < 512*sectorCount.toNat) (command : UInt8) (write : Nat) (dataBase lba : UInt64) :
    ∃ p, programCommand command write port (.ok (some dataBase)) lba sectorCount = .error p := by
  have hsub : (checkedSub (512*sectorCount.toNat) 1 : Except Panic Nat) =
      .ok (512*sectorCount.toNat-1) :=
    checkedSub_of_le (by omega)
  have hbits : withBitsChecked (port.slots slot).prdtBits 0 22 (512*sectorCount.toNat-1) =
      .error (.panic "value out of bounds") :=
    if_neg (by omega)
  rw [programCommand, hslot]
  simp only [bind, Except.bind, pure, Except.pure, hsub, hbits]
  exact ⟨_, rfl⟩

/-- A command is programmed exactly from a free slot, for a buffer with a physical address and
between one sector and a PRDT entry's 4 MiB. -/
theorem programCommand_eq_ok {command : UInt8} {write : Nat} {port : AhciPort}
    {buffer : Except Panic (Option UInt64)} {lba : UInt64} {sectorCount : UInt16}
    {port' : AhciPort} {slot : Nat} {dataBase : UInt64} :
    programCommand command write port buffer lba sectorCount = .ok (port', .ok (slot, dataBase)) ↔
      findCommandSlot port.hostCapability port.sataActive port.commandIssue = .ok (some slot) ∧
        buffer = .ok (some dataBase) ∧ 0 < sectorCount.toNat ∧ 512*sectorCount.toNat ≤ 2^22 ∧
        port' = port.setSlot slot
          (programmedSlot (port.slots slot) command write dataBase lba sectorCount) := by
  constructor
  · intro h
    rcases hf : findCommandSlot port.hostCapability port.sataActive port.commandIssue
      with p | _ | i
    · obtain ⟨p, hp⟩ := programCommand_of_no_slot hf (by simp) command write buffer lba sectorCount
      rw [hp] at h
      simp at h
    · obtain ⟨p, hp⟩ := programCommand_of_no_slot hf (by simp) command write buffer lba sectorCount
      rw [hp] at h
      simp at h
    -- a free slot: every later check has to pass too
    rcases buffer with p | _ | b
    · rw [programCommand_of_buffer_error hf] at h
      simp at h
    · rw [programCommand_of_phys_none hf] at h
      simp at h
    · by_cases hcount : sectorCount.toNat = 0
      · rw [programCommand_of_count_zero hf hcount] at h
        simp at h
      by_cases hroom : 2^22 < 512*sectorCount.toNat
      · obtain ⟨p, hp⟩ := programCommand_of_room_lt hf hroom command write b lba
        rw [hp] at h
        simp at h
      rw [programCommand_ok hf (by omega) (by omega)] at h
      simp only [Except.ok.injEq, Prod.mk.injEq] at h
      obtain ⟨rfl, rfl, rfl⟩ := h
      exact ⟨rfl, rfl, by omega, by omega, rfl⟩
  · rintro ⟨hf, rfl, hcount, hroom, rfl⟩
    exact programCommand_ok hf hcount hroom command write dataBase lba

/-- For every drive, a transfer comes back done exactly when the command was programmed and
the drive completed it; its result is then made from the memory the drive left. -/
theorem transferSectors_eq_ok {α : Type} {command : UInt8} {write : Nat}
    {finish : (Nat → UInt8) → UInt64 → Option α} {port : AhciPort}
    {buffer : Except Panic (Option UInt64)} {drive : AhciPort → Nat → Reads × (Nat → UInt8)}
    {lba : UInt64} {sectorCount : UInt16} {port' : AhciPort} {r : α} :
    transferSectors command write finish port buffer drive lba sectorCount =
        some (.ok (port', .ok r)) ↔
      ∃ slot dataBase, programCommand command write port buffer lba sectorCount =
          .ok (port', .ok (slot, dataBase)) ∧
        Completes slot (drive port' slot).1 ∧ finish (drive port' slot).2 dataBase = some r := by
  unfold transferSectors
  rcases hp : programCommand command write port buffer lba sectorCount
    with p | ⟨port₁, e | ⟨slot, b⟩⟩
  · simp
  · simp
  · simp only [Except.ok.injEq, Prod.mk.injEq]
    constructor
    · intro h
      obtain ⟨a, ha, hF⟩ := Option.bind_eq_some_iff.mp h
      -- the loop came back done: an error would have stayed an error
      rcases a with e | u
      · simp at hF
      · obtain ⟨v, hv, hF'⟩ := Option.map_eq_some_iff.mp hF
        simp only [Except.ok.injEq, Prod.mk.injEq] at hF'
        obtain ⟨rfl, hr⟩ := hF'
        cases hr
        exact ⟨slot, b, ⟨rfl, rfl, rfl⟩, (awaitCommand_eq_ok _ _).mp ha, hv⟩
    · rintro ⟨_, _, ⟨rfl, rfl, rfl⟩, hc, hr⟩
      rw [(awaitCommand_eq_ok _ _).mpr hc]
      simp [hr]

/-- No heap hands out more than `HEAP_SIZE` bytes, so a read of more than 2048 sectors stops
at the allocation of its buffer, though the PRDT entry would take up to 4 MiB. -/
theorem readSectors_of_heapSize_lt {heap : HeapRoom} {port : AhciPort} {slot : Nat}
    {sectorCount : UInt16}
    (hslot : findCommandSlot port.hostCapability port.sataActive port.commandIssue = .ok (some slot))
    (h : heapSize < 512*sectorCount.toNat) (translate : Nat → Option UInt64) (addr : Nat)
    (drive : AhciPort → Nat → Reads × (Nat → UInt8)) (lba : UInt64) :
    readSectors heap translate addr port drive lba sectorCount =
      some (.error (.panic (allocError (512*sectorCount.toNat)))) := by
  rw [readSectors, transferSectors, allocateBuffer_of_not_grants (heap.grants_eq_false h),
    programCommand_of_buffer_error hslot]

/-- For every drive, `read_sectors` hands back a buffer exactly when the transfer is of at
least one sector and at most a PRDT entry's 4 MiB, from a free slot, the heap hands out the
buffer and its first byte has a physical address, and the drive completes the READ DMA EXT the
driver programmed there; the buffer is then its `512 * sector_count` bytes read through the
kernel's pages of the memory the drive left. -/
theorem readSectors_eq_ok {heap : HeapRoom} {translate : Nat → Option UInt64} {addr : Nat}
    {port : AhciPort} {drive : AhciPort → Nat → Reads × (Nat → UInt8)} {lba : UInt64}
    {sectorCount : UInt16} {port' : AhciPort} {bytes : List UInt8} :
    readSectors heap translate addr port drive lba sectorCount = some (.ok (port', .ok bytes)) ↔
      ∃ slot dataBase,
        findCommandSlot port.hostCapability port.sataActive port.commandIssue = .ok (some slot) ∧
        heap.grants (512*sectorCount.toNat) = true ∧ translate addr = some dataBase ∧
        0 < sectorCount.toNat ∧ 512*sectorCount.toNat ≤ 2^22 ∧
        port' = port.setSlot slot (programmedSlot (port.slots slot) 0x25 0 dataBase lba sectorCount) ∧
        Completes slot (drive port' slot).1 ∧
        vecBytes translate (drive port' slot).2 addr (512*sectorCount.toNat) = some bytes := by
  rw [readSectors, transferSectors_eq_ok]
  constructor
  · rintro ⟨slot, dataBase, hprog, hdone, hbytes⟩
    obtain ⟨hslot, hbuf, hcount, hroom, hport⟩ := programCommand_eq_ok.mp hprog
    obtain ⟨hheap, hphys⟩ := allocateBuffer_eq_ok.mp hbuf
    exact ⟨slot, dataBase, hslot, hheap, hphys, hcount, hroom, hport, hdone, hbytes⟩
  · rintro ⟨slot, dataBase, hslot, hheap, hphys, hcount, hroom, hport, hdone, hbytes⟩
    have hbuf := allocateBuffer_eq_ok.mpr ⟨hheap, hphys⟩
    exact ⟨slot, dataBase, programCommand_eq_ok.mpr ⟨hslot, hbuf, hcount, hroom, hport⟩, hdone,
      hbytes⟩

/-- A slot as `alloc` may leave it: every field zero. -/
def zeroSlot : CommandSlot := ⟨0, ⟨0, 0, 0, 0, 0, 0, 0, 0, 0, 0, 0⟩, 0, 0⟩

/-- A port of sixteen scanned slots, none of them busy. -/
def idlePort : AhciPort :=
  { hostCapability := 0x1000
    sataActive := 0
    commandIssue := 0
    slots := fun _ => zeroSlot }

/-- Page tables that map every address to itself, as a physical-memory mapping at offset 0
does. -/
def identityMap (v : Nat) : Option UInt64 := some v.toUInt64

theorem contiguous_identityMap {addr n : Nat} (h : addr+n ≤ 2^64) :
    Contiguous identityMap addr n addr.toUInt64 := by
  intro i hi
  simp only [identityMap, Option.map_some, Option.some.injEq, Nat.toUInt64_eq, UInt64.toNat_ofNat']
  rw [Nat.mod_eq_of_lt (by omega), Nat.mod_eq_of_lt (by omega)]

theorem readSectors_readDrive_idlePort :
    findCommandSlot idlePort.hostCapability idlePort.sataActive idlePort.commandIssue =
        .ok (some 0) ∧ 0 < (1 : UInt16).toNat ∧ 512*(1 : UInt16).toNat ≤ 2^22 ∧
      (HeapRoom.upTo 512 (by decide)).grants (512*(1 : UInt16).toNat) = true ∧
      Contiguous identityMap 0x10000 (512*(1 : UInt16).toNat) (0x10000 : Nat).toUInt64 ∧
      ∃ port', readSectors (HeapRoom.upTo 512 (by decide)) identityMap 0x10000 idlePort
          (readDrive (List.replicate 2048 7) fun _ => 0) 2 1 =
        some (.ok (port', Fs.readSectors (List.replicate 2048 7) ((2 : UInt64).toNat % 2^48)
          (1 : UInt16).toNat)) :=
  have hbuf : Contiguous identityMap 0x10000 (512*(1 : UInt16).toNat) (0x10000 : Nat).toUInt64 :=
    contiguous_identityMap (by decide)
  ⟨by decide, by decide, by decide, by decide, hbuf,
    @readSectors_readDrive (HeapRoom.upTo 512 (by decide)) identityMap 0x10000 idlePort 0 1 _
      (by decide) (by decide) (by decide) (by decide) hbuf _ _ _⟩

/-! ### A write, and a read after it -/

/-- The image after `bytes` are written over it from byte `off`. -/
def overwrite (disk : List UInt8) (off : Nat) (bytes : List UInt8) : List UInt8 :=
  disk.take off ++ bytes ++ disk.drop (off+bytes.length)

theorem length_overwrite {disk bytes : List UInt8} {off : Nat}
    (h : off+bytes.length ≤ disk.length) : (overwrite disk off bytes).length = disk.length := by
  simp only [overwrite, List.length_append, List.length_take, List.length_drop]
  omega

/-- What was written is what the image then holds there. -/
theorem take_drop_overwrite {disk bytes : List UInt8} {off : Nat}
    (h : off+bytes.length ≤ disk.length) :
    ((overwrite disk off bytes).drop off).take bytes.length = bytes := by
  have hoff : (disk.take off).length = off := by
    rw [List.length_take]
    omega
  rw [overwrite, List.append_assoc, List.drop_left' hoff, List.take_left' rfl]

/-- The drive of `readDrive` on a WRITE DMA EXT: it copies the bytes at the PRDT entry onto
the sectors the FIS names and reports the command done, and reports a task file error for any
other command, sectors past the end of the image included. With the answers, the image it
holds afterwards. -/
def writeDrive (disk : List UInt8) (mem : Nat → UInt8) (port : AhciPort) (slot : Nat) :
    (Reads × (Nat → UInt8)) × List UInt8 :=
  let c := port.slots slot
  if c.issues 0x35 1 ∧ (c.fis.lba+c.fis.count.toNat)*sectorSize ≤ disk.length then
    ((⟨[0], [0, 0], [0]⟩, mem), overwrite disk (c.fis.lba*sectorSize)
      (bytesAt mem c.dataBase.toNat (c.fis.count.toNat*sectorSize)))
  else ((⟨[0], [0, 0], [0x40000000]⟩, mem), disk)

/-- A write to the drive of a disk image, inside the image: it comes back done, and the drive
then holds the `512 * sector_count` bytes at the buffer's address from the sector at the low
48 bits of the LBA. -/
theorem writeSectors_writeDrive_eq {port : AhciPort} {slot : Nat} {sectorCount : UInt16}
    (hslot : findCommandSlot port.hostCapability port.sataActive port.commandIssue = .ok (some slot))
    (hcount : 0 < sectorCount.toNat) (hroom : 512*sectorCount.toNat ≤ 2^22)
    {disk : List UInt8} {lba : UInt64}
    (hin : (lba.toNat % 2^48+sectorCount.toNat)*sectorSize ≤ disk.length)
    {translate : Nat → Option UInt64} {addr : Nat} {dataBase : UInt64}
    (hphys : translate addr = some dataBase) (mem : Nat → UInt8) :
    writeSectors translate addr port (fun p i => (writeDrive disk mem p i).1) lba sectorCount =
        some (.ok (port.setSlot slot (programmedSlot (port.slots slot) 0x35 1 dataBase lba sectorCount),
          .ok ())) ∧
      (writeDrive disk mem (port.setSlot slot
          (programmedSlot (port.slots slot) 0x35 1 dataBase lba sectorCount)) slot).2 =
        overwrite disk ((lba.toNat % 2^48)*sectorSize)
          (bytesAt mem dataBase.toNat (sectorCount.toNat*sectorSize)) := by
  set c := programmedSlot (port.slots slot) 0x35 1 dataBase lba sectorCount with hc
  have hissues : c.issues 0x35 1 := programmedSlot_issues _ _ (by omega) _ _ hcount hroom
  have hlba : c.fis.lba = lba.toNat % 2^48 := lba_commandFis _ _ _ _
  have hcnt : c.fis.count = sectorCount := rfl
  have hbase : c.dataBase = dataBase := rfl
  have hdrive : writeDrive disk mem (port.setSlot slot c) slot =
      ((⟨[0], [0, 0], [0]⟩, mem), overwrite disk ((lba.toNat % 2^48)*sectorSize)
        (bytesAt mem dataBase.toNat (sectorCount.toNat*sectorSize))) := by
    simp only [writeDrive, setSlot_slots_self, hlba, hcnt, hbase]
    rw [if_pos ⟨hissues, hin⟩]
  refine ⟨?_, by rw [hdrive]⟩
  rw [writeSectors, transferSectors, hphys, programCommand_ok hslot hcount hroom, ← hc]
  simp only [hdrive, awaitCommand_done, Option.bind_some]
  rfl

/-- A read after a write, both against the drive of a disk image, gives back what the write
took from its buffer: the `512 * sector_count` bytes at the buffer's physical address, whatever
the length of the `Vec` they start. The two LBAs only have to agree in their low 48 bits, the
bits the FIS carries, each transfer only needs a free slot of its own port, and the read's
buffer has to come from the heap in one run of physical memory. -/
theorem readSectors_after_writeSectors {heap : HeapRoom} {translate : Nat → Option UInt64}
    {port₁ port₂ : AhciPort} {slot₁ slot₂ : Nat} {sectorCount : UInt16}
    (hslot₁ : findCommandSlot port₁.hostCapability port₁.sataActive port₁.commandIssue =
      .ok (some slot₁))
    (hslot₂ : findCommandSlot port₂.hostCapability port₂.sataActive port₂.commandIssue =
      .ok (some slot₂))
    (hcount : 0 < sectorCount.toNat) (hroom : 512*sectorCount.toNat ≤ 2^22)
    {disk : List UInt8} {lba lba' : UInt64} (hlba : lba'.toNat % 2^48 = lba.toNat % 2^48)
    (hin : (lba.toNat % 2^48+sectorCount.toNat)*sectorSize ≤ disk.length)
    {writeAddr readAddr : Nat} {writeBase readBase : UInt64}
    (hwrite : translate writeAddr = some writeBase)
    (hheap : heap.grants (512*sectorCount.toNat) = true)
    (hread : Contiguous translate readAddr (512*sectorCount.toNat) readBase)
    (mem mem' : Nat → UInt8) :
    ∃ port₁' port₂',
      writeSectors translate writeAddr port₁ (fun p i => (writeDrive disk mem p i).1) lba
          sectorCount = some (.ok (port₁', .ok ())) ∧
      readSectors heap translate readAddr port₂ (readDrive (writeDrive disk mem port₁' slot₁).2 mem')
          lba' sectorCount =
        some (.ok (port₂', .ok (bytesAt mem writeBase.toNat (512*sectorCount.toNat)))) := by
  obtain ⟨hwr, hdisk⟩ := writeSectors_writeDrive_eq hslot₁ hcount hroom hin hwrite mem
  let written := bytesAt mem writeBase.toNat (sectorCount.toNat*sectorSize)
  have hlen : written.length = sectorCount.toNat*sectorSize := Acpi.length_bytesAt _ _ _
  -- the write stays inside the image, so the image keeps its length
  have hfit : (lba.toNat % 2^48)*sectorSize+written.length ≤ disk.length := by
    rw [hlen, ← Nat.add_mul]
    exact hin
  refine ⟨_, port₂.setSlot slot₂ (programmedSlot (port₂.slots slot₂) 0x25 0 readBase lba'
    sectorCount), hwr, ?_⟩
  rw [readSectors_readDrive_eq hslot₂ hcount hroom hheap hread, hdisk, hlba, Fs.readSectors,
    if_pos (by rw [length_overwrite hfit]; exact hin)]
  have hread' := take_drop_overwrite hfit
  rw [hlen] at hread'
  rw [hread', Nat.mul_comm 512, ← sectorSize]

theorem readSectors_after_writeSectors_idlePort :
    findCommandSlot idlePort.hostCapability idlePort.sataActive idlePort.commandIssue =
        .ok (some 0) ∧ 0 < (1 : UInt16).toNat ∧ 512*(1 : UInt16).toNat ≤ 2^22 ∧
      (2 : UInt64).toNat % 2^48 = (2 : UInt64).toNat % 2^48 ∧
      ((2 : UInt64).toNat % 2^48+(1 : UInt16).toNat)*sectorSize ≤ (List.replicate 2048 7).length ∧
      identityMap 0x10000 = some (0x10000 : Nat).toUInt64 ∧
      (HeapRoom.upTo 512 (by decide)).grants (512*(1 : UInt16).toNat) = true ∧
      Contiguous identityMap 0x20000 (512*(1 : UInt16).toNat) (0x20000 : Nat).toUInt64 ∧
      ∃ port₁' port₂',
        writeSectors identityMap 0x10000 idlePort
            (fun p i => (writeDrive (List.replicate 2048 7) (fun _ => 9) p i).1) 2 1 =
          some (.ok (port₁', .ok ())) ∧
        readSectors (HeapRoom.upTo 512 (by decide)) identityMap 0x20000 idlePort
            (readDrive (writeDrive (List.replicate 2048 7) (fun _ => 9) port₁' 0).2 fun _ => 0) 2 1 =
          some (.ok (port₂', .ok (bytesAt (fun _ => 9) (0x10000 : Nat).toUInt64.toNat
            (512*(1 : UInt16).toNat)))) :=
  have hread : Contiguous identityMap 0x20000 (512*(1 : UInt16).toNat) (0x20000 : Nat).toUInt64 :=
    contiguous_identityMap (by decide)
  ⟨by decide, by decide, by decide, rfl, by rw [List.length_replicate]; decide, rfl, by decide, hread,
    @readSectors_after_writeSectors (HeapRoom.upTo 512 (by decide)) identityMap idlePort idlePort 0 0 1
      (by decide) (by decide) (by decide) (by decide) (List.replicate 2048 7) 2 2 rfl
      (by rw [List.length_replicate]; decide) 0x10000 0x20000 _ _ rfl (by decide) hread _ _⟩

end LobsterOS.Disk
