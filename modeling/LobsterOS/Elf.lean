import LobsterOS.Memory

/-! The ELF loader of `elf.rs`: `ElfHeader::from_slice` and `map_elf_file_to_process`, over any
`map_to` and frame allocator. -/

namespace LobsterOS.Elf

/-- How `map_elf_file_to_process` can stop without returning. -/
inductive Panic where
  /-- `Option::expect(msg)` on `None` -/
  | expect (msg : String)
  /-- `ElfHeader::from_slice(..).expect("invalid elf header")` on an error -/
  | invalidElfHeader (err : String)
  /-- `Result::unwrap()` on an error of `map_to` -/
  | unwrap (err : MapToError)
  /-- indexing past the end of a slice -/
  | indexOutOfBounds (len index : Nat)
  /-- a range whose end lies past the end of a slice -/
  | sliceEndOutOfRange (stop len : Nat)
  /-- arithmetic overflow checks of a debug build -/
  | overflow (msg : String)
  /-- `VirtAddr::new` on an address whose bits 47..64 are neither all clear, all set, nor 1 -/
  | virtAddrNotValid (bits : Nat)
  /-- a write to an unmapped page: the page fault handler prints and halts -/
  | pageFault (addr : Nat)
  deriving DecidableEq, Repr

/-- The messages of the overflow checks of a debug build. -/
instance : PanicMsg Panic := ⟨.overflow⟩

@[simp] theorem panicMsg_overflow (msg : String) : (PanicMsg.panic msg : Panic) = .overflow msg :=
  rfl

/-- `align_down(addr, align)` for a power of two `align`. -/
def alignDown (addr align : Nat) : Nat := addr/align*align

/-- `VirtAddr::new`: an address whose bits 47..64 are 1 is sign-extended, and one whose bits
47..64 are neither 0, `0x1ffff` nor 1 is refused. -/
def virtAddrNew (addr : Nat) : Except Panic Nat :=
  let bits := addr/2^47
  if bits = 0 ∨ bits = 0x1ffff then .ok addr
  else if bits = 1 then .ok (addr+0xFFFF_0000_0000_0000)
  else .error (.virtAddrNotValid bits)

/-- `Page::<Size4KiB>::containing_address`: the start of the page an address lies in. -/
def containingPage (addr : Nat) : Nat := alignDown addr 0x1000

/-- The integer stored little-endian in the `n` bytes at `off`. -/
def readLE (bytes : List UInt8) (off n : Nat) : Nat :=
  ((bytes.drop off).take n).foldr (fun b acc => b.toNat+256*acc) 0

/-- `n` as `k` little-endian bytes, as `to_le_bytes` gives them. -/
def leBytes (n : Nat) : Nat → List UInt8
  | 0 => []
  | k+1 => (n%256).toUInt8 :: leBytes (n/256) k

/-- Little-endian bytes read back as the number modulo their range. -/
theorem foldr_leBytes : ∀ (k n : Nat),
    (leBytes n k).foldr (fun b acc => b.toNat+256*acc) 0 = n % 256^k
  | 0, n => by simp [leBytes, Nat.mod_one]
  | k+1, n => by
    have hbyte : (n % 256).toUInt8.toNat = n % 256 := by simp
    rw [leBytes, List.foldr_cons, foldr_leBytes k (n/256), hbyte, Nat.pow_succ', Nat.mod_mul]

@[simp] theorem length_leBytes : ∀ (n k : Nat), (leBytes n k).length = k
  | _, 0 => rfl
  | n, k+1 => by rw [leBytes, List.length_cons, length_leBytes (n/256) k]

theorem readLE_leBytes (n k : Nat) : readLE (leBytes n k) 0 k = n % 256^k := by
  rw [readLE, List.drop_zero, List.take_of_length_le (by simp), foldr_leBytes]

/-- `MAGIC_NUM`: `b"\x7FELF"`. -/
def magicNum : List UInt8 := [0x7F, 0x45, 0x4C, 0x46]

/-- `size_of::<ElfHeader>()`. -/
def elfHeaderSize : Nat := 64

/-- `size_of::<ProgramHeader>()`. -/
def programHeaderSize : Nat := 56

/-- The fields of `ElfHeader` that the loader reads. -/
structure ElfHeader where
  magicNum : List UInt8
  bits : Nat
  endianness : Nat
  instructionSet : Nat
  programEntry : Nat
  programHeaderTable : Nat
  programEntryCount : Nat
  deriving DecidableEq, Repr

inductive ElfVerifyError where
  | BadSliceSize (size : Nat)
  | BadMagicNum
  | Elf32Bit
  | BadEndianness
  | BadArch
  deriving DecidableEq, Repr

/-- The `Debug` text of an `ElfVerifyError`, which `expect` prints. -/
def ElfVerifyError.debug : ElfVerifyError → String
  | .BadSliceSize size => "BadSliceSize(" ++ toString size ++ ")"
  | .BadMagicNum => "BadMagicNum"
  | .Elf32Bit => "Elf32Bit"
  | .BadEndianness => "BadEndianness"
  | .BadArch => "BadArch"

namespace ElfHeader

/-- The header at the start of `bytes`, read at the offsets of the packed struct. -/
def read (bytes : List UInt8) : ElfHeader :=
  { magicNum := (bytes.take 4)
    bits := readLE bytes 4 1
    endianness := readLE bytes 5 1
    instructionSet := readLE bytes 18 2
    programEntry := readLE bytes 24 8
    programHeaderTable := readLE bytes 32 8
    programEntryCount := readLE bytes 56 2 }

def fromSlice (bytes : List UInt8) : Except ElfVerifyError ElfHeader :=
  if bytes.length ≠ elfHeaderSize then .error (.BadSliceSize bytes.length) else
  let header := read bytes
  if header.magicNum ≠ Elf.magicNum then .error .BadMagicNum
  else if header.bits ≠ 2 then .error .Elf32Bit
  else if header.endianness ≠ 1 then .error .BadEndianness
  else if header.instructionSet ≠ 0x3E then .error .BadArch
  else .ok header

end ElfHeader

/-- `ProgramHeaderType::Load`. -/
def load : Nat := 0x1

/-- The fields of `ProgramHeader` that the loader reads. -/
structure ProgramHeader where
  headerType : Nat
  offset : Nat
  virtAddr : Nat
  fileSize : Nat
  memSize : Nat
  deriving DecidableEq, Repr

def ProgramHeader.read (bytes : List UInt8) (off : Nat) : ProgramHeader :=
  { headerType := readLE bytes off 4
    offset := readLE bytes (off+8) 8
    virtAddr := readLE bytes (off+16) 8
    fileSize := readLE bytes (off+32) 8
    memSize := readLE bytes (off+40) 8 }

/-- The `program_entry_count` headers of the table at `program_header_table`. -/
def programHeaders (file : List UInt8) (header : ElfHeader) : List ProgramHeader :=
  (List.range header.programEntryCount).map fun k =>
    ProgramHeader.read file (header.programHeaderTable+programHeaderSize*k)

/-- `PageTableFlags::PRESENT | PageTableFlags::WRITABLE | PageTableFlags::USER_ACCESSIBLE`. -/
def userFlags : Nat := 0b111

/-- What the loader uses of `OffsetPageTable`: `map_to(page, frame, flags, allocator)`, which
may take frames of its own for new page tables, and the frame a page translates to. -/
structure Mapper (M A : Type) where
  mapTo : M → Nat → Nat → Nat → A → Except MapToError (M × A)
  translate : M → Nat → Option Nat

/-- The state the loops of `map_elf_file_to_process` carry: `regions`, `frames`, the page
table, the frame allocator, and the copies made so far (each a destination address and the
bytes written there). -/
structure LoadState (M A : Type) where
  regions : List Nat
  frames : List Nat
  pageTable : M
  frameAllocator : A
  writes : List (Nat × List UInt8)

variable {M A : Type} [FrameAllocator A]

/-- One pass of the page loop of a segment at `virtAddr`. -/
def mapPage (mapper : Mapper M A) (virtAddr : Nat) (st : LoadState M A) (i : Nat) :
    Except Panic (LoadState M A) := do
  let pageAddr ← checkedAdd 64 (← checkedMul 64 i 0x1000) (alignDown virtAddr 0x1000)
  if pageAddr ∈ st.regions then return st
  let (frame?, frameAllocator) := FrameAllocator.allocateFrame st.frameAllocator
  let some frame := frame? | throw (.expect "failed to allocate frame")
  -- the page mapped is the one containing `virt_addr`, whatever `i` is
  let page := containingPage (← virtAddrNew virtAddr)
  match mapper.mapTo st.pageTable page frame userFlags frameAllocator with
  | .error e => throw (.unwrap e)
  | .ok (pageTable, frameAllocator) =>
    return { st with
      regions := st.regions ++ [pageAddr]
      frames := st.frames ++ [frame]
      pageTable
      frameAllocator }

/-- One pass of the copy loop of a segment, carrying `working_offset` and the copies. The
destination page is a slice of `0x1000` bytes at `page_addr` in the process's address space. -/
def copyPage (mapper : Mapper M A) (file : List UInt8) (pageTable : M) (ph : ProgramHeader) :
    Nat × List (Nat × List UInt8) → Nat → Except Panic (Nat × List (Nat × List UInt8))
  | (workingOffset, writes), _ => do
    let lowerBound ← checkedAdd 64 ph.offset workingOffset
    let pageAddr := alignDown (← checkedAdd 64 ph.virtAddr workingOffset) 0x1000
    let pageEnd ← checkedAdd 64 pageAddr 0x1000
    let writeSize := min pageEnd (← checkedAdd 64 (← checkedSub ph.fileSize workingOffset) 1)
    let lowerBoundOffset := lowerBound%0x1000
    let stop ← checkedAdd 64 lowerBoundOffset writeSize
    if 0x1000 < stop then throw (.sliceEndOutOfRange stop 0x1000)
    let fileStop ← checkedAdd 64 lowerBound writeSize
    if file.length < fileStop then throw (.sliceEndOutOfRange fileStop file.length)
    if (mapper.translate pageTable pageAddr).isNone then throw (.pageFault (pageAddr+lowerBoundOffset))
    let workingOffset ← checkedAdd 64 workingOffset writeSize
    return (workingOffset,
      writes ++ [(pageAddr+lowerBoundOffset, (file.drop lowerBound).take writeSize)])

/-- One pass of the loop over the program headers. -/
def loadSegment (mapper : Mapper M A) (file : List UInt8) (st : LoadState M A)
    (ph : ProgramHeader) : Except Panic (LoadState M A) := do
  if ph.headerType ≠ load then return st
  let pageCount := ph.memSize/0x1000+1
  let st ← (List.range pageCount).foldlM (mapPage mapper ph.virtAddr) st
  let fileDataPageCount := ph.fileSize/0x1000+1
  let (_, writes) ← (List.range fileDataPageCount).foldlM
    (copyPage mapper file st.pageTable ph) (0, st.writes)
  return { st with writes }

/-- What `map_elf_file_to_process` leaves: the frames it returns, the entry point it
returns, and the page table, allocator and memory writes it leaves behind. -/
structure Loaded (M A : Type) where
  frames : List Nat
  entry : Nat
  pageTable : M
  frameAllocator : A
  writes : List (Nat × List UInt8)

def mapElfFileToProcess (mapper : Mapper M A) (file : List UInt8) (pageTable : M)
    (frameAllocator : A) : Option (Except Panic (Loaded M A)) :=
  -- `&file[..size_of::<ElfHeader>()]`
  if file.length < elfHeaderSize then
    some (.error (.sliceEndOutOfRange elfHeaderSize file.length)) else
  match ElfHeader.fromSlice (file.take elfHeaderSize) with
  | .error e => some (.error (.invalidElfHeader e.debug))
  | .ok header =>
    -- `addr_of!(file[program_header_table])`
    if file.length ≤ header.programHeaderTable then
      some (.error (.indexOutOfBounds file.length header.programHeaderTable))
    -- the headers are read through a raw pointer: past the end of the file nothing is defined
    else if file.length < header.programHeaderTable+programHeaderSize*header.programEntryCount then
      none
    else
      some do
        let st ← (programHeaders file header).foldlM (loadSegment mapper file)
          ⟨[], [], pageTable, frameAllocator, []⟩
        return ⟨st.frames, header.programEntry, st.pageTable, st.frameAllocator, st.writes⟩

end LobsterOS.Elf
