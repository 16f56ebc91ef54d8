import LobsterOS.Fat

/-! The ACPI tables of `acpi.rs`: `find_rsdp` and its checksum, and the RSDT that `get_rsdt`
and `RSDT::from_header` read, over byte memory at the physical-memory offset. -/

namespace LobsterOS.Acpi

open Elf (readLE)
open Fs (utf8Valid)

/-- How the ACPI code can stop without returning. -/
inductive Panic where
  /-- `Option::expect(msg)` or `Result::expect(msg)` on `None` or an error -/
  | expect (msg : String)
  /-- `Option::unwrap()` on `None` -/
  | unwrapNone
  /-- `assert_eq!(left, right)` with sides that differ -/
  | assertEq (left right : Nat)
  /-- `panic!(msg)`, and the arithmetic checks of a debug build -/
  | panic (msg : String)
  deriving DecidableEq, Repr

instance : PanicMsg Panic := ⟨.panic⟩

@[simp] theorem panicMsg_panic (msg : String) : (PanicMsg.panic msg : Panic) = .panic msg := rfl

/-- The `n` bytes of memory from `addr` on. -/
def bytesAt (mem : Nat → UInt8) (addr n : Nat) : List UInt8 :=
  (List.range n).map fun i => mem (addr+i)

@[simp] theorem length_bytesAt (mem : Nat → UInt8) (addr n : Nat) :
    (bytesAt mem addr n).length = n := by
  simp [bytesAt]

/-- A little-endian field of `n` bytes is below `256^n`. -/
theorem readLE_lt (bytes : List UInt8) (off n : Nat) : readLE bytes off n < 256^n := by
  have hfold : ∀ l : List UInt8, l.foldr (fun b acc => b.toNat+256*acc) 0 < 256^l.length := by
    intro l
    induction l with
    | nil => simp
    | cons b l ih =>
      have hb : b.toNat < 256 := UInt8.toNat_lt b
      simp only [List.foldr_cons, List.length_cons, pow_succ]
      omega
  calc readLE bytes off n < 256^((bytes.drop off).take n).length := hfold _
    _ ≤ 256^n := Nat.pow_le_pow_right (by norm_num) (List.length_take_le _ _)

/-! ### The RSDP -/

/-- `RSDP_REGION.step_by(0x10)`: the 16-byte aligned physical addresses of
`0x80000..=0xFFFFF`. -/
def rsdpRegion : List Nat := List.range' 0x80000 ((0xFFFFF-0x80000)/0x10+1) 0x10

/-- `size_of::<RSDPDescriptor>()`. -/
def rsdpDescriptorSize : Nat := 20

/-- `b"RSD PTR "`. -/
def rsdpSignature : List UInt8 := [0x52, 0x53, 0x44, 0x20, 0x50, 0x54, 0x52, 0x20]

/-- `RSDPDescriptor::verify_checksum`: the `u32` sum of the descriptor's bytes ends in a
zero byte. -/
def verifyChecksum (bytes : List UInt8) : Except Panic Bool := do
  let checksum ← bytes.foldlM (fun checksum byte => checkedAdd 32 checksum byte.toNat) 0
  pure (checksum &&& 0xFF == 0)

/-- `RSDPDescriptor::revision` of the descriptor at `addr`. -/
def revision (mem : Nat → UInt8) (addr : Nat) : UInt8 := mem (addr+15)

/-- `RSDPDescriptor::rsdt_address` of the descriptor at `addr`. -/
def rsdtAddress (mem : Nat → UInt8) (addr : Nat) : Nat :=
  readLE (bytesAt mem addr rsdpDescriptorSize) 16 4

/-- One pass of the loop of `find_rsdp`, at the physical address `physAddr`. -/
def findRsdpAt (mem : Nat → UInt8) (physicalOffset : UInt64) (physAddr : Nat) :
    Except Panic (Option Nat) := do
  let addr ← checkedAdd 64 physicalOffset.toNat physAddr
  if bytesAt mem addr 8 = rsdpSignature then
    if ← verifyChecksum (bytesAt mem addr rsdpDescriptorSize) then
      -- only the descriptor of ACPI revision 0 is handled
      if revision mem addr = 0 then pure (some addr)
      else throw (.assertEq (revision mem addr).toNat 0)
    else pure none
  else pure none

/-- `find_rsdp(physical_offset)`: the loop returns at the first descriptor that verifies. -/
def findRsdp (mem : Nat → UInt8) (physicalOffset : UInt64) : Except Panic (Option Nat) :=
  rsdpRegion.findSomeM? (findRsdpAt mem physicalOffset)

/-! ### The RSDT -/

/-- `size_of::<SDTHeader>()`. -/
def sdtHeaderSize : Nat := 36

/-- `SDTHeader::signature` of the header at `header`. -/
def signature (mem : Nat → UInt8) (header : Nat) : List UInt8 := bytesAt mem header 4

/-- `SDTHeader::get_length`. -/
def getLength (mem : Nat → UInt8) (header : Nat) : Nat :=
  readLE (bytesAt mem header sdtHeaderSize) 4 4

/-- `SDTHeader::get_signature_str`: the bytes of the signature as a `&str`. -/
def getSignatureStr (mem : Nat → UInt8) (header : Nat) : Except Panic (List UInt8) :=
  if utf8Valid (signature mem header) then .ok (signature mem header)
  else .error (.expect "SDT has invalid signature")

/-- `RSDT`: its header and the addresses of the tables it points to. -/
structure RSDT where
  header : Nat
  tables : List Nat
  deriving DecidableEq, Repr

/-- `size_of::<&SDTHeader>()`, the size of one element of the `Vec` of tables. -/
def sdtRefSize : Nat := 8

/-- `RSDT::from_header(header, physical_offset)`: the `u32` pointers after the header, each
moved into the mapping of physical memory. `collect()` first allocates the `Vec` of the
`tables_count` references on the kernel heap. -/
def RSDT.fromHeader (heap : HeapRoom) (mem : Nat → UInt8) (header : Nat)
    (physicalOffset : UInt64) : Except Panic RSDT := do
  let headerEndAddr ← checkedAdd 64 header sdtHeaderSize
  let tablesCount := (← checkedSub (getLength mem header) sdtHeaderSize) / 4
  heap.allocate (sdtRefSize*tablesCount)
  let tables ← (List.range tablesCount).mapM fun i =>
    checkedAdd 64 (readLE (bytesAt mem (headerEndAddr+4*i) 4) 0 4) physicalOffset.toNat
  pure ⟨header, tables⟩

/-- `get_rsdt(physical_offset)`, with the contents of the static `RSDP`. -/
def getRsdt (heap : HeapRoom) (mem : Nat → UInt8) (rsdp : Option Nat) (physicalOffset : UInt64) :
    Except Panic RSDT := do
  let some rsdp := rsdp | throw (.expect "No RSDP obtained yet")
  let rsdtHeader ← checkedAdd 64 (rsdtAddress mem rsdp) physicalOffset.toNat
  RSDT.fromHeader heap mem rsdtHeader physicalOffset

/-- `acpi::init(phys_offset)`: the RSDP and the RSDT that it stores in `RSDP` and `RSDT`. -/
def init (heap : HeapRoom) (mem : Nat → UInt8) (physOffset : UInt64) :
    Except Panic (Nat × RSDT) := do
  let some rsdp ← findRsdp mem physOffset
    | throw (.expect "Failed to find RSDP signature in specified memory region")
  let rsdt ← getRsdt heap mem (some rsdp) physOffset
  pure (rsdp, rsdt)

/-! ### The checksum -/

/-- The sum of the bytes, which `verify_checksum` accumulates. -/
def byteSum (bytes : List UInt8) : Nat := (bytes.map UInt8.toNat).sum

/-- The checksum loop never overflows while the bytes cannot reach `2^32`. -/
theorem foldlM_checkedAdd (bytes : List UInt8) :
    ∀ acc, acc + 255*bytes.length < 2^32 →
      bytes.foldlM (fun checksum byte => (checkedAdd 32 checksum byte.toNat : Except Panic Nat))
        acc = .ok (acc + byteSum bytes) := by
  induction bytes with
  | nil => intro acc _; rfl
  | cons b bs ih =>
    intro acc hacc
    have hb : b.toNat < 256 := UInt8.toNat_lt b
    simp only [List.length_cons] at hacc
    have hstep : acc + b.toNat < 2^32 := by omega
    rw [List.foldlM_cons, checkedAdd_of_lt hstep]
    -- the passes after the first, from the sum it left
    have hrest := ih (acc + b.toNat) (by omega)
    simp only [bind, Except.bind, hrest, byteSum, List.map_cons, List.sum_cons]
    congr 1
    omega

theorem verifyChecksum_eq {bytes : List UInt8} (h : 255*bytes.length < 2^32) :
    verifyChecksum bytes = .ok (byteSum bytes % 256 == 0) := by
  have hfold := foldlM_checkedAdd bytes 0 (by omega)
  rw [Nat.zero_add] at hfold
  have hmask : byteSum bytes &&& 0xFF = byteSum bytes % 256 :=
    Nat.and_two_pow_sub_one_eq_mod (byteSum bytes) 8
  simp only [verifyChecksum, hfold, bind, Except.bind, pure, Except.pure, hmask]

/-- Whether the descriptor at `addr` is one that `find_rsdp` accepts: it starts with the
signature, and its bytes sum to a multiple of 256. -/
def isRsdp (mem : Nat → UInt8) (addr : Nat) : Bool :=
  bytesAt mem addr 8 == rsdpSignature && byteSum (bytesAt mem addr rsdpDescriptorSize) % 256 == 0

theorem findRsdpAt_eq {mem : Nat → UInt8} {physicalOffset : UInt64} {physAddr : Nat}
    (h : physicalOffset.toNat + physAddr < 2^64) :
    findRsdpAt mem physicalOffset physAddr =
      if isRsdp mem (physicalOffset.toNat + physAddr) then
        if revision mem (physicalOffset.toNat + physAddr) = 0 then
          .ok (some (physicalOffset.toNat + physAddr))
        else .error (.assertEq (revision mem (physicalOffset.toNat + physAddr)).toNat 0)
      else .ok none := by
  have hsum : verifyChecksum (bytesAt mem (physicalOffset.toNat + physAddr) rsdpDescriptorSize) =
      _ := verifyChecksum_eq (by simp [rsdpDescriptorSize])
  rw [findRsdpAt, checkedAdd_of_lt h]
  simp only [bind, Except.bind]
  by_cases hsig : bytesAt mem (physicalOffset.toNat + physAddr) 8 = rsdpSignature
  · rw [if_pos hsig, hsum]
    by_cases hcs : byteSum (bytesAt mem (physicalOffset.toNat + physAddr) rsdpDescriptorSize)
        % 256 = 0
    · have hr : isRsdp mem (physicalOffset.toNat + physAddr) = true := by
        simp [isRsdp, hsig, hcs]
      simp only [hcs, beq_self_eq_true, if_true, hr]
      rfl
    · have hr : isRsdp mem (physicalOffset.toNat + physAddr) = false := by simp [isRsdp, hcs]
      simp only [hcs, hr, beq_iff_eq, if_false, Bool.false_eq_true]
      rfl
  · have hr : isRsdp mem (physicalOffset.toNat + physAddr) = false := by simp [isRsdp, hsig]
    rw [if_neg hsig, hr]
    rfl

/-- The address at which `find_rsdp` stops: the first aligned one of the region, in the mapping
at `physicalOffset`, that holds a descriptor it accepts. -/
def firstRsdp (mem : Nat → UInt8) (physicalOffset : Nat) : Option Nat :=
  (rsdpRegion.map (physicalOffset + ·)).find? (isRsdp mem)

theorem le_of_mem_rsdpRegion {physAddr : Nat} (h : physAddr ∈ rsdpRegion) :
    physAddr ≤ 0xFFFFF := by
  obtain ⟨i, hi, rfl⟩ := List.mem_range'.mp h
  omega

/-- `find_rsdp` returns the first 16-byte aligned address of the region, in the mapping at
`physical_offset`, where a descriptor starts with `"RSD PTR "` and has bytes that sum to a
multiple of 256; the `assert_eq!` stops it there if that descriptor's revision is not 0. It
returns `None` only when no such address exists. -/
theorem findRsdp_eq {mem : Nat → UInt8} {physicalOffset : UInt64}
    (h : physicalOffset.toNat + 0xFFFFF < 2^64) :
    findRsdp mem physicalOffset =
      match firstRsdp mem physicalOffset.toNat with
      | some addr =>
        if revision mem addr = 0 then .ok (some addr)
        else .error (.assertEq (revision mem addr).toNat 0)
      | none => .ok none := by
  have hpass : ∀ physAddr, physAddr ∈ rsdpRegion →
      (isRsdp mem (physicalOffset.toNat + physAddr) = false ↔
        findRsdpAt mem physicalOffset physAddr = .ok none) := by
    intro physAddr hmem
    have hlt : physicalOffset.toNat + physAddr < 2^64 := by
      have := le_of_mem_rsdpRegion hmem
      omega
    rw [findRsdpAt_eq hlt]
    by_cases hr : isRsdp mem (physicalOffset.toNat + physAddr)
    · by_cases hrev : revision mem (physicalOffset.toNat + physAddr) = 0
      · simp [hr, hrev]
      · simp [hr, hrev]
    · simp [hr]
  rw [findRsdp, except_findSomeM?_eq_find? hpass, firstRsdp, List.find?_map, Function.comp_def]
  cases hfind : rsdpRegion.find? (fun physAddr => isRsdp mem (physicalOffset.toNat + physAddr)) with
  | none => rfl
  | some physAddr =>
    have hlt : physicalOffset.toNat + physAddr < 2^64 := by
      have := le_of_mem_rsdpRegion (List.mem_of_find?_eq_some hfind)
      omega
    have hr : isRsdp mem (physicalOffset.toNat + physAddr) := by
      simpa using List.find?_some hfind
    show findRsdpAt mem physicalOffset physAddr = _
    rw [findRsdpAt_eq hlt, if_pos hr]
    rfl

/-- `tables_count` of `RSDT::from_header`: one table for each 4 bytes after the header. -/
def tablesCount (mem : Nat → UInt8) (header : Nat) : Nat := (getLength mem header - sdtHeaderSize)/4

/-- The tables of the RSDT at `header`: its `u32` pointers, each moved by `physicalOffset`. -/
def rsdtTables (mem : Nat → UInt8) (header physicalOffset : Nat) : List Nat :=
  (List.range (tablesCount mem header)).map fun i =>
    readLE (bytesAt mem (header+sdtHeaderSize+4*i) 4) 0 4 + physicalOffset

/-- What `RSDT::from_header` returns on a table no shorter than its header: the tables its
pointers name, once the heap hands out their `Vec`. -/
def rsdtOfHeap (heap : HeapRoom) (mem : Nat → UInt8) (header physicalOffset : Nat) :
    Except Panic RSDT :=
  if heap.grants (sdtRefSize*tablesCount mem header) then
    .ok ⟨header, rsdtTables mem header physicalOffset⟩
  else .error (.panic (allocError (sdtRefSize*tablesCount mem header)))

/-- A table of more than `HEAP_SIZE / 8` pointers never gets its `Vec`. -/
theorem rsdtOfHeap_of_heapSize_lt {heap : HeapRoom} {mem : Nat → UInt8} {header physicalOffset : Nat}
    (h : heapSize < sdtRefSize*tablesCount mem header) :
    rsdtOfHeap heap mem header physicalOffset =
      .error (.panic (allocError (sdtRefSize*tablesCount mem header))) := by
  rw [rsdtOfHeap, heap.grants_eq_false h]
  rfl

/-- Where the mapping of physical memory leaves room above every 32-bit pointer,
`RSDT::from_header` fails only on a table shorter than its header or when the heap refuses the
`Vec` of its tables, and otherwise returns the tables its pointers name. -/
theorem RSDT.fromHeader_eq {heap : HeapRoom} {mem : Nat → UInt8} {header : Nat}
    {physicalOffset : UInt64}
    (hh : header + sdtHeaderSize < 2^64) (hoff : physicalOffset.toNat + 2^32 ≤ 2^64) :
    RSDT.fromHeader heap mem header physicalOffset =
      if sdtHeaderSize ≤ getLength mem header then rsdtOfHeap heap mem header physicalOffset.toNat
      else .error (.panic "attempt to subtract with overflow") := by
  rw [RSDT.fromHeader, checkedAdd_of_lt hh]
  by_cases hlen : sdtHeaderSize ≤ getLength mem header
  · rw [if_pos hlen, rsdtOfHeap]
    simp only [bind, Except.bind, checkedSub_of_le hlen]
    by_cases hg : heap.grants (sdtRefSize*tablesCount mem header)
    · -- the `Vec` comes back, and no pointer moved by the offset overflows
      have hptr : ∀ i, i ∈ List.range (tablesCount mem header) →
          (checkedAdd 64 (readLE (bytesAt mem (header+sdtHeaderSize+4*i) 4) 0 4)
            physicalOffset.toNat : Except Panic Nat) =
          .ok (readLE (bytesAt mem (header+sdtHeaderSize+4*i) 4) 0 4 + physicalOffset.toNat) := by
        intro i _
        have hread := readLE_lt (bytesAt mem (header+sdtHeaderSize+4*i) 4) 0 4
        exact checkedAdd_of_lt (by omega)
      rw [← tablesCount, HeapRoom.allocate_of_grants hg, if_pos hg]
      simp only [mapM_of_pure hptr]
      rfl
    · have hg' : heap.grants (sdtRefSize*tablesCount mem header) = false := by simpa using hg
      rw [← tablesCount, HeapRoom.allocate_of_not_grants hg', if_neg hg]
      rfl
  · rw [checkedSub_of_lt (by omega), if_neg hlen]
    rfl

/-- `get_rsdt` on the RSDP, where the mapping of physical memory lies in the lower half of the
address space: the RSDT at the address it names, moved into the mapping. -/
theorem getRsdt_eq {heap : HeapRoom} {mem : Nat → UInt8} {physOffset : UInt64} {rsdp : Nat}
    (hoff : physOffset.toNat < 2^63) :
    getRsdt heap mem (some rsdp) physOffset =
      if sdtHeaderSize ≤ getLength mem (rsdtAddress mem rsdp + physOffset.toNat) then
        rsdtOfHeap heap mem (rsdtAddress mem rsdp + physOffset.toNat) physOffset.toNat
      else .error (.panic "attempt to subtract with overflow") := by
  -- the RSDT address is a `u32`, so neither it nor its header end overflows the mapping
  have hrsdt : rsdtAddress mem rsdp < 2^32 := readLE_lt (bytesAt mem rsdp rsdpDescriptorSize) 16 4
  have hh : rsdtAddress mem rsdp + physOffset.toNat + sdtHeaderSize < 2^64 := by
    unfold sdtHeaderSize
    omega
  rw [getRsdt, checkedAdd_of_lt (show rsdtAddress mem rsdp + physOffset.toNat < 2^64 by omega)]
  exact RSDT.fromHeader_eq hh (by omega)

/-- `acpi::init` in full, where the mapping of physical memory lies in the lower half of the
address space: it fails when the region holds no RSDP, at the `assert_eq!` when the first one
is not of revision 0, when the RSDT it names is shorter than its header, and when the heap
refuses the `Vec` of its tables; otherwise it stores that RSDP and the RSDT with the tables
its pointers name. -/
theorem init_eq_firstRsdp {heap : HeapRoom} {mem : Nat → UInt8} {physOffset : UInt64}
    (hoff : physOffset.toNat < 2^63) :
    init heap mem physOffset =
      match firstRsdp mem physOffset.toNat with
      | none => .error (.expect "Failed to find RSDP signature in specified memory region")
      | some rsdp =>
        if revision mem rsdp = 0 then
          if sdtHeaderSize ≤ getLength mem (rsdtAddress mem rsdp + physOffset.toNat) then
            if heap.grants (sdtRefSize*tablesCount mem (rsdtAddress mem rsdp + physOffset.toNat))
            then .ok (rsdp, ⟨rsdtAddress mem rsdp + physOffset.toNat,
              rsdtTables mem (rsdtAddress mem rsdp + physOffset.toNat) physOffset.toNat⟩)
            else .error (.panic (allocError
              (sdtRefSize*tablesCount mem (rsdtAddress mem rsdp + physOffset.toNat))))
          else .error (.panic "attempt to subtract with overflow")
        else .error (.assertEq (revision mem rsdp).toNat 0) := by
  rw [init, findRsdp_eq (by omega)]
  cases firstRsdp mem physOffset.toNat with
  | none => rfl
  | some rsdp =>
    by_cases hrev : revision mem rsdp = 0
    · simp only [if_pos hrev, bind, Except.bind, pure, Except.pure, getRsdt_eq hoff, rsdtOfHeap]
      split_ifs <;> rfl
    · simp only [if_neg hrev, bind, Except.bind]

/-- A BIOS memory with physical memory mapped at 0: an RSDP at `0x80000` naming an RSDT at
`0x90000`, whose one pointer names an MCFG at `0xA0000` with the ECAM of buses `0..1` at
`0xB0000000`; every other byte reads `0xFF`. -/
def sampleMem (addr : Nat) : UInt8 :=
  if 0x80000 ≤ addr ∧ addr < 0x80000+20 then
    -- "RSD PTR ", its checksum, the OEM id, revision 0, the RSDT address
    [0x52, 0x53, 0x44, 0x20, 0x50, 0x54, 0x52, 0x20, 0xD8, 0, 0, 0, 0, 0, 0, 0,
      0x00, 0x00, 0x09, 0x00].getD (addr-0x80000) 0
  else if 0x90000 ≤ addr ∧ addr < 0x90000+40 then
    -- "RSDT" of 40 bytes, then one pointer
    (([0x52, 0x53, 0x44, 0x54, 40, 0, 0, 0] : List UInt8) ++ List.replicate 28 0 ++
      [0x00, 0x00, 0x0A, 0x00]).getD (addr-0x90000) 0
  else if 0xA0000 ≤ addr ∧ addr < 0xA0000+60 then
    -- "MCFG" of 60 bytes, its reserved field, then one entry
    (([0x4D, 0x43, 0x46, 0x47, 60, 0, 0, 0] : List UInt8) ++ List.replicate 36 0 ++
      [0x00, 0x00, 0x00, 0xB0, 0, 0, 0, 0, 0, 0, 0, 1, 0, 0, 0, 0]).getD (addr-0xA0000) 0
  else 0xFF

theorem init_sampleMem :
    (0 : UInt64).toNat < 2^63 ∧
      init (HeapRoom.upTo 8 (by decide)) sampleMem 0 =
        .ok (0x80000, ⟨0x90000, rsdtTables sampleMem 0x90000 0⟩) :=
  ⟨by decide, by rw [init_eq_firstRsdp (by decide)]; decide⟩

end LobsterOS.Acpi
