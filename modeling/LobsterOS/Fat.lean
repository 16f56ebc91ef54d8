import LobsterOS.Elf

/-! The FAT32 mount of `fs.rs`: `fs::init` and `parse_directory` over a disk image, and
`File::get_data`. -/

namespace LobsterOS.Fs

open Elf (readLE)

/-- How `fs::init` can stop without returning. -/
inductive Panic where
  /-- `Option::expect(msg)` or `Result::expect(msg)` on `None` or an error -/
  | expect (msg : String)
  /-- `Option::unwrap()` on `None` -/
  | unwrapNone
  /-- `panic!(msg)`, and the arithmetic checks of a debug build -/
  | panic (msg : String)
  deriving DecidableEq, Repr

instance : PanicMsg Panic := ⟨.panic⟩

@[simp] theorem panicMsg_panic (msg : String) : (PanicMsg.panic msg : Panic) = .panic msg := rfl

/-- `DiskAccessError`. -/
inductive DiskAccessError where
  | NoCommandSlots
  | TaskFileError
  deriving DecidableEq, Repr

/-- The bytes of a sector. -/
def sectorSize : Nat := 512

/-- `disk::read_sectors(mapper, drive_num, lba, sector_count)` on a disk image. -/
def readSectors (disk : List UInt8) (lba sectorCount : Nat) : Except DiskAccessError (List UInt8) :=
  if (lba+sectorCount)*sectorSize ≤ disk.length then
    .ok ((disk.drop (lba*sectorSize)).take (sectorCount*sectorSize))
  else .error .TaskFileError

/-- An unsigned result of `w` bits, with the overflow check of a debug build. -/
def checked (w n : Nat) (msg : String) : Except Panic Nat :=
  if n < 2^w then .ok n else .error (.panic msg)

theorem checked_eq_ok {w n c : Nat} {msg : String} : checked w n msg = .ok c ↔ n < 2^w ∧ n = c := by
  unfold checked
  split_ifs with h <;> simp [h]

/-- The fields of `FatBootSector` that `fs.rs` reads. -/
structure BootSector where
  bytesPerSector : Nat
  sectorsPerCluster : Nat
  reservedSectorCount : Nat
  tableCount : Nat
  rootEntryCount : Nat
  tableSize16 : Nat
  tableSize32 : Nat
  rootCluster : Nat
  deriving DecidableEq, Repr

/-- `size_of::<FatBootSector>()`. -/
def bootSectorSize : Nat := 90

/-- The `transmute` of the boot sector's bytes into a `FatBootSector`. -/
def BootSector.read (bytes : List UInt8) : BootSector where
  bytesPerSector := readLE bytes 11 2
  sectorsPerCluster := readLE bytes 13 1
  reservedSectorCount := readLE bytes 14 2
  tableCount := readLE bytes 16 1
  rootEntryCount := readLE bytes 17 2
  tableSize16 := readLE bytes 22 2
  tableSize32 := readLE bytes 36 4
  rootCluster := readLE bytes 44 4

/-- `first_data_sector` as `parse_directory` computes it: `root_dir_sectors` in `u16`, the
sum in `u32`. -/
def firstDataSector (bs : BootSector) : Except Panic Nat := do
  let fatSize := if bs.tableSize16 = 0 then bs.tableSize32 else bs.tableSize16
  let n ← checked 16 (bs.rootEntryCount*32) "attempt to multiply with overflow"
  let n ← checked 16 (n+bs.bytesPerSector) "attempt to add with overflow"
  let n ← checkedSub n 1
  if bs.bytesPerSector = 0 then throw (.panic "attempt to divide by zero")
  let rootDirSectors := n/bs.bytesPerSector
  let n ← checked 32 (bs.tableCount*fatSize) "attempt to multiply with overflow"
  let n ← checked 32 (bs.reservedSectorCount+n) "attempt to add with overflow"
  checked 32 (n+rootDirSectors) "attempt to add with overflow"

/-- The sectors of one cluster, read as the loop of `parse_directory` reads them. -/
def clusterData (disk : List UInt8) (bs : BootSector) (clusterIdx : Nat) :
    Except Panic (List UInt8) := do
  let fds ← firstDataSector bs
  let n ← checkedSub clusterIdx 2
  let n ← checked 32 (n*bs.sectorsPerCluster) "attempt to multiply with overflow"
  let firstSector ← checked 32 (n+fds) "attempt to add with overflow"
  match readSectors disk firstSector bs.sectorsPerCluster with
  | .error _ => throw (.expect "failed to read root cluster")
  | .ok data => pure data

/-- `array_chunks::<32>()`: the whole 32-byte chunks, a trailing part dropped. -/
def entries (data : List UInt8) : List (List UInt8) :=
  (List.range (data.length/32)).map fun k => (data.drop (32*k)).take 32

/-- The byte at `i` of a fixed-size array. -/
def byte (bytes : List UInt8) (i : Nat) : UInt8 := bytes.getD i 0

/-- Whether bytes are well-formed UTF-8, as `core::str::from_utf8` checks (the Unicode
standard's table of well-formed byte sequences). -/
def utf8Valid : List UInt8 → Bool
  | [] => true
  | b :: bs =>
    if b < 0x80 then utf8Valid bs
    else match bs with
      | [] => false
      | c1 :: rest1 =>
        let cont (c : UInt8) : Bool := 0x80 ≤ c && c ≤ 0xBF
        if 0xC2 ≤ b && b ≤ 0xDF then cont c1 && utf8Valid rest1
        else match rest1 with
          | [] => false
          | c2 :: rest2 =>
            -- the second byte's range after the lead bytes with a narrower one
            let lo : UInt8 := if b = 0xE0 then 0xA0 else if b = 0xF0 then 0x90 else 0x80
            let hi : UInt8 := if b = 0xED then 0x9F else if b = 0xF4 then 0x8F else 0xBF
            let second : Bool := lo ≤ c1 && c1 ≤ hi
            if 0xE0 ≤ b && b ≤ 0xEF then second && cont c2 && utf8Valid rest2
            else if 0xF0 ≤ b && b ≤ 0xF4 then
              match rest2 with
              | [] => false
              | c3 :: rest3 => second && cont c2 && cont c3 && utf8Valid rest3
            else false

/-- `File::get_name`: `"/"` for an entry whose name starts with a zero byte, otherwise its
11 name bytes as a `&str`. -/
def getName (file : List UInt8) : Except Panic (List UInt8) :=
  let name := file.take 11
  if byte file 0 = 0 then .ok [0x2F]
  else if utf8Valid name then .ok name
  else .error (.expect "invalid ascii in filename")

/-- `File::get_data_addr`: `cluster_l | cluster_h << 16`. -/
def getDataAddr (file : List UInt8) : Nat :=
  readLE file 26 2 ||| (readLE file 20 2 <<< 16)

/-- `File::file_size`. -/
def fileSize (file : List UInt8) : Nat := readLE file 28 4

/-- `File::get_data(mapper)`, with the boot sector `fs::init` stored: the sectors from the
first sector of the file's first cluster on, as many as `file_size / bytes_per_sector + 1`
cast to `u16`, cut to `file_size` bytes; `none` where `set_len` would reach past the
buffer's capacity, which is undefined. -/
def getData (disk : List UInt8) (bs : BootSector) (file : List UInt8) :
    Option (Except Panic (Except DiskAccessError (List UInt8))) :=
  let sectors : Except Panic (Nat × Nat) := do
    let fds ← firstDataSector bs
    let n ← checkedSub (getDataAddr file) 2
    let n ← checked 32 (n*bs.sectorsPerCluster) "attempt to multiply with overflow"
    let firstSector ← checked 32 (n+fds) "attempt to add with overflow"
    -- `first_data_sector` has divided by `bytes_per_sector` already, so it is not 0 here
    let sectorCount ← checked 32 (fileSize file/bs.bytesPerSector+1) "attempt to add with overflow"
    pure (firstSector, sectorCount%2^16)
  match sectors with
  | .error p => some (.error p)
  | .ok (firstSector, sectorCount) =>
    match readSectors disk firstSector sectorCount with
    | .error e => some (.ok (.error e))
    | .ok data =>
      if fileSize file ≤ sectorCount*sectorSize then some (.ok (.ok (data.take (fileSize file))))
      else none

/-- The `directory` bit of `File::attributes`. -/
def isDirectory (file : List UInt8) : Bool := (byte file 11).toNat.testBit 4

/-- The names `"."` and `".."`, padded with blanks to 11 bytes. -/
def dotName : List UInt8 := 0x2E :: List.replicate 10 0x20

def dotDotName : List UInt8 := [0x2E, 0x2E] ++ List.replicate 9 0x20

/-- `File::default()`. -/
def defaultFile : List UInt8 := List.replicate 32 0

/-- A node of the `Tree<File>` that `fs::init` stores in `FILE_SYSTEM`. -/
inductive FileTree where
  | node (file : List UInt8) (children : List FileTree)
  deriving Repr

def FileTree.children : FileTree → List FileTree
  | .node _ children => children

-- equality of trees, by recursion through the nested list (which `deriving` does not reach)
mutual
def FileTree.decEq : (a b : FileTree) → Decidable (a = b)
  | .node f cs, .node g ds =>
    if hf : f = g then
      match FileTree.decEqList cs ds with
      | isTrue hc => isTrue (hf ▸ hc ▸ rfl)
      | isFalse hc => isFalse fun h => hc (FileTree.node.inj h).2
    else isFalse fun h => hf (FileTree.node.inj h).1

def FileTree.decEqList : (as bs : List FileTree) → Decidable (as = bs)
  | [], [] => isTrue rfl
  | [], _ :: _ => isFalse nofun
  | _ :: _, [] => isFalse nofun
  | a :: as, b :: bs =>
    match FileTree.decEq a b, FileTree.decEqList as bs with
    | isTrue h1, isTrue h2 => isTrue (h1 ▸ h2 ▸ rfl)
    | isFalse h1, _ => isFalse fun h => h1 (List.cons.inj h).1
    | _, isFalse h2 => isFalse fun h => h2 (List.cons.inj h).2
end

instance : DecidableEq FileTree := FileTree.decEq

/-- The children an entry gets: `parse_directory` parses a directory's from its first
cluster, and a file has none. -/
def entryChildren (recurse : Nat → Option (Except Panic (List FileTree))) (entry : List UInt8) :
    Option (Except Panic (List FileTree)) :=
  if isDirectory entry then recurse (getDataAddr entry) else some (.ok [])

/-- The `for entry in entries` loop over one cluster: the children it pushes, and whether it
ran to the cluster's end (so that `parse_directory` goes on at `cluster_idx + 1`) rather
than returning at a zero entry. A directory's own children come from `recurse`. -/
def scanEntries (recurse : Nat → Option (Except Panic (List FileTree))) :
    List (List UInt8) → Option (Except Panic (List FileTree × Bool))
  | [] => some (.ok ([], true))
  | entry :: rest =>
    if byte entry 0 = 0 then some (.ok ([], false))
    else if byte entry 0 = 0xE5 then scanEntries recurse rest
    else if byte entry 11 = 0x0F then some (.error (.panic "detected long filename"))
    else match getName entry with
      | .error p => some (.error p)
      | .ok name =>
        if name = dotName ∨ name = dotDotName then scanEntries recurse rest
        else
          -- the entry is pushed, then a directory is parsed into it, then the loop goes on
          match entryChildren recurse entry with
          | none => none
          | some (.error p) => some (.error p)
          | some (.ok children) =>
            (scanEntries recurse rest).map (Except.map fun r => (.node entry children :: r.1, r.2))

/-- `parse_directory(mapper, cluster_idx, parent)`: the children it appends to `parent`.
The source computes `first_data_sector` once per call; `clusterData` computes it for every
cluster, to the same value. -/
def parseDirectory (disk : List UInt8) (bs : BootSector) :
    Nat → Nat → Option (Except Panic (List FileTree))
  | 0, _ => none
  | fuel+1, clusterIdx =>
    match clusterData disk bs clusterIdx with
    | .error p => some (.error p)
    | .ok data =>
      match scanEntries (parseDirectory disk bs fuel) (entries data) with
      | none => none
      | some (.error p) => some (.error p)
      | some (.ok (children, false)) => some (.ok children)
      | some (.ok (children, true)) =>
        -- `cluster_idx += 1`: the next cluster on the disk, whatever the FAT says
        match checked 32 (clusterIdx+1) "attempt to add with overflow" with
        | .error p => some (.error p)
        | .ok next => (parseDirectory disk bs fuel next).map (Except.map (children ++ ·))

/-- `fs::init(drive_num)`: the tree it stores in `FILE_SYSTEM`. -/
def init (disk : List UInt8) (fuel : Nat) : Option (Except Panic FileTree) :=
  match readSectors disk 0 1 with
  | .error _ => some (.error (.expect "aint no way"))
  | .ok sector0 =>
    if sector0.length < bootSectorSize then some (.error .unwrapNone)
    else
      let bs := BootSector.read (sector0.take bootSectorSize)
      (parseDirectory disk bs fuel bs.rootCluster).map (Except.map (.node defaultFile))

end LobsterOS.Fs
