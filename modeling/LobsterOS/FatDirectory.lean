import LobsterOS.Fat

/-! What `fs::init` builds, against the directory hierarchy a FAT32 volume holds along its
FAT chains. -/

namespace LobsterOS.Fs

open Elf (readLE leBytes)

/-! ## Fuel

`parse_directory` has no bound of its own, and more fuel never changes a result the model
has reached. -/

section Fuel

variable {disk : List UInt8} {bs : BootSector}

/-- A scan whose directories are parsed at least as far as before has every result it had. -/
theorem scanEntries_mono {recurse recurse' : Nat → Option (Except Panic (List FileTree))}
    (h : ∀ c r, recurse c = some r → recurse' c = some r) :
    ∀ {es : List (List UInt8)} {r}, scanEntries recurse es = some r →
      scanEntries recurse' es = some r
  | [], _, hr => hr
  | e :: es, r, hr => by
    have ih : ∀ {r}, scanEntries recurse es = some r → scanEntries recurse' es = some r :=
      scanEntries_mono h
    -- a directory's children come from `recurse`, which `recurse'` extends
    have hc : ∀ x, entryChildren recurse e = some x → entryChildren recurse' e = some x := by
      intro x hx
      unfold entryChildren at hx ⊢
      split_ifs at hx ⊢
      · exact h _ _ hx
      · exact hx
    simp only [scanEntries] at hr ⊢
    split_ifs at hr ⊢ with h0 h5 hl
    · exact hr
    · exact ih hr
    · exact hr
    rcases hn : getName e with p | name
    · simpa only [hn] using hr
    simp only [hn] at hr ⊢
    by_cases hd : name = dotName ∨ name = dotDotName
    · simp only [hd, if_true] at hr ⊢
      exact ih hr
    simp only [hd, if_false] at hr ⊢
    rcases hch : entryChildren recurse e with _ | p | children
    · rw [hch] at hr
      cases hr
    · rw [hch] at hr
      rw [hc _ hch]
      exact hr
    · rw [hch] at hr
      rw [hc _ hch]
      obtain ⟨rest, hrest, rfl⟩ := Option.map_eq_some_iff.1 hr
      rw [ih hrest]
      rfl

/-- More fuel keeps every result of `parse_directory`. -/
theorem parseDirectory_mono :
    ∀ {n m c r}, n ≤ m → parseDirectory disk bs n c = some r → parseDirectory disk bs m c = some r
  | 0, _, _, _, _, hr => by simp only [parseDirectory] at hr; cases hr
  | n+1, m+1, c, r, hnm, hr => by
    have ih : ∀ c r, parseDirectory disk bs n c = some r → parseDirectory disk bs m c = some r :=
      fun _ _ => parseDirectory_mono (by omega)
    simp only [parseDirectory] at hr ⊢
    rcases hcd : clusterData disk bs c with p | data
    · simpa only [hcd] using hr
    simp only [hcd] at hr ⊢
    rcases hs : scanEntries (parseDirectory disk bs n) (entries data) with _ | _ | ⟨children, _ | _⟩
    · rw [hs] at hr
      cases hr
    all_goals
      rw [hs] at hr
      rw [scanEntries_mono ih hs]
    · exact hr
    · exact hr
    rcases hnext : checked 32 (c+1) "attempt to add with overflow" with p | next
    · simpa only [hnext] using hr
    simp only [hnext] at hr ⊢
    obtain ⟨q, hq, rfl⟩ := Option.map_eq_some_iff.1 hr
    rw [ih _ _ hq]
    rfl
  | _+1, 0, _, _, hnm, _ => absurd hnm (by omega)

/-- More fuel keeps every result of `fs::init`. -/
theorem init_mono {n m : Nat} {r : Except Panic FileTree} (hnm : n ≤ m) (h : init disk n = some r) :
    init disk m = some r := by
  simp only [init] at h ⊢
  split at h
  · exact h
  split_ifs at h ⊢
  · exact h
  obtain ⟨q, hq, rfl⟩ := Option.map_eq_some_iff.1 h
  rw [parseDirectory_mono hnm hq]
  rfl

/-- Two runs of `fs::init` that both return give the same tree, whatever their fuel. -/
theorem init_agree {n m : Nat} {r r' : Except Panic FileTree} (h : init disk n = some r)
    (h' : init disk m = some r') : r = r' := by
  -- both runs are the run with the larger fuel
  have h1 := init_mono (Nat.le_max_left n m) h
  have h2 := init_mono (Nat.le_max_right n m) h'
  rw [h1] at h2
  exact Option.some.inj h2

end Fuel

/-! ## The volume's hierarchy

What the volume holds, read along the FAT: the statement `fs::init` is measured against. -/

/-- The least FAT entry that ends a chain. -/
def endOfChain : Nat := 0x0FFFFFF8

/-- The FAT's entry for a cluster: the low 28 bits of the `u32` at `4*cluster` in the table
at `reserved_sector_count`. -/
def fatEntry (disk : List UInt8) (bs : BootSector) (cluster : Nat) : Nat :=
  readLE disk (bs.reservedSectorCount*sectorSize+4*cluster) 4 % 2^28

/-- The clusters of the chain from `cluster`; `none` where it does not end within `fuel`
links. -/
def clusterChain (disk : List UInt8) (bs : BootSector) : Nat → Nat → Option (List Nat)
  | 0, _ => none
  | fuel+1, cluster =>
    let next := fatEntry disk bs cluster
    if endOfChain ≤ next then some [cluster]
    else (clusterChain disk bs fuel next).map (cluster :: ·)

/-- The volume's first data sector. -/
def dataSector (bs : BootSector) : Nat :=
  bs.reservedSectorCount+bs.tableCount*(if bs.tableSize16 = 0 then bs.tableSize32 else bs.tableSize16)+
    (bs.rootEntryCount*32+bs.bytesPerSector-1)/bs.bytesPerSector

/-- The bytes of a cluster. -/
def clusterBytes (disk : List UInt8) (bs : BootSector) (cluster : Nat) : List UInt8 :=
  (disk.drop (((cluster-2)*bs.sectorsPerCluster+dataSector bs)*sectorSize)).take
    (bs.sectorsPerCluster*sectorSize)

/-- A directory's entries along its chain, up to the first whose first byte is 0. -/
def chainEntries (disk : List UInt8) (bs : BootSector) (chain : List Nat) : List (List UInt8) :=
  (chain.flatMap fun c => entries (clusterBytes disk bs c)).takeWhile fun e => byte e 0 ≠ 0

/-- An entry the directory lists: not deleted, and neither `.` nor `..`. -/
def listed (e : List UInt8) : Bool :=
  byte e 0 ≠ 0xE5 && e.take 11 ≠ dotName && e.take 11 ≠ dotDotName

/-- A short-name entry whose name is ASCII. -/
def shortAscii (e : List UInt8) : Bool := byte e 11 ≠ 0x0F && (e.take 11).all (· < 0x80)

/-- The children of the directory whose chain starts at `cluster`, in on-disk order along
the chain; `none` where the volume is not well formed within `fuel`: a chain that does not
end, a hierarchy deeper than `fuel` (as a cycle is), a long-file-name entry or a name that is
not ASCII. -/
def directoryChildren (disk : List UInt8) (bs : BootSector) : Nat → Nat → Option (List FileTree)
  | 0, _ => none
  | fuel+1, cluster => do
    let chain ← clusterChain disk bs fuel cluster
    let es := (chainEntries disk bs chain).filter listed
    if es.all shortAscii then
      es.mapM fun e =>
        if isDirectory e then (directoryChildren disk bs fuel (getDataAddr e)).map (.node e)
        else some (.node e [])
    else none

/-- The boot sector at LBA 0. -/
def volumeBootSector (disk : List UInt8) : BootSector := BootSector.read (disk.take bootSectorSize)

/-- The volume's hierarchy under the root `File::default()`. -/
def volumeTree (disk : List UInt8) (fuel : Nat) : Option FileTree :=
  let bs := volumeBootSector disk
  (directoryChildren disk bs fuel bs.rootCluster).map (.node defaultFile)

/-! ## A root directory in two runs of clusters

A volume of five 512-byte sectors, one per cluster: the boot sector, one FAT, and clusters 2
to 4. The root directory's chain is 2, 4: cluster 2 holds sixteen file entries, cluster 4 the
seventeenth and then zeros, and cluster 3, which belongs to no chain, is zero. -/

/-- Bytes padded with zeros to a sector. -/
def sector (bytes : List UInt8) : List UInt8 := bytes ++ List.replicate (sectorSize-bytes.length) 0

/-- A FAT32 boot sector: 512 bytes a sector, one per cluster, one reserved sector, one FAT of
one sector, five sectors in all, the root directory at cluster 2. -/
def fragBootSector : List UInt8 :=
  [0xEB, 0x58, 0x90] ++ List.replicate 8 0x20 ++ leBytes 512 2 ++ [1] ++ leBytes 1 2 ++ [1] ++
    leBytes 0 2 ++ leBytes 0 2 ++ [0xF8] ++ leBytes 0 2 ++ leBytes 0 2 ++ leBytes 0 2 ++
    leBytes 0 4 ++ leBytes 5 4 ++ leBytes 1 4 ++ leBytes 0 2 ++ leBytes 0 2 ++ leBytes 2 4 ++
    leBytes 0 2 ++ leBytes 0 2 ++ List.replicate 12 0 ++ [0x80, 0, 0x29] ++ leBytes 0 4 ++
    List.replicate 11 0x20 ++ List.replicate 8 0x20

/-- The entry of an empty archive file named "FILE" and a letter, with extension "TXT". -/
def fileEntry (k : Nat) : List UInt8 :=
  [0x46, 0x49, 0x4C, 0x45, (0x41+k).toUInt8, 0x20, 0x20, 0x20, 0x54, 0x58, 0x54, 0x20] ++
    List.replicate 20 0

/-- The FAT: the two reserved entries, cluster 2 linked to 4, cluster 3 free, cluster 4 the
end of its chain. -/
def fragFat : List UInt8 :=
  leBytes 0x0FFFFFF8 4 ++ leBytes 0x0FFFFFFF 4 ++ leBytes 4 4 ++ leBytes 0 4 ++ leBytes 0x0FFFFFFF 4

def fragDisk : List UInt8 :=
  sector fragBootSector ++ sector fragFat ++ (List.range 16).flatMap fileEntry ++ sector [] ++
    sector (fileEntry 16)

/-- The root's chain continues past a cluster that is not the next one on the disk, and
`fs::init` returns the entries of its first cluster only: at every fuel it returns with, its
tree is not the volume's. -/
theorem init_misses_entries_past_cluster_gap :
    (volumeBootSector fragDisk).bytesPerSector = sectorSize ∧
    clusterChain fragDisk (volumeBootSector fragDisk) 3 2 = some [2, 4] ∧
    volumeTree fragDisk 3 =
      some (.node defaultFile ((List.range 17).map fun k => .node (fileEntry k) [])) ∧
    init fragDisk 2 =
      some (.ok (.node defaultFile ((List.range 16).map fun k => .node (fileEntry k) []))) ∧
    ∀ fuel t, init fragDisk fuel = some (.ok t) → volumeTree fragDisk 3 ≠ some t := by
  have hbs : (volumeBootSector fragDisk).bytesPerSector = sectorSize := by decide +kernel
  have hchain : clusterChain fragDisk (volumeBootSector fragDisk) 3 2 = some [2, 4] := by
    decide +kernel
  have hvol : volumeTree fragDisk 3 =
      some (.node defaultFile ((List.range 17).map fun k => .node (fileEntry k) [])) := by
    decide +kernel
  have hinit : init fragDisk 2 =
      some (.ok (.node defaultFile ((List.range 16).map fun k => .node (fileEntry k) []))) := by
    decide +kernel
  refine ⟨hbs, hchain, hvol, hinit, fun fuel t ht => ?_⟩
  -- every run that returns is the run at fuel 2
  have ht' := init_agree ht hinit
  cases ht'
  rw [hvol]
  decide +kernel

end LobsterOS.Fs
