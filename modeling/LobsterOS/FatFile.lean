import LobsterOS.FatDirectory

/-! What `File::get_data` reads, against a file's contents along its FAT chain. -/

namespace LobsterOS.Fs

open Elf (readLE leBytes)

section GetData

variable {disk : List UInt8} {bs : BootSector}

/-- Every entry whose cluster field is below 2, as an empty file's is, makes `get_data` panic
on the subtraction from its cluster index, on any volume whose data sector the checks pass. -/
theorem getData_of_cluster_lt_two {fds : Nat} (hfds : firstDataSector bs = .ok fds)
    {file : List UInt8} (hc : getDataAddr file < 2) :
    getData disk bs file = some (.error (.panic "attempt to subtract with overflow")) := by
  have hsub : (checkedSub (getDataAddr file) 2 : Except Panic Nat) =
      .error (.panic "attempt to subtract with overflow") :=
    checkedSub_of_lt hc
  simp only [getData, hfds, hsub, bind, Except.bind]

end GetData

/-! ## A file's contents on the volume -/

/-- The bytes a file holds: the first `file_size` bytes of its clusters along the FAT chain,
none for an empty file; `none` where the chain does not end within `fuel` links. -/
def fileContents (disk : List UInt8) (bs : BootSector) (fuel : Nat) (file : List UInt8) :
    Option (List UInt8) :=
  if fileSize file = 0 then some []
  else (clusterChain disk bs fuel (getDataAddr file)).map fun chain =>
    (chain.flatMap (clusterBytes disk bs)).take (fileSize file)

/-! ## A volume with an empty file and a file in two runs of clusters

The volume of `fragBootSector` with six sectors in all: the root directory in cluster 2, an
empty file, a file of 1024 bytes whose chain is 3, 5, and a file of 512 bytes in cluster 4
between them. -/

/-- The entry of an archive file with its name, first cluster and size. -/
def fileEntryAt (name : List UInt8) (cluster size : Nat) : List UInt8 :=
  name ++ [0x20] ++ List.replicate 8 0 ++ leBytes (cluster/65536) 2 ++ List.replicate 4 0 ++
    leBytes (cluster%65536) 2 ++ leBytes size 4

/-- "EMPTY.TXT": no bytes, and the cluster field 0. -/
def emptyFile : List UInt8 :=
  fileEntryAt [0x45, 0x4D, 0x50, 0x54, 0x59, 0x20, 0x20, 0x20, 0x54, 0x58, 0x54] 0 0

/-- "SPLIT.TXT": 1024 bytes from cluster 3. -/
def splitFile : List UInt8 :=
  fileEntryAt [0x53, 0x50, 0x4C, 0x49, 0x54, 0x20, 0x20, 0x20, 0x54, 0x58, 0x54] 3 1024

/-- "OTHER.TXT": 512 bytes in cluster 4. -/
def otherFile : List UInt8 :=
  fileEntryAt [0x4F, 0x54, 0x48, 0x45, 0x52, 0x20, 0x20, 0x20, 0x54, 0x58, 0x54] 4 512

/-- The boot sector of `fragBootSector` with six sectors in all. -/
def splitBootSector : List UInt8 := fragBootSector.take 32 ++ leBytes 6 4 ++ fragBootSector.drop 36

/-- The FAT: the root ends in cluster 2, cluster 3 links to 5, and clusters 4 and 5 end
their chains. -/
def splitFat : List UInt8 :=
  leBytes 0x0FFFFFF8 4 ++ leBytes 0x0FFFFFFF 4 ++ leBytes 0x0FFFFFFF 4 ++ leBytes 5 4 ++
    leBytes 0x0FFFFFFF 4 ++ leBytes 0x0FFFFFFF 4

def splitDisk : List UInt8 :=
  sector splitBootSector ++ sector splitFat ++ sector (emptyFile ++ splitFile ++ otherFile) ++
    List.replicate 512 0x41 ++ List.replicate 512 0x42 ++ List.replicate 512 0x43

/-- On this volume `get_data` returns neither file's contents: it panics on the empty file,
whose contents are no bytes, and on "SPLIT.TXT" it returns cluster 3 and then cluster 4,
the next on the disk, where the file's chain goes on in cluster 5. -/
theorem get_data_differs_from_file_contents :
    volumeTree splitDisk 2 =
      some (.node defaultFile [.node emptyFile [], .node splitFile [], .node otherFile []]) ∧
    fileContents splitDisk (volumeBootSector splitDisk) 2 emptyFile = some [] ∧
    getData splitDisk (volumeBootSector splitDisk) emptyFile =
      some (.error (.panic "attempt to subtract with overflow")) ∧
    fileContents splitDisk (volumeBootSector splitDisk) 2 splitFile =
      some (List.replicate 512 0x41 ++ List.replicate 512 0x43) ∧
    getData splitDisk (volumeBootSector splitDisk) splitFile =
      some (.ok (.ok (List.replicate 512 0x41 ++ List.replicate 512 0x42))) := by
  have hfds : firstDataSector (volumeBootSector splitDisk) = .ok 2 := by decide +kernel
  have hempty : getDataAddr emptyFile < 2 := by decide
  refine ⟨by decide +kernel, by decide +kernel, getData_of_cluster_lt_two hfds hempty,
    by decide +kernel, by decide +kernel⟩

end LobsterOS.Fs
