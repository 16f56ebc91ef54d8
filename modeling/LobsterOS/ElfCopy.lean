import LobsterOS.ElfLoad

/-! What the copy loop of `map_elf_file_to_process` writes: one pass of `file_size + 1` bytes
for a segment whose page lies at or above its file size. -/

namespace LobsterOS.Elf

variable {M A : Type} [FrameAllocator A]

/-! ### The page loop leaves the copies alone -/

section Pages

variable {mapper : Mapper M A} {virtAddr : Nat}

theorem mapPage_writes {st st' : LoadState M A} {i : Nat} (h : mapPage mapper virtAddr st i = .ok st') :
    st'.writes = st.writes := by
  unfold mapPage at h
  obtain ⟨n, -, h⟩ := except_bind_eq_ok.1 h
  obtain ⟨pageAddr, -, h⟩ := except_bind_eq_ok.1 h
  split at h
  · cases h
    rfl
  rcases hfa : FrameAllocator.allocateFrame st.frameAllocator with ⟨_ | frame, fa⟩
  · simp [hfa, throw, throwThe, MonadExceptOf.throw] at h
  simp only [hfa] at h
  obtain ⟨v, -, h⟩ := except_bind_eq_ok.1 h
  split at h
  · cases h
  · cases h
    rfl

theorem pageLoop_writes :
    ∀ {is : List Nat} {st st' : LoadState M A}, is.foldlM (mapPage mapper virtAddr) st = .ok st' →
      st'.writes = st.writes
  | [], _, _, h => by cases h; rfl
  | i :: is, st, st', h => by
    rw [List.foldlM_cons] at h
    obtain ⟨st₁, h₁, h⟩ := except_bind_eq_ok.1 h
    rw [pageLoop_writes h, mapPage_writes h₁]

end Pages

/-! ### The copy loop -/

section Copy

variable {mapper : Mapper M A} {file : List UInt8} {pageTable : M} {ph : ProgramHeader}

omit [FrameAllocator A] in
/-- The first pass of the copy loop, on a segment whose page lies at or above its file size:
it comes back only when the segment's bytes and one more fit the page slice and the file, and
then it has copied exactly those `file_size + 1` bytes. -/
theorem copyPage_first {ws : List (Nat × List UInt8)} {i : Nat} {r : Nat × List (Nat × List UInt8)}
    (hpage : ph.fileSize < alignDown ph.virtAddr 0x1000+0x1000)
    (h : copyPage mapper file pageTable ph (0, ws) i = .ok r) :
    ph.offset%0x1000+(ph.fileSize+1) ≤ 0x1000 ∧ ph.offset+(ph.fileSize+1) ≤ file.length ∧
    r = (ph.fileSize+1, ws ++ [(alignDown ph.virtAddr 0x1000+ph.offset%0x1000,
      (file.drop ph.offset).take (ph.fileSize+1))]) := by
  simp only [copyPage] at h
  obtain ⟨lb, hlb, h⟩ := except_bind_eq_ok.1 h
  obtain ⟨va, hva, h⟩ := except_bind_eq_ok.1 h
  obtain ⟨pe, hpe, h⟩ := except_bind_eq_ok.1 h
  obtain ⟨left, hleft, h⟩ := except_bind_eq_ok.1 h
  obtain ⟨left1, hleft1, h⟩ := except_bind_eq_ok.1 h
  obtain ⟨stop, hstop, h⟩ := except_bind_eq_ok.1 h
  obtain ⟨-, rfl⟩ := checkedAdd_eq_ok.1 hlb
  obtain ⟨-, rfl⟩ := checkedAdd_eq_ok.1 hva
  obtain ⟨-, rfl⟩ := checkedAdd_eq_ok.1 hpe
  obtain ⟨-, rfl⟩ := checkedSub_eq_ok.1 hleft
  obtain ⟨-, rfl⟩ := checkedAdd_eq_ok.1 hleft1
  obtain ⟨-, rfl⟩ := checkedAdd_eq_ok.1 hstop
  -- the page end lies past the bytes left, so the pass writes all of them and one more
  have hmin : min (alignDown (ph.virtAddr+0) 0x1000+0x1000) (ph.fileSize-0+1) = ph.fileSize+1 := by
    simp only [Nat.add_zero, Nat.sub_zero]
    omega
  simp only [hmin] at h
  split at h
  · exact absurd h except_throw_bind_ne_ok
  rename_i hfit
  obtain ⟨fileStop, hfs, h⟩ := except_bind_eq_ok.1 h
  obtain ⟨-, rfl⟩ := checkedAdd_eq_ok.1 hfs
  split at h
  · exact absurd h except_throw_bind_ne_ok
  rename_i hin
  split at h
  · exact absurd h except_throw_bind_ne_ok
  obtain ⟨wo, hwo, h⟩ := except_bind_eq_ok.1 h
  obtain ⟨-, rfl⟩ := checkedAdd_eq_ok.1 hwo
  cases h
  simp only [Nat.add_zero] at hfit hin
  exact ⟨by omega, by omega, by simp only [Nat.add_zero, Nat.zero_add]⟩

omit [FrameAllocator A] in
/-- The whole copy loop of such a segment: it comes back only after one pass, and has then
copied the segment's bytes and the byte after them. -/
theorem copyLoop_one_pass {ws : List (Nat × List UInt8)} {r : Nat × List (Nat × List UInt8)}
    (hpage : ph.fileSize < alignDown ph.virtAddr 0x1000+0x1000)
    (h : (List.range (ph.fileSize/0x1000+1)).foldlM (copyPage mapper file pageTable ph) (0, ws) =
      .ok r) :
    ph.offset%0x1000+(ph.fileSize+1) ≤ 0x1000 ∧ ph.offset+(ph.fileSize+1) ≤ file.length ∧
    r.2 = ws ++ [(alignDown ph.virtAddr 0x1000+ph.offset%0x1000,
      (file.drop ph.offset).take (ph.fileSize+1))] := by
  rw [List.range_succ_eq_map, List.foldlM_cons] at h
  obtain ⟨r₁, h₁, h⟩ := except_bind_eq_ok.1 h
  obtain ⟨hfit, hin, rfl⟩ := copyPage_first hpage h₁
  -- a segment that fits one page has one pass
  have hone : ph.fileSize/0x1000 = 0 := Nat.div_eq_of_lt (by omega)
  rw [hone] at h
  cases h
  exact ⟨hfit, hin, rfl⟩

/-- A loadable segment whose page lies at or above its file size, once loaded, has left one
copy: its `file_size` bytes from `offset` and the byte after them, at `offset % 0x1000` in the
page of `virt_addr`. -/
theorem loadSegment_copies {st st' : LoadState M A} (hload : ph.headerType = load)
    (hpage : ph.fileSize < alignDown ph.virtAddr 0x1000+0x1000)
    (h : loadSegment mapper file st ph = .ok st') :
    ph.offset%0x1000+(ph.fileSize+1) ≤ 0x1000 ∧ ph.offset+(ph.fileSize+1) ≤ file.length ∧
    st'.writes = st.writes ++ [(alignDown ph.virtAddr 0x1000+ph.offset%0x1000,
      (file.drop ph.offset).take (ph.fileSize+1))] := by
  simp only [loadSegment, hload, ne_eq, not_true_eq_false, if_false] at h
  obtain ⟨st₁, hpages, h⟩ := except_bind_eq_ok.1 h
  obtain ⟨⟨wo, writes⟩, hcopy, h⟩ := except_bind_eq_ok.1 h
  cases h
  obtain ⟨hfit, hin, hw⟩ := copyLoop_one_pass hpage hcopy
  rw [pageLoop_writes hpages] at hw
  exact ⟨hfit, hin, hw⟩

/-- A file whose one program header is such a segment: when the loader comes back, that
segment's copy is the only one it has made. -/
theorem mapElfFileToProcess_writes_of_one_segment {file : List UInt8} {header : ElfHeader}
    (hh : ElfHeader.fromSlice (file.take elfHeaderSize) = .ok header)
    (hphs : programHeaders file header = [ph]) (hload : ph.headerType = load)
    (hpage : ph.fileSize < alignDown ph.virtAddr 0x1000+0x1000) {pageTable : M}
    {frameAllocator : A} {l : Loaded M A}
    (h : mapElfFileToProcess mapper file pageTable frameAllocator = some (.ok l)) :
    l.writes = [(alignDown ph.virtAddr 0x1000+ph.offset%0x1000,
      (file.drop ph.offset).take (ph.fileSize+1))] := by
  simp only [mapElfFileToProcess, hh] at h
  -- the checks before the loop that panic; the one that answers with nothing is gone already
  split_ifs at h
  · cases h
  · cases h
  obtain ⟨st, hst, hl⟩ := except_bind_eq_ok.1 (Option.some.inj h)
  simp only [hphs, List.foldlM_cons, List.foldlM_nil, bind_pure] at hst
  cases hl
  exact (loadSegment_copies hload hpage hst).2.2

end Copy

/-! ### The memory the copies leave -/

/-- One copy over memory: the bytes written at `dst`, and `mem` elsewhere. -/
def applyWrite (mem : Nat → UInt8) (w : Nat × List UInt8) : Nat → UInt8 :=
  fun a => if w.1 ≤ a ∧ a < w.1+w.2.length then w.2.getD (a-w.1) 0 else mem a

/-- The bytes of the address space after the copies, over its content `init` before them:
a later copy wins. -/
def memoryAfter (init : Nat → UInt8) (writes : List (Nat × List UInt8)) : Nat → UInt8 :=
  writes.foldl applyWrite init

theorem memoryAfter_append_write (init : Nat → UInt8) (writes : List (Nat × List UInt8))
    (dst : Nat) (bytes : List UInt8) (a : Nat) :
    memoryAfter init (writes ++ [(dst, bytes)]) a =
      if dst ≤ a ∧ a < dst+bytes.length then bytes.getD (a-dst) 0 else memoryAfter init writes a := by
  simp only [memoryAfter, List.foldl_append, List.foldl_cons, List.foldl_nil, applyWrite]

/-! ### A segment with zero-filled memory -/

/-- An x86-64 executable with one loadable segment at `0x400000`: the first 16 bytes of the
file, and 16 bytes of zeros after them in memory. -/
def bssElf : List UInt8 :=
  -- the ELF header: magic, 64-bit, little-endian, version 1, System V
  magicNum ++ [2, 1, 1, 0] ++ List.replicate 8 0 ++
  -- executable, x86-64, version 1, entry `0x400000`, program headers at 64, no sections
  leBytes 2 2 ++ leBytes 0x3E 2 ++ leBytes 1 4 ++ leBytes 0x400000 8 ++ leBytes 64 8 ++
  leBytes 0 8 ++ leBytes 0 4 ++
  -- header size 64, one program header of 56 bytes, section headers of 64 bytes
  leBytes 64 2 ++ leBytes 56 2 ++ leBytes 1 2 ++ leBytes 64 2 ++ leBytes 0 2 ++ leBytes 0 2 ++
  -- `PT_LOAD`, read and write, offset 0, at `0x400000`, file size 16, memory size 32
  leBytes 1 4 ++ leBytes 6 4 ++ leBytes 0 8 ++ leBytes 0x400000 8 ++ leBytes 0x400000 8 ++
  leBytes 16 8 ++ leBytes 32 8 ++ leBytes 0x1000 8

/-- Loading `bssElf` into an empty page table with a buddy allocator over frames
`0x1000..0x4000` returns, with its one segment copied by one pass of 17 bytes: whatever the
new frame held, the byte at `virt_addr + file_size`, inside the segment's zero-filled part,
is the file's byte 16, the 2 of the ELF type. -/
theorem map_elf_copies_byte_past_file_size :
    programHeaders bssElf (ElfHeader.read (bssElf.take elfHeaderSize)) =
      [⟨load, 0, 0x400000, 16, 32⟩] ∧
    (mapElfFileToProcess flatMapper bssElf (fun _ => none)
        (BuddyAllocator.init [⟨⟨1, 4⟩, .Usable⟩] 0)).map (Except.map Loaded.writes) =
      some (.ok [(0x400000, bssElf.take 17)]) ∧
    ∀ init, memoryAfter init [(0x400000, bssElf.take 17)] (0x400000+16) = 2 := by
  have hphs : programHeaders bssElf (ElfHeader.read (bssElf.take elfHeaderSize)) =
      [⟨load, 0, 0x400000, 16, 32⟩] := by
    decide +kernel
  refine ⟨hphs, ?_, fun init => ?_⟩
  · -- the loader comes back, and what it copied is the general result's one copy
    have hok : (mapElfFileToProcess flatMapper bssElf (fun _ => none)
        (BuddyAllocator.init [⟨⟨1, 4⟩, .Usable⟩] 0)).map Except.isOk = some true := by
      decide +kernel
    obtain ⟨r, hr, hrok⟩ := Option.map_eq_some_iff.1 hok
    cases r with
    | error e => cases hrok
    | ok l =>
      rw [hr, Option.map_some, Except.map, mapElfFileToProcess_writes_of_one_segment rfl hphs rfl
        (by decide) hr]
      rfl
  -- the byte lies in the one copy, at its index 16
  rw [show [(0x400000, bssElf.take 17)] = [] ++ [(0x400000, bssElf.take 17)] from rfl,
    memoryAfter_append_write, if_pos (by decide)]
  rfl

end LobsterOS.Elf
