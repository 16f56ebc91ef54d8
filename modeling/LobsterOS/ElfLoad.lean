import LobsterOS.Elf

/-! What `map_elf_file_to_process` does with a segment of a page or more: its page loop maps the
page of `virt_addr` again, `map_to` refuses, and `unwrap` panics. -/

namespace LobsterOS.Elf

variable {M A : Type} [FrameAllocator A]

/-- `map_to` of `x86_64` 0.14 on 4 KiB pages, as the loader relies on it: it refuses a page
that already translates, and once it succeeds the page translates to the frame it was given. -/
structure Mapper.Lawful (mapper : Mapper M A) : Prop where
  mapTo_mapped : ∀ t page frame flags a, (mapper.translate t page).isSome →
    ∃ f, mapper.mapTo t page frame flags a = .error (.PageAlreadyMapped f)
  translate_mapTo : ∀ t page frame flags a t' a',
    mapper.mapTo t page frame flags a = .ok (t', a') → mapper.translate t' page = some frame

/-! ### One pass of the page loop -/

section MapPage

variable {mapper : Mapper M A} {virtAddr i : Nat} {st st' : LoadState M A}

/-- The `page_addr` of pass `i`, when it does not overflow. -/
theorem mapPage_pageAddr (h : mapPage mapper virtAddr st i = .ok st') :
    i*0x1000+alignDown virtAddr 0x1000 < 2^64 := by
  unfold mapPage at h
  by_contra hov
  by_cases hm : i*0x1000 < 2^64
  · simp [checkedMul_of_lt hm, checkedAdd_of_not_lt hov, bind, Except.bind] at h
  · simp [checkedMul_of_not_lt hm, bind, Except.bind] at h

/-- What a pass that comes back did: nothing, when its `page_addr` is in `regions`; otherwise
it took a frame from the allocator, mapped the page containing `virt_addr` to it, and added
`page_addr` to `regions`. -/
theorem mapPage_cases (h : mapPage mapper virtAddr st i = .ok st') :
    (i*0x1000+alignDown virtAddr 0x1000 ∈ st.regions ∧ st' = st) ∨
    (∃ v frame a₁, virtAddrNew virtAddr = .ok v ∧
      FrameAllocator.allocateFrame st.frameAllocator = (some frame, a₁) ∧
      mapper.mapTo st.pageTable (containingPage v) frame userFlags a₁ =
        .ok (st'.pageTable, st'.frameAllocator) ∧
      st'.regions = st.regions ++ [i*0x1000+alignDown virtAddr 0x1000]) := by
  have hov := mapPage_pageAddr h
  have hmul : (checkedMul 64 i 0x1000 : Except Panic Nat) = .ok (i*0x1000) :=
    checkedMul_of_lt (Nat.lt_of_le_of_lt (Nat.le_add_right _ _) hov)
  unfold mapPage at h
  simp only [hmul, checkedAdd_of_lt hov, bind, Except.bind, pure, Except.pure] at h
  by_cases hmem : i*0x1000+alignDown virtAddr 0x1000 ∈ st.regions
  · rw [if_pos hmem] at h
    cases h
    exact .inl ⟨hmem, rfl⟩
  · rw [if_neg hmem] at h
    right
    rcases hfa : FrameAllocator.allocateFrame st.frameAllocator with ⟨_ | frame, fa⟩
    · simp [hfa, throw, throwThe, MonadExceptOf.throw] at h
    · simp only [hfa] at h
      rcases hv : virtAddrNew virtAddr with e | v
      · simp [hv] at h
      · simp only [hv] at h
        rcases hmap : mapper.mapTo st.pageTable (containingPage v) frame userFlags fa with
          e | ⟨t, fa'⟩
        · simp [hmap, throw, throwThe, MonadExceptOf.throw] at h
        · simp only [hmap, Except.ok.injEq] at h
          subst h
          exact ⟨v, frame, fa, rfl, rfl, hmap, rfl⟩

/-- A pass whose `page_addr` is in `regions` changes nothing; any other pass that comes back
has mapped the page containing `virt_addr` and added `page_addr` to `regions`. -/
theorem mapPage_ok (hlaw : mapper.Lawful) (h : mapPage mapper virtAddr st i = .ok st') :
    (i*0x1000+alignDown virtAddr 0x1000 ∈ st.regions ∧ st' = st) ∨
    (∃ v frame, virtAddrNew virtAddr = .ok v ∧
      mapper.translate st'.pageTable (containingPage v) = some frame ∧
      st'.regions = st.regions ++ [i*0x1000+alignDown virtAddr 0x1000]) := by
  rcases mapPage_cases h with hskip | ⟨v, frame, a₁, hv, -, hmap, hregions⟩
  · exact .inl hskip
  · exact .inr ⟨v, frame, hv, hlaw.translate_mapTo _ _ _ _ _ _ _ hmap, hregions⟩

/-- A pass whose `page_addr` is new, once the page containing `virt_addr` is mapped, never
comes back: the allocator runs dry, or `map_to` refuses the page and `unwrap` panics. -/
theorem mapPage_remap_panics (hlaw : mapper.Lawful) {v : Nat}
    (hv : virtAddrNew virtAddr = .ok v) (hmapped : (mapper.translate st.pageTable (containingPage v)).isSome)
    (hnew : i*0x1000+alignDown virtAddr 0x1000 ∉ st.regions) :
    ∃ p, mapPage mapper virtAddr st i = .error p := by
  cases h : mapPage mapper virtAddr st i with
  | error p => exact ⟨p, rfl⟩
  | ok st' =>
    exfalso
    have hov := mapPage_pageAddr h
    have hmul : (checkedMul 64 i 0x1000 : Except Panic Nat) = .ok (i*0x1000) :=
      checkedMul_of_lt (Nat.lt_of_le_of_lt (Nat.le_add_right _ _) hov)
    unfold mapPage at h
    simp only [hmul, checkedAdd_of_lt hov, bind, Except.bind, pure, Except.pure, if_neg hnew] at h
    rcases hfa : FrameAllocator.allocateFrame st.frameAllocator with ⟨_ | frame, fa⟩
    · simp [hfa, throw, throwThe, MonadExceptOf.throw] at h
    · -- the second `map_to` of the same page
      obtain ⟨f, hf⟩ := hlaw.mapTo_mapped st.pageTable (containingPage v) frame userFlags fa hmapped
      simp [hfa, hv, hf, throw, throwThe, MonadExceptOf.throw] at h

/-- The page loop of a segment of a page or more, started where neither of its first two
`page_addr`s is in `regions`, never comes back: pass 0 maps the page containing `virt_addr`,
and pass 1 maps it again. -/
theorem pageLoop_panics (hlaw : mapper.Lawful) {n : Nat} (hn : 2 ≤ n)
    (h₀ : alignDown virtAddr 0x1000 ∉ st.regions)
    (h₁ : 0x1000+alignDown virtAddr 0x1000 ∉ st.regions) :
    ∃ p, (List.range n).foldlM (mapPage mapper virtAddr) st = .error p := by
  obtain ⟨k, rfl⟩ : ∃ k, n = k+2 := ⟨n-2, by omega⟩
  simp only [List.range_succ_eq_map, List.map_cons, List.foldlM_cons]
  cases hpass₀ : mapPage mapper virtAddr st 0 with
  | error p => exact ⟨p, rfl⟩
  | ok st₁ =>
    rcases mapPage_ok hlaw hpass₀ with ⟨hmem, -⟩ | ⟨v, frame, hv, hmapped, hregions⟩
    · exact absurd (by simpa using hmem) h₀
    · have hnew : Nat.succ 0*0x1000+alignDown virtAddr 0x1000 ∉ st₁.regions := by
        rw [hregions]
        simp only [List.mem_append, List.mem_singleton, not_or]
        exact ⟨by simpa using h₁, by omega⟩
      obtain ⟨p, hp⟩ := mapPage_remap_panics hlaw hv (by rw [hmapped]; rfl) hnew
      exact ⟨p, by simp [hp, bind, Except.bind]⟩

end MapPage

/-! ### The loop over the program headers -/

section Segments

variable {mapper : Mapper M A} {file : List UInt8} {st : LoadState M A} {ph : ProgramHeader}

theorem loadSegment_skip (h : ph.headerType ≠ load) : loadSegment mapper file st ph = .ok st := by
  simp [loadSegment, h, pure, Except.pure]

theorem foldlM_loadSegment_skip {phs : List ProgramHeader} (h : ∀ ph ∈ phs, ph.headerType ≠ load) :
    phs.foldlM (loadSegment mapper file) st = .ok st := by
  induction phs with
  | nil => rfl
  | cons ph phs ih =>
    rw [List.foldlM_cons, loadSegment_skip (h ph (by simp))]
    exact ih fun ph' hm => h ph' (by simp [hm])

/-- A loadable segment of a page or more, met before any of its first two pages is in
`regions`, ends the loader. -/
theorem loadSegment_panics (hlaw : mapper.Lawful) (hload : ph.headerType = load)
    (hbig : 0x1000 ≤ ph.memSize) (h₀ : alignDown ph.virtAddr 0x1000 ∉ st.regions)
    (h₁ : 0x1000+alignDown ph.virtAddr 0x1000 ∉ st.regions) :
    ∃ p, loadSegment mapper file st ph = .error p := by
  have hcount : 2 ≤ ph.memSize/0x1000+1 := by omega
  obtain ⟨p, hp⟩ := pageLoop_panics hlaw hcount h₀ h₁
  exact ⟨p, by simp [loadSegment, hload, hp, bind, Except.bind]⟩

end Segments

/-! ### What the loader's `map_to` calls keep -/

section Keeps

variable {mapper : Mapper M A} {file : List UInt8} (Q : M → A → Prop)

/-- `Q` holds of the page table and the allocator after every `map_to` of the page containing
`virt_addr` to a frame fresh from the allocator, when it held before. -/
def KeptByMapTo (mapper : Mapper M A) (virtAddr : Nat) : Prop :=
  ∀ v t a f a₁ t' a', virtAddrNew virtAddr = .ok v → Q t a →
    FrameAllocator.allocateFrame a = (some f, a₁) →
    mapper.mapTo t (containingPage v) f userFlags a₁ = .ok (t', a') → Q t' a'

variable {Q}

theorem mapPage_keeps {virtAddr i : Nat} {st st' : LoadState M A}
    (hk : KeptByMapTo Q mapper virtAddr) (hQ : Q st.pageTable st.frameAllocator)
    (h : mapPage mapper virtAddr st i = .ok st') : Q st'.pageTable st'.frameAllocator := by
  rcases mapPage_cases h with ⟨-, rfl⟩ | ⟨v, frame, a₁, hv, hfa, hmap, -⟩
  · exact hQ
  · exact hk v _ _ frame a₁ _ _ hv hQ hfa hmap

theorem pageLoop_keeps {virtAddr : Nat} (hk : KeptByMapTo Q mapper virtAddr) :
    ∀ {is : List Nat} {st st' : LoadState M A}, Q st.pageTable st.frameAllocator →
      is.foldlM (mapPage mapper virtAddr) st = .ok st' → Q st'.pageTable st'.frameAllocator
  | [], _, _, hQ, h => by
    cases h
    exact hQ
  | i :: is, _, _, hQ, h => by
    rw [List.foldlM_cons] at h
    obtain ⟨st₁, h₁, h⟩ := except_bind_eq_ok.1 h
    exact pageLoop_keeps hk (mapPage_keeps hk hQ h₁) h

/-- The copy loop writes no table: a segment keeps what its page loop keeps. -/
theorem loadSegment_keeps {ph : ProgramHeader} {st st' : LoadState M A}
    (hk : ph.headerType = load → KeptByMapTo Q mapper ph.virtAddr)
    (hQ : Q st.pageTable st.frameAllocator) (h : loadSegment mapper file st ph = .ok st') :
    Q st'.pageTable st'.frameAllocator := by
  by_cases hl : ph.headerType = load
  · simp only [loadSegment, hl, ne_eq, not_true_eq_false, if_false] at h
    obtain ⟨st₁, hpages, h⟩ := except_bind_eq_ok.1 h
    obtain ⟨⟨wo, writes⟩, -, h⟩ := except_bind_eq_ok.1 h
    cases h
    have hpage := pageLoop_keeps (hk hl) hQ hpages
    exact hpage
  · rw [loadSegment_skip hl] at h
    cases h
    exact hQ

theorem foldlM_loadSegment_keeps :
    ∀ {phs : List ProgramHeader} {st st' : LoadState M A},
      (∀ ph ∈ phs, ph.headerType = load → KeptByMapTo Q mapper ph.virtAddr) →
      Q st.pageTable st.frameAllocator → phs.foldlM (loadSegment mapper file) st = .ok st' →
      Q st'.pageTable st'.frameAllocator
  | [], _, _, _, hQ, h => by
    cases h
    exact hQ
  | ph :: phs, _, _, hk, hQ, h => by
    rw [List.foldlM_cons] at h
    obtain ⟨st₁, h₁, h⟩ := except_bind_eq_ok.1 h
    exact foldlM_loadSegment_keeps (fun ph' hm => hk ph' (List.mem_cons_of_mem _ hm))
      (loadSegment_keeps (hk ph List.mem_cons_self) hQ h₁) h

/-- What every `map_to` of a loadable segment's page keeps, a load that comes back keeps. -/
theorem mapElfFileToProcess_keeps {pageTable : M} {frameAllocator : A} {l : Loaded M A}
    (hk : ∀ header, ElfHeader.fromSlice (file.take elfHeaderSize) = .ok header →
      ∀ ph ∈ programHeaders file header, ph.headerType = load → KeptByMapTo Q mapper ph.virtAddr)
    (hQ : Q pageTable frameAllocator)
    (h : mapElfFileToProcess mapper file pageTable frameAllocator = some (.ok l)) :
    Q l.pageTable l.frameAllocator := by
  rcases hh : ElfHeader.fromSlice (file.take elfHeaderSize) with e | header
  · simp only [mapElfFileToProcess, hh] at h
    split_ifs at h <;> cases h
  -- past the checks before the loop, the result is the loop's
  simp only [mapElfFileToProcess, hh] at h
  split_ifs at h
  · cases h
  · cases h
  obtain ⟨st, hst, hl⟩ := except_bind_eq_ok.1 (Option.some.inj h)
  cases hl
  exact foldlM_loadSegment_keeps (hk header hh) hQ hst

end Keeps

/-- Whatever `map_to` and the frame allocator do, as long as `map_to` refuses a page that is
already mapped: when the first loadable segment of an accepted file spans `0x1000` bytes or
more of memory, `map_elf_file_to_process` never returns. -/
theorem map_elf_panics_on_page_sized_segment {mapper : Mapper M A} (hlaw : mapper.Lawful)
    {file : List UInt8} {header : ElfHeader} (hlen : elfHeaderSize ≤ file.length)
    (hh : ElfHeader.fromSlice (file.take elfHeaderSize) = .ok header)
    (htab : header.programHeaderTable+programHeaderSize*header.programEntryCount ≤ file.length)
    {ph : ProgramHeader}
    (hfirst : (programHeaders file header).find? (fun ph => ph.headerType = load) = some ph)
    (hbig : 0x1000 ≤ ph.memSize) (pageTable : M) (frameAllocator : A) :
    ∃ p, mapElfFileToProcess mapper file pageTable frameAllocator = some (.error p) := by
  obtain ⟨hload, pre, post, hsplit, hpre⟩ := List.find?_eq_some_iff_append.1 hfirst
  -- a loadable header means the table has an entry, so it starts inside the file
  have hcount : 0 < header.programEntryCount := by
    rcases Nat.eq_zero_or_pos header.programEntryCount with h0 | hpos
    · simp [programHeaders, h0] at hfirst
    · exact hpos
  have htab_lt : header.programHeaderTable < file.length := by
    simp only [programHeaderSize] at htab
    omega
  have hskip : ∀ ph ∈ pre, ph.headerType ≠ load := fun ph hm => by simpa using hpre ph hm
  have hseg : ∃ p, loadSegment mapper file ⟨[], [], pageTable, frameAllocator, []⟩ ph = .error p :=
    loadSegment_panics hlaw (by simpa using hload) hbig List.not_mem_nil List.not_mem_nil
  obtain ⟨p, hp⟩ := hseg
  refine ⟨p, ?_⟩
  simp only [mapElfFileToProcess, if_neg (Nat.not_lt.2 hlen), hh, if_neg (Nat.not_le.2 htab_lt),
    if_neg (Nat.not_lt.2 htab), hsplit, List.foldlM_append, foldlM_loadSegment_skip hskip,
    List.foldlM_cons, hp, bind, Except.bind]

/-- A page table as a map from pages to frames: its `map_to` refuses a mapped page with the
frame it was given, takes no frames of its own, and maps the page otherwise. -/
def flatMapper : Mapper (Nat → Option Nat) A where
  mapTo t page frame _ a :=
    match t page with
    | some _ => .error (.PageAlreadyMapped frame)
    | none => .ok (Function.update t page (some frame), a)
  translate t page := t page

omit [FrameAllocator A] in
theorem flatMapper_lawful : (flatMapper : Mapper (Nat → Option Nat) A).Lawful where
  mapTo_mapped t page frame _ a hmapped := by
    obtain ⟨f, hf⟩ := Option.isSome_iff_exists.1 hmapped
    have ht : t page = some f := hf
    exact ⟨frame, by simp [flatMapper, ht]⟩
  translate_mapTo t page frame _ a t' a' h := by
    cases ht : t page with
    | some f => simp [flatMapper, ht] at h
    | none =>
      simp only [flatMapper, ht, Except.ok.injEq, Prod.mk.injEq] at h
      obtain ⟨rfl, -⟩ := h
      simp [flatMapper]

/-- An x86-64 executable with one loadable segment: `0x1000` bytes of memory at `0x400000`,
none of them from the file. -/
def onePageElf : List UInt8 :=
  -- the ELF header: magic, 64-bit, little-endian, version 1, System V
  magicNum ++ [2, 1, 1, 0] ++ List.replicate 8 0 ++
  -- executable, x86-64, version 1, entry `0x400000`, program headers at 64, no sections
  leBytes 2 2 ++ leBytes 0x3E 2 ++ leBytes 1 4 ++ leBytes 0x400000 8 ++ leBytes 64 8 ++
  leBytes 0 8 ++ leBytes 0 4 ++
  -- header size 64, one program header of 56 bytes, section headers of 64 bytes
  leBytes 64 2 ++ leBytes 56 2 ++ leBytes 1 2 ++ leBytes 64 2 ++ leBytes 0 2 ++ leBytes 0 2 ++
  -- `PT_LOAD`, read and execute, offset 0, at `0x400000`, file size 0, memory size `0x1000`
  leBytes 1 4 ++ leBytes 5 4 ++ leBytes 0 8 ++ leBytes 0x400000 8 ++ leBytes 0x400000 8 ++
  leBytes 0 8 ++ leBytes 0x1000 8 ++ leBytes 0x1000 8

/-- Loading `onePageElf` into an empty page table with a buddy allocator over frames
`0x1000..0x4000`: the general result applies, and the panic is `map_to` refusing
`0x400000` the second time. -/
theorem map_elf_panics_on_page_sized_segment_one_page :
    ∃ p, mapElfFileToProcess flatMapper onePageElf (fun _ => none)
      (BuddyAllocator.init [⟨⟨1, 4⟩, .Usable⟩] 0) = some (.error p) :=
  map_elf_panics_on_page_sized_segment flatMapper_lawful (by decide) rfl (by decide) rfl
    (by decide) _ _

example : mapElfFileToProcess flatMapper onePageElf (fun _ => none)
    (BuddyAllocator.init [⟨⟨1, 4⟩, .Usable⟩] 0) = some (.error (.unwrap (.PageAlreadyMapped 0x2000))) :=
  rfl

end LobsterOS.Elf
