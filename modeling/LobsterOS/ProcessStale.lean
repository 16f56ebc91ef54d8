import LobsterOS.ProcessSpawn
import LobsterOS.PagingMapTo
import LobsterOS.ElfLoad

/-! A spawn over a level-2 frame that still holds a 2 MiB page entry: whatever `map_to` with the
semantics of `x86_64` does, the process's table maps the page the kernel's leaves unmapped. -/

namespace LobsterOS.Process

open Paging

/-! ### The kernel's tables and the stale frame -/

/-- Physical memory under a kernel whose level-4 table at `0x1000` maps only the VGA text
buffer, through the tables at `0x2000`, `0x3000` and `0x4000`. The frame at `0x11000` still
holds, at entry 1, a 2 MiB page entry for `0x200000` from an earlier use. -/
def staleMem (x : Nat) : Nat :=
  if x = 0x1000 then 0x2003
  else if x = 0x2000 then 0x3003
  else if x = 0x3000 then 0x4003
  else if x = 0x45c0 then 0xb8003
  else if x = 0x11008 then 0x200083
  else 0

/-- A buddy allocator over the 22 frames from `0x10000` up. -/
def staleFrames : BuddyAllocator := ⟨[], List.range' 0x10000 22 0x1000⟩

theorem staleMem_eq_zero {x : Nat}
    (h : x ≠ 0x1000 ∧ x ≠ 0x2000 ∧ x ≠ 0x3000 ∧ x ≠ 0x45c0 ∧ x ≠ 0x11008) : staleMem x = 0 := by
  obtain ⟨h1, h2, h3, h4, h5⟩ := h
  simp [staleMem, h1, h2, h3, h4, h5]

/-- No word of `staleMem` holds an address it does not mark present. -/
theorem staleMem_clean (x : Nat) : staleMem x = 0 ∨ isPresent (staleMem x) = true := by
  unfold staleMem
  split_ifs <;> decide

theorem slot_lt {t i b : Nat} (hi : i < 512) (hb : t+0x1000 ≤ b) : slot t i < b :=
  lt_of_lt_of_le (slot_inFrame hi).2 hb

/-- Every slot a kernel walk reads lies in its four tables, below `0x5000`. -/
theorem staleMem_kernel_reads (va : Nat) : ∀ x ∈ translateReads staleMem 0x1000 va, x < 0x5000 := by
  have hi4 := index_lt 4 va
  have hi3 := index_lt 3 va
  have hi2 := index_lt 2 va
  unfold translateReads
  -- each table's entry 0 leads to the next table, and every other entry is unused
  by_cases h4 : index 4 va = 0
  · have e4 : staleMem (slot 0x1000 (index 4 va)) = 0x2003 := by rw [h4]; rfl
    rw [e4, reads_table (by decide) (by decide), show entryAddr 0x2003 = 0x2000 by decide]
    by_cases h3 : index 3 va = 0
    · have e3 : staleMem (slot 0x2000 (index 3 va)) = 0x3003 := by rw [h3]; rfl
      rw [e3, reads_table (by decide) (by decide), show entryAddr 0x3003 = 0x3000 by decide]
      by_cases h2 : index 2 va = 0
      · have e2 : staleMem (slot 0x3000 (index 2 va)) = 0x4003 := by rw [h2]; rfl
        rw [e2, reads_table (by decide) (by decide), reads_one]
        intro x hx
        simp only [List.mem_cons, List.not_mem_nil, or_false] at hx
        rcases hx with rfl | rfl | rfl | rfl <;> exact slot_lt (index_lt _ _) (by decide)
      · rw [staleMem_eq_zero (x := slot 0x3000 (index 2 va)) (by unfold slot; omega),
          reads_stop (by decide)]
        intro x hx
        simp only [List.mem_cons, List.not_mem_nil, or_false] at hx
        rcases hx with rfl | rfl | rfl <;> exact slot_lt (index_lt _ _) (by decide)
    · rw [staleMem_eq_zero (x := slot 0x2000 (index 3 va)) (by unfold slot; omega),
        reads_stop (by decide)]
      intro x hx
      simp only [List.mem_cons, List.not_mem_nil, or_false] at hx
      rcases hx with rfl | rfl <;> exact slot_lt (index_lt _ _) (by decide)
  · rw [staleMem_eq_zero (x := slot 0x1000 (index 4 va)) (by unfold slot; omega),
      reads_stop (by decide)]
    intro x hx
    rw [List.mem_singleton.1 hx]
    exact slot_lt hi4 (by decide)

/-- The kernel's tables and the three frames `new_page_table` takes lie apart. -/
theorem stalePlacement : Placement staleMem 0x1000 0x5000 0x10000 0x11000 := by
  constructor <;> decide

theorem staleKernelTables : KernelTables staleMem 0x1000 := by
  constructor <;> decide

/-! ### What every `map_to` of the spawn keeps -/

/-- The frames whose entries the two walks of `0x200000` read: the kernel's tables of levels
4 to 2 and the process's three new ones. -/
def walkFrames : List Nat := [0x1000, 0x2000, 0x3000, 0x5000, 0x10000, 0x11000]

/-- A page in the first GiB outside the 2 MiB at `0x200000`: from the process's table its walk
goes through entry 0 of the level-4 and level-3 tables and another level-2 entry. -/
def LowPage (p : Nat) : Prop := index 4 p = 0 ∧ index 3 p = 0 ∧ index 2 p ≠ 1

instance (p : Nat) : Decidable (LowPage p) := inferInstanceAs (Decidable (_ ∧ _ ∧ _))

/-- What the spawn keeps over `staleMem`: the entries the process's walk of `0x200000` reads
lead where they did after `new_page_table`, the kernel's walk of it reads what it read, the
other entries of the stale level-2 table lead outside `walkFrames`, no entry outside
`walkFrames` is stale, and the allocator's frames lie outside `walkFrames`. -/
structure StaleInv (mem : Nat → Nat) (a : BuddyAllocator) : Prop where
  l4_entry : TableEntry 0x10000 (mem (slot 0x5000 0))
  pdpt_entry : TableEntry 0x11000 (mem (slot 0x10000 0))
  stale : mem (slot 0x11000 1) = 0x200083
  kernel : ∀ x ∈ translateReads staleMem 0x1000 0x200000, mem x = staleMem x
  pd_entries : ∀ j < 512, j ≠ 1 → mem (slot 0x11000 j) = 0 ∨
    (isPresent (mem (slot 0x11000 j)) = true ∧ entryAddr (mem (slot 0x11000 j)) ∉ walkFrames)
  clean : ∀ x, (∀ F ∈ walkFrames, ¬InFrame F x) → mem x = 0 ∨ isPresent (mem x) = true
  frames : ∀ f ∈ a.frameIter, IsFrame f ∧ f ∉ walkFrames

section Keeps

variable {mem mem' : Nat → Nat} {a a' : BuddyAllocator}

theorem walkFrames_isFrame : ∀ F ∈ walkFrames, IsFrame F := by decide

theorem entryAddr_of_isFrame {f : Nat} (hf : IsFrame f) : entryAddr f = f := by
  simpa using entryAddr_or hf (by decide : (0 : Nat) < 0x1000)

/-- A slot of a frame outside `walkFrames` lies in none of them. -/
theorem outside_walkFrames {t x : Nat} (ht : IsFrame t) (hout : t ∉ walkFrames) (hx : InFrame t x) :
    ∀ F ∈ walkFrames, ¬InFrame F x :=
  fun F hF => not_inFrame_of_ne ht (walkFrames_isFrame F hF) (fun h => hout (h ▸ hF)) hx

theorem kernel_reads_eq : translateReads staleMem 0x1000 0x200000 =
    [slot 0x1000 0, slot 0x2000 0, slot 0x3000 1] := by
  decide

/-- The frames a run of the allocator hands out are frames outside `walkFrames`. -/
theorem StaleInv.taken_frame (hinv : StaleInv mem a) {k g : Nat}
    (hg : some g ∈ (allocateFrames k a).1) : IsFrame g ∧ g ∉ walkFrames := by
  rw [buddy_allocateFrames] at hg
  obtain ⟨i, -, hi⟩ := List.mem_map.1 hg
  exact hinv.frames g (List.mem_of_getElem? hi)

/-- What is left to the allocator after a run lies outside `walkFrames` too. -/
theorem StaleInv.frames_drop (hinv : StaleInv mem a) (k : Nat) :
    ∀ f ∈ (allocateFrames k a).2.frameIter, IsFrame f ∧ f ∉ walkFrames := by
  rw [buddy_allocateFrames]
  exact fun f hf => hinv.frames f (List.mem_of_mem_drop hf)

theorem StaleInv.inTaken_outside (hinv : StaleInv mem a) {k x : Nat}
    (hx : InTaken (allocateFrames k a).1 x) : ∀ F ∈ walkFrames, ¬InFrame F x := by
  obtain ⟨f, hf, hin⟩ := hx
  obtain ⟨hfr, hout⟩ := hinv.taken_frame hf
  rw [entryAddr_of_isFrame hfr] at hin
  exact outside_walkFrames hfr hout hin

/-- The walk from the process's table of a page in the first GiB: the three entries to the
stale level-2 table, and then at most one slot, in a table outside `walkFrames`. -/
theorem StaleInv.translateReads_lowPage (hinv : StaleInv mem a) {p : Nat} (hp : LowPage p) :
    ∃ rest, translateReads mem 0x5000 p =
      slot 0x5000 0 :: slot 0x10000 0 :: slot 0x11000 (index 2 p) :: rest ∧
      ∀ x ∈ rest, ∀ F ∈ walkFrames, ¬InFrame F x := by
  obtain ⟨h4, h3, h2⟩ := hp
  obtain ⟨hp4, hh4, ha4⟩ := hinv.l4_entry
  obtain ⟨hp3, hh3, ha3⟩ := hinv.pdpt_entry
  refine ⟨reads mem 2 (mem (slot 0x11000 (index 2 p))) p, ?_, fun x hx => ?_⟩
  · unfold translateReads
    rw [h4, reads_table hp4 hh4, ha4, show entryAddr 0x10000 = 0x10000 by decide, h3,
      reads_table hp3 hh3, ha3, show entryAddr 0x11000 = 0x11000 by decide]
  · -- below a present table entry of the stale table lies one slot of its table
    by_cases hstop : (!isPresent (mem (slot 0x11000 (index 2 p))) || decide (1 = 0) ||
        isHuge (mem (slot 0x11000 (index 2 p)))) = true
    · rw [reads_stop hstop] at hx
      cases hx
    obtain ⟨⟨hpres, -⟩, hhuge⟩ : (isPresent (mem (slot 0x11000 (index 2 p))) = true ∧ 1 ≠ 0) ∧
        isHuge (mem (slot 0x11000 (index 2 p))) = false := by
      simpa using hstop
    rw [reads_table hpres hhuge, reads_one] at hx
    rw [List.mem_singleton.1 hx]
    rcases hinv.pd_entries _ (index_lt 2 p) h2 with h0 | ⟨-, hout⟩
    · simp [h0, isPresent] at hpres
    · exact outside_walkFrames (entryAddr_isFrame _) hout (slot_inFrame (index_lt 1 p))

theorem StaleInv.noStale (hinv : StaleInv mem a) {p : Nat} (hp : LowPage p) :
    NoStale mem (translateReads mem 0x5000 p) := by
  obtain ⟨rest, hwalk, hrest⟩ := hinv.translateReads_lowPage hp
  rw [hwalk]
  intro x hx
  simp only [List.mem_cons] at hx
  rcases hx with rfl | rfl | rfl | hx
  · exact .inr hinv.l4_entry.1
  · exact .inr hinv.pdpt_entry.1
  · rcases hinv.pd_entries _ (index_lt 2 p) hp.2.2 with h0 | ⟨hpres, -⟩
    · exact .inl h0
    · exact .inr hpres
  · exact hinv.clean x (hrest x hx)

/-- The process's walk of `0x200000`: the three entries to the stale one. -/
theorem StaleInv.reads_stale (hinv : StaleInv mem a) :
    translateReads mem 0x5000 0x200000 = [slot 0x5000 0, slot 0x10000 0, slot 0x11000 1] := by
  unfold translateReads
  rw [show index 4 0x200000 = 0 by decide, reads_table hinv.l4_entry.1 hinv.l4_entry.2.1,
    hinv.l4_entry.2.2, show index 3 0x200000 = 0 by decide,
    show entryAddr 0x10000 = 0x10000 by decide,
    reads_table hinv.pdpt_entry.1 hinv.pdpt_entry.2.1, hinv.pdpt_entry.2.2,
    show index 2 0x200000 = 1 by decide, show entryAddr 0x11000 = 0x11000 by decide,
    hinv.stale, reads_stop (by decide)]

/-- The invariant fixes the process's translation of `0x200000`: two memories that keep it
translate it alike. -/
theorem StaleInv.translate_stale (hinv : StaleInv mem a) (hinv' : StaleInv mem' a') :
    Paging.translate mem' 0x5000 0x200000 = Paging.translate mem 0x5000 0x200000 := by
  apply translate_sameEntry
  rw [hinv.reads_stale]
  intro x hx
  simp only [List.mem_cons, List.not_mem_nil, or_false] at hx
  rcases hx with rfl | rfl | rfl
  · exact hinv.l4_entry.sameEntry hinv'.l4_entry
  · exact hinv.pdpt_entry.sameEntry hinv'.pdpt_entry
  · rw [hinv.stale, hinv'.stale]
    exact SameEntry.refl _

/-- The kernel's walk of `0x200000` reads what it read in `staleMem`, which leaves it
unmapped. -/
theorem StaleInv.kernel_translate (hinv : StaleInv mem a) :
    Paging.translate mem 0x1000 0x200000 = none := by
  rw [translate_congr hinv.kernel]
  decide

/-- One `map_to` of a page in the first GiB to a frame from the allocator keeps the
invariant. -/
theorem StaleInv.mapTo {mapTo : MapTo BuddyAllocator} (hmap : MapToSemantics mapTo)
    (hinv : StaleInv mem a) {p frame : Nat} (hp : LowPage p) (hf : IsFrame frame)
    (hfout : frame ∉ walkFrames) (h : mapTo mem 0x5000 p frame Elf.userFlags a = .ok (mem', a')) :
    StaleInv mem' a' := by
  obtain ⟨rest, hwalk, hrest⟩ := hinv.translateReads_lowPage hp
  obtain ⟨k, hk⟩ := hmap mem 0x5000 p frame Elf.userFlags a mem' a' (by decide) (hinv.noStale hp) h
  rw [hwalk] at hk
  have htaken (x : Nat) (hF : ∃ F ∈ walkFrames, InFrame F x) :
      ¬InTaken (allocateFrames k a).1 x := fun ht => by
    obtain ⟨F, hF, hx⟩ := hF
    exact hinv.inTaken_outside ht F hF hx
  -- a slot of `walkFrames` off the page's walk keeps its word
  have hoff (x : Nat) (hF : ∃ F ∈ walkFrames, InFrame F x) (h4 : x ≠ slot 0x5000 0)
      (h3 : x ≠ slot 0x10000 0) (h2 : x ≠ slot 0x11000 (index 2 p)) : mem' x = mem x := by
    refine hk.keeps_off_walk (fun hw => ?_) (htaken x hF)
    obtain ⟨F, hF, hx⟩ := hF
    simp only [List.mem_cons] at hw
    rcases hw with hw | hw | hw | hw
    · exact h4 hw
    · exact h3 hw
    · exact h2 hw
    · exact hrest x hw F hF hx
  have hpd (j : Nat) (hj : j < 512) : ∃ F ∈ walkFrames, InFrame F (slot 0x11000 j) :=
    ⟨0x11000, by decide, slot_inFrame hj⟩
  refine ⟨?_, ?_, ?_, fun x hx => ?_, fun j hj hj1 => ?_, fun x hx => ?_, fun f hf' => ?_⟩
  · exact hinv.l4_entry.of_sameEntry (hk.writes_through _ List.mem_cons_self
      (htaken _ ⟨0x5000, by decide, slot_inFrame (by decide)⟩) hinv.l4_entry.1)
  · exact hinv.pdpt_entry.of_sameEntry (hk.writes_through _ (by simp)
      (htaken _ ⟨0x10000, by decide, slot_inFrame (by decide)⟩) hinv.pdpt_entry.1)
  · rw [hoff _ (hpd 1 (by decide)) (by decide) (by decide)
      (fun h => hp.2.2 (slot_injective h).symm), hinv.stale]
  · rw [kernel_reads_eq] at hx
    simp only [List.mem_cons, List.not_mem_nil, or_false] at hx
    have hi2 := index_lt 2 p
    rw [← hinv.kernel x (by rw [kernel_reads_eq]; simpa using hx)]
    rcases hx with rfl | rfl | rfl
    · exact hoff _ ⟨0x1000, by decide, slot_inFrame (by decide)⟩ (by decide) (by decide)
        (by unfold slot; omega)
    · exact hoff _ ⟨0x2000, by decide, slot_inFrame (by decide)⟩ (by decide) (by decide)
        (by unfold slot; omega)
    · exact hoff _ ⟨0x3000, by decide, slot_inFrame (by decide)⟩ (by decide) (by decide)
        (by unfold slot; omega)
  · by_cases hji : j = index 2 p
    · -- the page's own level-2 entry: written through, or filled with a table of its own
      subst hji
      have hnt := htaken _ (hpd _ hj)
      rcases hinv.pd_entries _ hj hj1 with h0 | ⟨hpres, hout⟩
      · rcases hk.fills _ (by simp) hnt h0 with hfr | ⟨g, hg, hge⟩
        · rw [hfr]
          refine .inr ⟨isPresent_or (by decide), ?_⟩
          rw [entryAddr_or hf (by decide)]
          exact hfout
        · obtain ⟨hgf, hgout⟩ := hinv.taken_frame hg
          refine .inr ⟨hge.1, ?_⟩
          rw [hge.2.2, entryAddr_of_isFrame hgf]
          exact hgout
      · have hs := hk.writes_through _ (by simp) hnt hpres
        exact .inr ⟨hs.1.trans hpres, by rw [hs.2.2]; exact hout⟩
    · rw [hoff _ (hpd j hj) (by unfold slot; omega) (by unfold slot; omega)
        (fun h => hji (slot_injective h))]
      exact hinv.pd_entries j hj hj1
  · exact hk.clean_of_clean (by decide) (hinv.clean x hx)
  · rw [hk.allocates] at hf'
    exact hinv.frames_drop k f hf'

/-- A frame the buddy allocator hands out lies outside `walkFrames`, and the invariant holds
of the allocator it leaves. -/
theorem StaleInv.allocateFrame (hinv : StaleInv mem a) {f : Nat} {a₁ : BuddyAllocator}
    (hfa : FrameAllocator.allocateFrame a = (some f, a₁)) :
    StaleInv mem a₁ ∧ IsFrame f ∧ f ∉ walkFrames := by
  have hstep : allocateFrames 1 a = ([some f], a₁) := by simp [allocateFrames, hfa]
  have hleft := hinv.frames_drop 1
  rw [hstep] at hleft
  exact ⟨{ hinv with frames := hleft },
    hinv.taken_frame (k := 1) (by rw [hstep]; exact List.mem_singleton_self _)⟩

/-- `map_stack` keeps the invariant: every stack page lies in the first GiB. -/
theorem StaleInv.mapStack {mapTo : MapTo BuddyAllocator} (hmap : MapToSemantics mapTo) :
    ∀ {pages : List Nat} {mem mem' : Nat → Nat} {a a' : BuddyAllocator},
      (∀ p ∈ pages, LowPage p) → StaleInv mem a →
      pages.foldlM (mapStackPage mapTo 0x5000) (mem, a) = .ok (mem', a') → StaleInv mem' a'
  | [], _, _, _, _, _, hinv, h => by
    cases h
    exact hinv
  | p :: pages, mem, _, a, _, hpages, hinv, h => by
    rw [List.foldlM_cons] at h
    obtain ⟨⟨mem₁, a₁⟩, h₁, h⟩ := except_bind_eq_ok.1 h
    -- one stack page: a frame, then `map_to`
    unfold mapStackPage at h₁
    rcases hfa : FrameAllocator.allocateFrame a with ⟨_ | f, a₂⟩
    · simp [hfa] at h₁
    simp only [hfa] at h₁
    rcases hm : mapTo mem 0x5000 p f Elf.userFlags a₂ with e | r
    · simp [hm] at h₁
    simp only [hm, Except.ok.injEq] at h₁
    subst h₁
    obtain ⟨hinv₂, hf, hfout⟩ := hinv.allocateFrame hfa
    exact StaleInv.mapStack hmap (fun q hq => hpages q (List.mem_cons_of_mem _ hq))
      (hinv₂.mapTo hmap (hpages p List.mem_cons_self) hf hfout hm) h

theorem stackPages_lowPage : ∀ p ∈ stackPages, LowPage p := by decide

/-- `new_page_table` on `staleMem` leaves the invariant. -/
theorem staleInv_newPageTable {mem₁ : Nat → Nat} {a₂ : BuddyAllocator}
    (ht : NewTables staleMem mem₁ 0x1000 0x5000 0x10000 0x11000)
    (ha₂ : a₂.frameIter = List.range' 0x12000 20 0x1000) : StaleInv mem₁ a₂ := by
  -- a word outside the three new tables, but for the stale table's entry 0, is `staleMem`'s
  have hrest (x : Nat) (hx : ¬(0x5000 ≤ x ∧ x < 0x6000) ∧ ¬(0x10000 ≤ x ∧ x < 0x11000) ∧
      x ≠ 0x11000) : mem₁ x = staleMem x :=
    ht.rest x (by unfold InFrame; omega) (by unfold InFrame; omega) (by unfold slot; omega)
  refine ⟨?_, ?_, ?_, fun x hx => ?_, fun j hj hj1 => ?_, fun x hx => ?_, ?_⟩
  · rw [ht.l4_zero]
    decide
  · rw [ht.pdpt_zero]
    decide
  · rw [hrest _ (by unfold slot; omega)]
    rfl
  · rw [kernel_reads_eq] at hx
    simp only [List.mem_cons, List.not_mem_nil, or_false] at hx
    rcases hx with rfl | rfl | rfl <;> exact hrest _ (by unfold slot; omega)
  · rcases Nat.eq_zero_or_pos j with rfl | hj0
    · rw [ht.pd_zero]
      decide
    · -- the frame's other entries but the stale one are unused
      left
      rw [hrest _ (by unfold slot; omega), staleMem_eq_zero (by unfold slot; omega)]
  · have hout (F : Nat) (hF : F ∈ walkFrames) : ¬(F ≤ x ∧ x < F+0x1000) := hx F hF
    have h5 := hout 0x5000 (by decide)
    have h10 := hout 0x10000 (by decide)
    have h11 := hout 0x11000 (by decide)
    rw [hrest x (by omega)]
    exact staleMem_clean x
  · rw [ha₂]
    decide

/-- What every `map_to` of the loader keeps, for a file whose loadable segments all lie in the
first GiB outside the 2 MiB at `0x200000`. -/
theorem staleInv_keptByMapTo {mapTo : MapTo BuddyAllocator} (hmap : MapToSemantics mapTo)
    {virtAddr : Nat} (hv : ∀ v, Elf.virtAddrNew virtAddr = .ok v → LowPage (Elf.containingPage v)) :
    Elf.KeptByMapTo (fun t a => t.l4 = 0x5000 ∧ StaleInv t.mem a) (offsetPageTable mapTo)
      virtAddr := by
  rintro v t a f a₁ t' a' hvv ⟨hl4, hinv⟩ hfa h
  obtain ⟨hinv₁, hf, hfout⟩ := hinv.allocateFrame hfa
  simp only [offsetPageTable] at h
  rcases hm : mapTo t.mem t.l4 (Elf.containingPage v) f Elf.userFlags a₁ with e | ⟨mem', a₂⟩
  · simp [hm, Except.map] at h
  simp only [hm, Except.map, Except.ok.injEq, Prod.mk.injEq] at h
  obtain ⟨rfl, rfl⟩ := h
  rw [hl4] at hm
  exact ⟨hl4, hinv₁.mapTo hmap (hv v hvv) hf hfout hm⟩

end Keeps

/-- `new_page_table` on `staleMem` takes the frames `0x10000` and `0x11000`, leaves the
invariant, and maps `0x200000` through the stale entry. -/
theorem staleFrames_newPageTable : ∃ mem₁,
    newPageTable staleMem 0x1000 0x5000 staleFrames =
      some (mem₁, ⟨[], List.range' 0x12000 20 0x1000⟩) ∧
    StaleInv mem₁ ⟨[], List.range' 0x12000 20 0x1000⟩ ∧
    Paging.translate mem₁ 0x5000 0x200000 = some 0x200000 := by
  have h1 : FrameAllocator.allocateFrame staleFrames =
      (some 0x10000, (⟨[], List.range' 0x11000 21 0x1000⟩ : BuddyAllocator)) := rfl
  have h2 : FrameAllocator.allocateFrame (⟨[], List.range' 0x11000 21 0x1000⟩ : BuddyAllocator) =
      (some 0x11000, (⟨[], List.range' 0x12000 20 0x1000⟩ : BuddyAllocator)) := rfl
  obtain ⟨mem₁, hnew, ht⟩ := newPageTable_newTables stalePlacement h1 h2
  -- the stale page as `new_page_table` leaves it, from the general result
  obtain ⟨mem₁', hnew', htr⟩ := newPageTable_maps_stale_page stalePlacement staleKernelTables
    (fun va x hx => by
      have := staleMem_kernel_reads va x hx
      exact ⟨by unfold InFrame; omega, by unfold InFrame; omega, by unfold slot; omega⟩)
    h1 h2 (i := 1) (by decide) (by decide) (by decide) (by decide)
  rw [hnew] at hnew'
  obtain ⟨rfl, -⟩ := Prod.mk.inj (Option.some.inj hnew')
  refine ⟨mem₁, hnew, staleInv_newPageTable ht rfl, ?_⟩
  rw [show (0x200000 : Nat) = 1*2^21 from rfl, htr]
  rfl

section Spawn

variable {mapTo : MapTo BuddyAllocator} {file : List UInt8} {s : Spawned BuddyAllocator}

/-- A spawn under `staleMem` that comes back, of a file whose loadable segments lie in the
first GiB outside the 2 MiB at `0x200000`, leaves the invariant: `new_page_table` sets it up,
and every `map_to` of `map_stack` and of the loader keeps it. -/
theorem staleInv_spawn (hmap : MapToSemantics mapTo)
    (hpages : ∀ header, Elf.ElfHeader.fromSlice (file.take Elf.elfHeaderSize) = .ok header →
      ∀ ph ∈ Elf.programHeaders file header, ph.headerType = Elf.load →
        ∀ v, Elf.virtAddrNew ph.virtAddr = .ok v → LowPage (Elf.containingPage v))
    (h : spawnFromFile mapTo file staleMem 0x1000 0x5000 staleFrames = some (.ok s)) :
    s.process.pageTableAddr = 0x5000 ∧ StaleInv s.mem s.frameAllocator := by
  obtain ⟨mem₁, hnew, hinv₁, -⟩ := staleFrames_newPageTable
  unfold spawnFromFile at h
  rw [hnew] at h
  rcases hst : mapStack mapTo mem₁ 0x5000 ⟨[], List.range' 0x12000 20 0x1000⟩ with p | ⟨mem₂, a₃⟩
  · simp [hst] at h
  simp only [hst] at h
  have hinv₂ := StaleInv.mapStack hmap stackPages_lowPage hinv₁ hst
  obtain ⟨r, hr, hrs⟩ := Option.map_eq_some_iff.1 h
  rcases r with p | l
  · cases hrs
  simp only [Except.ok.injEq] at hrs
  subst hrs
  obtain ⟨-, hinv⟩ := Elf.mapElfFileToProcess_keeps
    (Q := fun t a => t.l4 = 0x5000 ∧ StaleInv t.mem a)
    (fun header hh ph hm hl => staleInv_keptByMapTo hmap (hpages header hh ph hm hl))
    ⟨rfl, hinv₂⟩ hr
  exact ⟨rfl, hinv⟩

/-- Whatever `map_to` with the semantics of `x86_64` does, a spawn under `staleMem` that comes
back, of a file whose loadable segments lie in the first GiB outside the 2 MiB at `0x200000`,
leaves the kernel's table without `0x200000` and the process's table mapping it through the
stale entry. -/
theorem spawn_keeps_stale_page (hmap : MapToSemantics mapTo)
    (hpages : ∀ header, Elf.ElfHeader.fromSlice (file.take Elf.elfHeaderSize) = .ok header →
      ∀ ph ∈ Elf.programHeaders file header, ph.headerType = Elf.load →
        ∀ v, Elf.virtAddrNew ph.virtAddr = .ok v → LowPage (Elf.containingPage v))
    (h : spawnFromFile mapTo file staleMem 0x1000 0x5000 staleFrames = some (.ok s)) :
    Paging.translate s.mem 0x1000 0x200000 = none ∧
      Paging.translate s.mem s.process.pageTableAddr 0x200000 = some 0x200000 := by
  obtain ⟨mem₁, -, hinv₁, htr⟩ := staleFrames_newPageTable
  obtain ⟨hbox, hinv⟩ := staleInv_spawn hmap hpages h
  refine ⟨hinv.kernel_translate, ?_⟩
  rw [hbox, hinv₁.translate_stale hinv, htr]

end Spawn

/-! ### The spawn of a small executable -/

/-- An x86-64 executable with one loadable segment: 16 bytes at `0x400000`, read from the
start of the file. -/
def smallElf : List UInt8 :=
  -- the ELF header: magic, 64-bit, little-endian, version 1, System V
  Elf.magicNum ++ [2, 1, 1, 0] ++ List.replicate 8 0 ++
  -- executable, x86-64, version 1, entry `0x400000`, program headers at 64, no sections
  Elf.leBytes 2 2 ++ Elf.leBytes 0x3E 2 ++ Elf.leBytes 1 4 ++ Elf.leBytes 0x400000 8 ++
  Elf.leBytes 64 8 ++ Elf.leBytes 0 8 ++ Elf.leBytes 0 4 ++
  -- header size 64, one program header of 56 bytes, section headers of 64 bytes
  Elf.leBytes 64 2 ++ Elf.leBytes 56 2 ++ Elf.leBytes 1 2 ++ Elf.leBytes 64 2 ++
  Elf.leBytes 0 2 ++ Elf.leBytes 0 2 ++
  -- `PT_LOAD`, read and execute, offset 0, at `0x400000`, 16 bytes in the file and in memory
  Elf.leBytes 1 4 ++ Elf.leBytes 5 4 ++ Elf.leBytes 0 8 ++ Elf.leBytes 0x400000 8 ++
  Elf.leBytes 0x400000 8 ++ Elf.leBytes 16 8 ++ Elf.leBytes 16 8 ++ Elf.leBytes 0x1000 8

/-- The one segment of `smallElf` lies at `0x400000`, in the first GiB. -/
theorem smallElf_lowPages : ∀ header,
    Elf.ElfHeader.fromSlice (smallElf.take Elf.elfHeaderSize) = .ok header →
    ∀ ph ∈ Elf.programHeaders smallElf header, ph.headerType = Elf.load →
      ∀ v, Elf.virtAddrNew ph.virtAddr = .ok v → LowPage (Elf.containingPage v) := by
  intro header hh ph hph _ v hv
  have hread : Elf.ElfHeader.fromSlice (smallElf.take Elf.elfHeaderSize) =
      .ok (Elf.ElfHeader.read (smallElf.take Elf.elfHeaderSize)) := rfl
  obtain rfl := Except.ok.inj (hh.symm.trans hread)
  have hphs : Elf.programHeaders smallElf (Elf.ElfHeader.read (smallElf.take Elf.elfHeaderSize)) =
      [⟨Elf.load, 0, 0x400000, 16, 16⟩] := by
    decide +kernel
  rw [hphs, List.mem_singleton] at hph
  subst hph
  obtain rfl := Except.ok.inj (hv.symm.trans (rfl : Elf.virtAddrNew 0x400000 = .ok 0x400000))
  decide

/-- Spawning `smallElf` under `staleMem` returns a process whose table maps `0x200000`, which
the kernel's table leaves unmapped and which is neither a segment nor a stack page. -/
theorem spawn_maps_stale_directory_entry :
    (spawnFromFile Paging.mapTo smallElf staleMem 0x1000 0x5000 staleFrames).map
      (Except.map fun s =>
        (Paging.translate s.mem 0x1000 0x200000,
          Paging.translate s.mem s.process.pageTableAddr 0x200000)) =
    some (.ok (none, some 0x200000)) := by
  -- the spawn comes back: `new_page_table` through its closed form, the rest evaluated
  have hok : (spawnFromFile Paging.mapTo smallElf staleMem 0x1000 0x5000 staleFrames).map
      Except.isOk = some true := by
    rw [spawnFromFile, newPageTable_eq stalePlacement rfl rfl]
    decide +kernel
  obtain ⟨r, hr, hrok⟩ := Option.map_eq_some_iff.1 hok
  rcases r with e | s
  · cases hrok
  -- and what it translates holds of every `map_to` with the semantics of `x86_64`
  obtain ⟨hkernel, hproc⟩ := spawn_keeps_stale_page mapTo_semantics smallElf_lowPages hr
  rw [hr, Option.map_some, Except.map, hkernel, hproc]

end LobsterOS.Process
