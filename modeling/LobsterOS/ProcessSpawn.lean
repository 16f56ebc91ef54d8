import LobsterOS.Process

/-! What `new_page_table` builds, and what the table of a spawned process translates. -/

namespace LobsterOS.Process

open Paging

variable {A : Type} [FrameAllocator A]

/-- The table the kernel's level-4 entry 0 leads to. -/
def kernelPdpt (mem : Nat → Nat) (current : Nat) : Nat := entryAddr (mem (slot current 0))

/-- The table entry 0 of `kernelPdpt` leads to. -/
def kernelPd (mem : Nat → Nat) (current : Nat) : Nat :=
  entryAddr (mem (slot (kernelPdpt mem current) 0))

/-- Where `new_page_table` works: the kernel's level-4 table at `current`, the process's at
`box`, and the frames `pdpt` and `pd` it takes; the three new tables lie apart from each other
and from the kernel's tables that the copies read. -/
structure Placement (mem : Nat → Nat) (current box pdpt pd : Nat) : Prop where
  current_frame : IsFrame current
  box_frame : IsFrame box
  pdpt_frame : IsFrame pdpt
  pd_frame : IsFrame pd
  box_ne_pdpt : box ≠ pdpt
  box_ne_pd : box ≠ pd
  pdpt_ne_pd : pdpt ≠ pd
  current_ne_box : current ≠ box
  kernelPdpt_ne_box : kernelPdpt mem current ≠ box
  kernelPdpt_ne_pdpt : kernelPdpt mem current ≠ pdpt
  kernelPd_ne_box : kernelPd mem current ≠ box
  kernelPd_ne_pdpt : kernelPd mem current ≠ pdpt

/-- The memory `new_page_table` leaves: the two zeroed tables with their copies and their
entry 0, entry 0 of the level-2 table, and nothing else changed. -/
structure NewTables (mem mem' : Nat → Nat) (current box pdpt pd : Nat) : Prop where
  l4_zero : mem' (slot box 0) = pdpt ||| (present ||| writable ||| userAccessible)
  l4_copy : ∀ i, 1 ≤ i → i < 512 → mem' (slot box i) = mem (slot current i)
  l4_pad : ∀ x, InFrame box x → (∀ i < 512, x ≠ slot box i) → mem' x = 0
  pdpt_zero : mem' (slot pdpt 0) = pd ||| (present ||| writable)
  pdpt_copy : ∀ i, 1 ≤ i → i < 512 → mem' (slot pdpt i) = mem (slot (kernelPdpt mem current) i)
  pdpt_pad : ∀ x, InFrame pdpt x → (∀ i < 512, x ≠ slot pdpt i) → mem' x = 0
  pd_zero : mem' (slot pd 0) = mem (slot (kernelPd mem current) 0)
  rest : ∀ x, ¬InFrame box x → ¬InFrame pdpt x → x ≠ slot pd 0 → mem' x = mem x

section NewPageTable

variable {mem : Nat → Nat} {current box pdpt pd : Nat} {a a1 a2 : A}

theorem mem_copyRange {i : Nat} : i ∈ List.range' 1 511 ↔ 1 ≤ i ∧ i < 512 := by
  rw [List.mem_range'_1]

/-- Given two frames from the allocator, `new_page_table` returns, and leaves `NewTables`. -/
theorem newPageTable_newTables (hp : Placement mem current box pdpt pd)
    (h1 : FrameAllocator.allocateFrame a = (some pdpt, a1))
    (h2 : FrameAllocator.allocateFrame a1 = (some pd, a2)) :
    ∃ mem', newPageTable mem current box a = some (mem', a2) ∧
      NewTables mem mem' current box pdpt pd := by
  have hnd : (List.range' 1 511).Nodup := List.nodup_range'
  -- the three frames the function writes, and the kernel's two tables it copies
  obtain ⟨hcur, hbox, hpdpt, hpd, hbp, hbd, hpd', hcb, hc0b, hc0p, hc00b, hc00p⟩ := hp
  have hc0 : IsFrame (kernelPdpt mem current) := entryAddr_isFrame _
  have hc00 : IsFrame (kernelPd mem current) := entryAddr_isFrame _
  have hsep (s t : Nat) (hs : IsFrame s) (ht : IsFrame t) (hne : s ≠ t) :
      ∀ j ∈ List.range' 1 511, ∀ k ∈ List.range' 1 511, slot s j ≠ slot t k :=
    fun j hj k hk => slot_ne_of_ne hs ht hne (mem_copyRange.1 hj).2 (mem_copyRange.1 hk).2
  have hslot (t x : Nat) (hx : ¬InFrame t x) : ∀ i ∈ List.range' 1 511, x ≠ slot t i :=
    fun i hi heq => hx (heq ▸ slot_inFrame (mem_copyRange.1 hi).2)
  -- the level-4 table: zeroed, entry 0 set, entries 1 to 511 copied
  set M1 := Function.update (zeroTable mem box) (slot box 0)
    (pdpt ||| (present ||| writable ||| userAccessible)) with hM1
  have hout1 (x : Nat) (hx : ¬InFrame box x) : M1 x = mem x := by
    rw [hM1, Function.update_of_ne (ne_slot_of_not_inFrame hx (by decide)),
      zeroTable_of_not_inFrame hx]
  have ht0 : entryAddr (M1 (slot box 0)) = pdpt := by
    rw [hM1, Function.update_self]
    exact entryAddr_or hpdpt (by decide)
  have hk0 : entryAddr (M1 (slot current 0)) = kernelPdpt mem current := by
    rw [hout1 _ (slot_not_inFrame hcur hbox hcb (by decide))]
    rfl
  set M2 := copyEntries M1 box current (List.range' 1 511) with hM2
  have hout2 (x : Nat) (hx : ¬InFrame box x) : M2 x = mem x := by
    rw [hM2, copyEntries_of_not_mem (hslot box x hx), hout1 x hx]
  -- the level-3 table: zeroed, entries 1 to 511 copied from the kernel's, entry 0 set
  set M4 := copyEntries (zeroTable M2 pdpt) pdpt (kernelPdpt mem current) (List.range' 1 511)
    with hM4
  set M5 := Function.update M4 (slot pdpt 0) (pd ||| (present ||| writable)) with hM5
  have hout5 (x : Nat) (hb : ¬InFrame box x) (hx : ¬InFrame pdpt x) : M5 x = mem x := by
    rw [hM5, Function.update_of_ne (ne_slot_of_not_inFrame hx (by decide)), hM4,
      copyEntries_of_not_mem (hslot pdpt x hx), zeroTable_of_not_inFrame hx, hout2 x hb]
  have ht00 : entryAddr (M5 (slot pdpt 0)) = pd := by
    rw [hM5, Function.update_self]
    exact entryAddr_or hpd (by decide)
  have hk00 : entryAddr (M5 (slot (kernelPdpt mem current) 0)) = kernelPd mem current := by
    rw [hout5 _ (slot_not_inFrame hc0 hbox hc0b (by decide))
      (slot_not_inFrame hc0 hpdpt hc0p (by decide))]
    rfl
  have hpd0 : M5 (slot (kernelPd mem current) 0) = mem (slot (kernelPd mem current) 0) :=
    hout5 _ (slot_not_inFrame hc00 hbox hc00b (by decide))
      (slot_not_inFrame hc00 hpdpt hc00p (by decide))
  -- inside the level-4 table only the copies and entry 0 matter
  have hbox5 (x : Nat) (hx : InFrame box x) : M5 x = M2 x := by
    have hx' : ¬InFrame pdpt x := not_inFrame_of_ne hbox hpdpt hbp hx
    rw [hM5, Function.update_of_ne (ne_slot_of_not_inFrame hx' (by decide)), hM4,
      copyEntries_of_not_mem (hslot pdpt x hx'), zeroTable_of_not_inFrame hx']
  have hpd_ne (x : Nat) (hx : InFrame box x ∨ InFrame pdpt x) : x ≠ slot pd 0 := by
    rcases hx with hx | hx
    · exact ne_slot_of_not_inFrame (not_inFrame_of_ne hbox hpd hbd hx) (by decide)
    · exact ne_slot_of_not_inFrame (not_inFrame_of_ne hpdpt hpd hpd' hx) (by decide)
  refine ⟨Function.update M5 (slot pd 0) (M5 (slot (kernelPd mem current) 0)), ?_, ?_⟩
  · simp only [newPageTable, h1, h2]
    rw [← hM1, ht0, hk0, ← hM2, ← hM4, ← hM5, ht00, hk00]
  · have hupd (x : Nat) (hx : InFrame box x ∨ InFrame pdpt x) :
        Function.update M5 (slot pd 0) (M5 (slot (kernelPd mem current) 0)) x = M5 x :=
      Function.update_of_ne (hpd_ne x hx) _ _
    refine ⟨?_, fun i hi hi' => ?_, fun x hx hns => ?_, ?_, fun i hi hi' => ?_,
      fun x hx hns => ?_, ?_, fun x hb hp hx => ?_⟩
    · rw [hupd _ (.inl (slot_inFrame (by decide))), hbox5 _ (slot_inFrame (by decide)), hM2,
        copyEntries_of_not_mem fun j hj h => by
          have := slot_injective h
          exact absurd (mem_copyRange.1 hj).1 (by omega),
        hM1, Function.update_self]
    · rw [hupd _ (.inl (slot_inFrame hi')), hbox5 _ (slot_inFrame hi'), hM2,
        copyEntries_slot (mem_copyRange.2 ⟨hi, hi'⟩) hnd (hsep current box hcur hbox hcb),
        hout1 _ (slot_not_inFrame hcur hbox hcb hi')]
    · rw [hupd _ (.inl hx), hbox5 _ hx, hM2,
        copyEntries_of_not_mem fun j hj => hns j (mem_copyRange.1 hj).2, hM1,
        Function.update_of_ne (hns 0 (by decide)), zeroTable_of_inFrame hx]
    · rw [hupd _ (.inr (slot_inFrame (by decide))), hM5, Function.update_self]
    · have hne : slot pdpt i ≠ slot pdpt 0 := fun h => by
        have := slot_injective h
        omega
      rw [hupd _ (.inr (slot_inFrame hi')), hM5, Function.update_of_ne hne, hM4,
        copyEntries_slot (mem_copyRange.2 ⟨hi, hi'⟩) hnd (hsep _ pdpt hc0 hpdpt hc0p),
        zeroTable_of_not_inFrame (slot_not_inFrame hc0 hpdpt hc0p hi'),
        hout2 _ (slot_not_inFrame hc0 hbox hc0b hi')]
    · rw [hupd _ (.inr hx), hM5, Function.update_of_ne (hns 0 (by decide)), hM4,
        copyEntries_of_not_mem fun j hj => hns j (mem_copyRange.1 hj).2, zeroTable_of_inFrame hx]
    · rw [Function.update_self, hpd0]
    · rw [Function.update_of_ne hx, hout5 x hb hp]

/-- The memory `new_page_table` leaves, in closed form. -/
theorem newPageTable_eq (hp : Placement mem current box pdpt pd)
    (h1 : FrameAllocator.allocateFrame a = (some pdpt, a1))
    (h2 : FrameAllocator.allocateFrame a1 = (some pd, a2)) :
    newPageTable mem current box a = some (fun x =>
      if InFrame box x then
        if x = slot box 0 then pdpt ||| (present ||| writable ||| userAccessible)
        else if (x-box)%8 = 0 then mem (slot current ((x-box)/8)) else 0
      else if InFrame pdpt x then
        if x = slot pdpt 0 then pd ||| (present ||| writable)
        else if (x-pdpt)%8 = 0 then mem (slot (kernelPdpt mem current) ((x-pdpt)/8)) else 0
      else if x = slot pd 0 then mem (slot (kernelPd mem current) 0)
      else mem x, a2) := by
  obtain ⟨mem', hnew, ht⟩ := newPageTable_newTables hp h1 h2
  rw [hnew]
  congr 2
  funext x
  -- inside a new table, an 8-aligned address is the slot of its offset over 8
  have hfill (t : Nat) (hx : InFrame t x) (h0 : x ≠ slot t 0) (v : Nat → Nat)
      (hcopy : ∀ i, 1 ≤ i → i < 512 → mem' (slot t i) = v i)
      (hpad : (∀ i < 512, x ≠ slot t i) → mem' x = 0) :
      mem' x = if (x-t)%8 = 0 then v ((x-t)/8) else 0 := by
    obtain ⟨hlo, hhi⟩ := hx
    split_ifs with hm
    · have hs : slot t ((x-t)/8) = x := by
        unfold slot
        omega
      have hne : (x-t)/8 ≠ 0 := fun h => h0 (by rw [← hs, h])
      rw [← hcopy _ (Nat.pos_of_ne_zero hne) (by omega), hs]
    · exact hpad fun i _ h => hm (by unfold slot at h; omega)
  by_cases hb : InFrame box x
  · rw [if_pos hb]
    by_cases h0 : x = slot box 0
    · rw [if_pos h0, h0, ht.l4_zero]
    · rw [if_neg h0]
      exact hfill box hb h0 _ ht.l4_copy (ht.l4_pad x hb)
  · by_cases hq : InFrame pdpt x
    · rw [if_neg hb, if_pos hq]
      by_cases h0 : x = slot pdpt 0
      · rw [if_pos h0, h0, ht.pdpt_zero]
      · rw [if_neg h0]
        exact hfill pdpt hq h0 _ ht.pdpt_copy (ht.pdpt_pad x hq)
    · rw [if_neg hb, if_neg hq]
      split_ifs with h0
      · rw [h0, ht.pd_zero]
      · exact ht.rest x hb hq h0

/-- The kernel's level-4 entry 0, and entry 0 of the table below it, lead to tables, as
`new_page_table` assumes. -/
structure KernelTables (mem : Nat → Nat) (current : Nat) : Prop where
  l4_present : isPresent (mem (slot current 0)) = true
  l4_table : isHuge (mem (slot current 0)) = false
  pdpt_present : isPresent (mem (slot (kernelPdpt mem current) 0)) = true
  pdpt_table : isHuge (mem (slot (kernelPdpt mem current) 0)) = false

/-- After `new_page_table` the kernel translates as before, and the process's table translates
as the kernel's except below the level-2 entries 1 to 511 that it never wrote: there it is the
walk from what the frame `pd` held. -/
theorem newPageTable_translate (hp : Placement mem current box pdpt pd) (hk : KernelTables mem current)
    (hu : ∀ va, ∀ x ∈ translateReads mem current va,
      ¬InFrame box x ∧ ¬InFrame pdpt x ∧ x ≠ slot pd 0)
    (h1 : FrameAllocator.allocateFrame a = (some pdpt, a1))
    (h2 : FrameAllocator.allocateFrame a1 = (some pd, a2)) :
    ∃ mem', newPageTable mem current box a = some (mem', a2) ∧
      (∀ va, Paging.translate mem' current va = Paging.translate mem current va) ∧
      ∀ va, Paging.translate mem' box va =
        if index 4 va = 0 ∧ index 3 va = 0 ∧ index 2 va ≠ 0 then
          walk mem' 2 (mem (slot pd (index 2 va))) va
        else Paging.translate mem current va := by
  obtain ⟨mem', hnew, ht⟩ := newPageTable_newTables hp h1 h2
  -- every slot a kernel walk reads is one `new_page_table` leaves alone
  have hkeep (va x : Nat) (hx : x ∈ translateReads mem current va) : mem' x = mem x := by
    obtain ⟨hb, hp', hd⟩ := hu va x hx
    exact ht.rest x hb hp' hd
  refine ⟨mem', hnew, fun va => translate_congr (hkeep va), fun va => ?_⟩
  have hr4 : reads mem 4 (mem (slot current 0)) va = slot (kernelPdpt mem current) (index 3 va) ::
      reads mem 3 (mem (slot (kernelPdpt mem current) (index 3 va))) va :=
    reads_table hk.l4_present hk.l4_table
  have hw4 : walk mem 4 (mem (slot current 0)) va =
      walk mem 3 (mem (slot (kernelPdpt mem current) (index 3 va))) va :=
    walk_table hk.l4_present hk.l4_table
  have hpdpt := hp.pdpt_frame
  have hpd := hp.pd_frame
  unfold Paging.translate
  by_cases h4 : index 4 va = 0
  · rw [h4, ht.l4_zero, walk_table (isPresent_or (by decide)) (isHuge_or hpdpt (by decide)),
      entryAddr_or hpdpt (by decide), hw4]
    have hkeep3 (x : Nat) (hx : x ∈ reads mem 3 (mem (slot (kernelPdpt mem current) (index 3 va))) va) :
        mem' x = mem x :=
      hkeep va x (by rw [translateReads, h4, hr4]; exact List.mem_cons_of_mem _ (List.mem_cons_of_mem _ hx))
    by_cases h3 : index 3 va = 0
    · rw [h3, ht.pdpt_zero, walk_table (isPresent_or (by decide)) (isHuge_or hpd (by decide)),
        entryAddr_or hpd (by decide)]
      rw [h3] at hkeep3
      have hr3 : reads mem 3 (mem (slot (kernelPdpt mem current) 0)) va =
          slot (kernelPd mem current) (index 2 va) ::
            reads mem 2 (mem (slot (kernelPd mem current) (index 2 va))) va :=
        reads_table hk.pdpt_present hk.pdpt_table
      have hw3 : walk mem 3 (mem (slot (kernelPdpt mem current) 0)) va =
          walk mem 2 (mem (slot (kernelPd mem current) (index 2 va))) va :=
        walk_table hk.pdpt_present hk.pdpt_table
      by_cases h2' : index 2 va = 0
      · -- entry 0 of the level-2 table is the kernel's
        rw [if_neg (by simp [h2']), hw3, h2', ht.pd_zero]
        rw [h2'] at hr3
        exact walk_congr fun x hx => hkeep3 x (by rw [hr3]; exact List.mem_cons_of_mem _ hx)
      · -- the stale entries
        have hrest : mem' (slot pd (index 2 va)) = mem (slot pd (index 2 va)) :=
          ht.rest _ (slot_not_inFrame hpd hp.box_frame (Ne.symm hp.box_ne_pd) (index_lt 2 va))
            (slot_not_inFrame hpd hpdpt (Ne.symm hp.pdpt_ne_pd) (index_lt 2 va))
            fun h => h2' (slot_injective h)
        rw [if_pos ⟨rfl, rfl, h2'⟩, hrest]
    · -- the kernel's level-3 entries 1 to 511 were copied
      rw [if_neg (by simp [h3]), ht.pdpt_copy _ (Nat.pos_of_ne_zero h3) (index_lt 3 va)]
      exact walk_congr hkeep3
  · -- the kernel's level-4 entries 1 to 511 were copied
    rw [if_neg (by simp [h4]), ht.l4_copy _ (Nat.pos_of_ne_zero h4) (index_lt 4 va)]
    exact walk_congr fun x hx => hkeep va x (List.mem_cons_of_mem _ hx)

/-- A level-2 entry 1 to 511 that the frame `pd` held as a 2 MiB page survives
`new_page_table`: the process's table maps the first address below it to that page. -/
theorem newPageTable_maps_stale_page (hp : Placement mem current box pdpt pd)
    (hk : KernelTables mem current)
    (hu : ∀ va, ∀ x ∈ translateReads mem current va,
      ¬InFrame box x ∧ ¬InFrame pdpt x ∧ x ≠ slot pd 0)
    (h1 : FrameAllocator.allocateFrame a = (some pdpt, a1))
    (h2 : FrameAllocator.allocateFrame a1 = (some pd, a2)) {i : Nat} (hi : 1 ≤ i) (hi' : i < 512)
    (hpres : isPresent (mem (slot pd i)) = true) (hhuge : isHuge (mem (slot pd i)) = true) :
    ∃ mem', newPageTable mem current box a = some (mem', a2) ∧
      Paging.translate mem' box (i*2^21) = some (entryAddr (mem (slot pd i))/2^21*2^21) := by
  obtain ⟨mem', hnew, -, htr⟩ := newPageTable_translate hp hk hu h1 h2
  have h4 : index 4 (i*2^21) = 0 := by
    unfold index
    rw [Nat.div_eq_of_lt (by omega)]
  have h3 : index 3 (i*2^21) = 0 := by
    unfold index
    rw [Nat.div_eq_of_lt (by omega)]
  have h2' : index 2 (i*2^21) = i := by
    unfold index
    rw [show 3+9*2 = 21 from rfl, Nat.mul_div_cancel _ (by decide), Nat.mod_eq_of_lt hi']
  refine ⟨mem', hnew, ?_⟩
  rw [htr, if_pos ⟨h4, h3, by omega⟩, h2']
  simp [walk, hpres, hhuge, Nat.mul_mod_left]

end NewPageTable

end LobsterOS.Process
