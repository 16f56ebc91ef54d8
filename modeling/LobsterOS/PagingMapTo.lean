import LobsterOS.Paging

/-! What a `map_to` does to the tables it walks, as the spawn of a process relies on it, and the
model of the `x86_64` crate's `map_to` doing it. -/

namespace LobsterOS.Paging

variable {A : Type} [FrameAllocator A]

/-- The address `x` lies in a frame that one of the answers `frames` of the allocator names. -/
def InTaken (frames : List (Option Nat)) (x : Nat) : Prop :=
  ∃ f, some f ∈ frames ∧ InFrame (entryAddr f) x

/-- An entry that leads to a table in the frame `f`. -/
def TableEntry (f e : Nat) : Prop :=
  isPresent e = true ∧ isHuge e = false ∧ entryAddr e = entryAddr f

instance (f e : Nat) : Decidable (TableEntry f e) := inferInstanceAs (Decidable (_ ∧ _ ∧ _))

theorem TableEntry.of_sameEntry {f e e' : Nat} (h : TableEntry f e) (hs : SameEntry e e') :
    TableEntry f e' :=
  ⟨hs.1.trans h.1, hs.2.1.trans h.2.1, hs.2.2.trans h.2.2⟩

/-- Two entries that lead to tables in one frame are the same to the walk. -/
theorem TableEntry.sameEntry {f e e' : Nat} (h : TableEntry f e) (h' : TableEntry f e') :
    SameEntry e e' :=
  ⟨h'.1.trans h.1.symm, h'.2.1.trans h.2.1.symm, h'.2.2.trans h.2.2.symm⟩

/-- A walk whose every entry is unused or present: no entry holds an address it does not mark
present. -/
def NoStale (mem : Nat → Nat) (walk : List Nat) : Prop :=
  ∀ x ∈ walk, mem x = 0 ∨ isPresent (mem x) = true

/-- What a `map_to` of `frame` with `flags` that came back did to memory `mem`, where `walk` is
the page's walk: `k` calls of `allocate_frame`, writes only to the walk and to the frames those
calls gave, the present entries of the walk written through, and each unused one filled, with
the page's frame or a table in a frame it took. -/
structure MapsPage (walk : List Nat) (frame flags : Nat) (a : A) (k : Nat)
    (mem mem' : Nat → Nat) (a' : A) : Prop where
  allocates : a' = (allocateFrames k a).2
  writes : ∀ x, mem' x ≠ mem x → x ∈ walk ∨ InTaken (allocateFrames k a).1 x
  writes_through : ∀ x ∈ walk, ¬InTaken (allocateFrames k a).1 x → isPresent (mem x) = true →
    SameEntry (mem x) (mem' x)
  fills : ∀ x ∈ walk, ¬InTaken (allocateFrames k a).1 x → mem x = 0 →
    mem' x = frame ||| flags ∨ ∃ f, some f ∈ (allocateFrames k a).1 ∧ TableEntry f (mem' x)
  clean : ∀ x, InTaken (allocateFrames k a).1 x → mem' x = 0 ∨ isPresent (mem' x) = true

/-- The semantics of `Mapper::map_to` of `x86_64` 0.14 that the spawn of a process assumes:
with flags that hold `PRESENT`, over a walk with no stale entry, a `map_to` that comes back
allocates the missing tables of the page's walk and writes through its present entries. -/
def MapToSemantics (mapTo : MapTo A) : Prop :=
  ∀ mem l4 page frame flags a mem' a', isPresent flags = true →
    NoStale mem (translateReads mem l4 page) → mapTo mem l4 page frame flags a = .ok (mem', a') →
    ∃ k, MapsPage (translateReads mem l4 page) frame flags a k mem mem' a'

/-! ### Frames taken -/

theorem allocateFrames_succ_of {a a₁ : A} {f : Option Nat} {k : Nat}
    (h : FrameAllocator.allocateFrame a = (f, a₁)) :
    allocateFrames (k+1) a = (f :: (allocateFrames k a₁).1, (allocateFrames k a₁).2) := by
  simp [allocateFrames, h]

theorem inTaken_cons {f : Nat} {frames : List (Option Nat)} {x : Nat} :
    InTaken (some f :: frames) x ↔ InFrame (entryAddr f) x ∨ InTaken frames x := by
  constructor
  · rintro ⟨g, hg, hx⟩
    rcases List.mem_cons.1 hg with h | h
    · exact .inl (Option.some.inj h ▸ hx)
    · exact .inr ⟨g, h, hx⟩
  · rintro (hx | ⟨g, hg, hx⟩)
    · exact ⟨f, List.mem_cons_self, hx⟩
    · exact ⟨g, List.mem_cons_of_mem _ hg, hx⟩

/-! ### One level of `map_to_4kib` -/

/-- The slots the walk of `page` reads from the table at `table` of `level`. -/
def pathReads (mem : Nat → Nat) (level table page : Nat) : List Nat :=
  slot table (index level page) :: reads mem level (mem (slot table (index level page))) page

theorem pathReads_sameEntry {mem mem' : Nat → Nat} (h : ∀ x, SameEntry (mem x) (mem' x))
    (level table page : Nat) : pathReads mem' level table page = pathReads mem level table page := by
  unfold pathReads
  rw [reads_sameEntry (fun x _ => h x) (h _)]

/-- The parent tables get the flags' `PRESENT`, `WRITABLE` and `USER_ACCESSIBLE`, all below the
huge bit. -/
theorem parentFlags_lt (flags : Nat) : flags &&& (present ||| writable ||| userAccessible) < 0x80 :=
  Nat.lt_of_le_of_lt Nat.and_le_right (by decide)

theorem isPresent_parentFlags {flags : Nat} (h : isPresent flags = true) :
    isPresent (flags &&& (present ||| writable ||| userAccessible)) = true := by
  simp only [isPresent] at h ⊢
  rw [Nat.testBit_and, h]
  rfl

section Level

variable {mem mem₁ : Nat → Nat} {s insertFlags : Nat} {a a₁ : A} {next : Nat}

/-- On a present entry `insert_flags` only adds flags, which the walk does not see. -/
theorem insertEntry_of_present (hs : isPresent (mem s) = true) (hfl : insertFlags < 0x80) :
    ∃ mem₀, insertEntry mem s insertFlags a = .ok (mem₀, false, a) ∧
      (∀ x, x ≠ s → mem₀ x = mem x) ∧ SameEntry (mem s) (mem₀ s) := by
  have hne : mem s ≠ 0 := fun h0 => by simp [h0, isPresent] at hs
  unfold insertEntry
  rw [if_neg hne]
  split_ifs
  · refine ⟨_, rfl, fun x hx => Function.update_of_ne hx _ _, ?_⟩
    rw [Function.update_self]
    exact sameEntry_or hs hfl
  · exact ⟨mem, rfl, fun _ _ => rfl, SameEntry.refl _⟩

/-- `create_next_table` on an unused entry: a frame from the allocator, the entry set to it, the
table there zeroed. -/
theorem createNextTable_of_unused (hs : mem s = 0) (hfl : insertFlags < 0x80)
    (h : createNextTable mem s insertFlags a = .ok (mem₁, next, a₁)) :
    ∃ f, FrameAllocator.allocateFrame a = (some f, a₁) ∧ next = entryAddr f ∧
      isHuge (f ||| insertFlags) = false ∧
      mem₁ = zeroTable (Function.update mem s (f ||| insertFlags)) (entryAddr f) := by
  unfold createNextTable insertEntry at h
  rw [if_pos hs] at h
  rcases hfa : FrameAllocator.allocateFrame a with ⟨_ | f, a₂⟩
  · simp [hfa] at h
  simp only [hfa, Function.update_self, if_true] at h
  -- the branch of a huge entry answers with an error, which `split_ifs` discards
  split_ifs at h with hh
  have haddr : entryAddr (f ||| insertFlags) = entryAddr f := entryAddr_or_low (by omega)
  simp only [Except.ok.injEq, Prod.mk.injEq] at h
  obtain ⟨rfl, rfl, rfl⟩ := h
  exact ⟨f, rfl, haddr, by simpa using hh, by rw [haddr]⟩

/-- `create_next_table` on a present entry: the flags added, nothing allocated, the table it
leads to. -/
theorem createNextTable_of_present (hs : isPresent (mem s) = true) (hfl : insertFlags < 0x80)
    (h : createNextTable mem s insertFlags a = .ok (mem₁, next, a₁)) :
    a₁ = a ∧ next = entryAddr (mem s) ∧ isHuge (mem s) = false ∧
      (∀ x, x ≠ s → mem₁ x = mem x) ∧ SameEntry (mem s) (mem₁ s) := by
  obtain ⟨mem₀, hins, hrest, hsame⟩ := insertEntry_of_present (a := a) hs hfl
  unfold createNextTable at h
  simp only [hins, Bool.false_eq_true, if_false] at h
  split_ifs at h with hh
  simp only [Except.ok.injEq, Prod.mk.injEq] at h
  obtain ⟨rfl, rfl, rfl⟩ := h
  exact ⟨rfl, hsame.2.2, by simpa [hsame.2.1] using hh, hrest, hsame⟩

end Level

section Compose

variable {walk : List Nat} {frame flags : Nat} {a a₁ a' : A} {k : Nat} {mem mem₁ mem' : Nat → Nat}
  {s : Nat}

/-- Off the walk and the frames taken, a `map_to` writes nothing. -/
theorem MapsPage.keeps_off_walk (h : MapsPage walk frame flags a k mem mem' a') {x : Nat}
    (hw : x ∉ walk) (hnt : ¬InTaken (allocateFrames k a).1 x) : mem' x = mem x := by
  by_contra hne
  rcases h.writes x hne with hw' | ht
  · exact hw hw'
  · exact hnt ht

/-- A `map_to` with flags that hold `PRESENT` makes no word stale: a word that was unused or
present stays so. -/
theorem MapsPage.clean_of_clean (h : MapsPage walk frame flags a k mem mem' a')
    (hflags : isPresent flags = true) {x : Nat} (hx : mem x = 0 ∨ isPresent (mem x) = true) :
    mem' x = 0 ∨ isPresent (mem' x) = true := by
  by_cases hne : mem' x = mem x
  · rw [hne]
    exact hx
  by_cases ht : InTaken (allocateFrames k a).1 x
  · exact h.clean x ht
  -- a changed word off the frames taken lies on the walk: filled, or written through
  have hw := (h.writes x hne).resolve_right ht
  rcases hx with h0 | hp
  · rcases h.fills x hw ht h0 with hfr | ⟨g, -, hg⟩
    · exact .inr (by rw [hfr]; exact isPresent_or hflags)
    · exact .inr hg.1
  · exact .inr ((h.writes_through x hw ht hp).1.trans hp)

/-- A level that took a fresh table for the unused entry `s`: the rest of the walk lies in that
table, and what the levels below did, with one more frame, is what this level did. -/
theorem MapsPage.fresh_table {f insertFlags : Nat} (hflags : isPresent flags = true) (hs : mem s = 0)
    (hf : FrameAllocator.allocateFrame a = (some f, a₁)) (hpf : isPresent insertFlags = true)
    (hh : isHuge (f ||| insertFlags) = false) (hfl : insertFlags < 0x80)
    (hmem₁ : mem₁ = zeroTable (Function.update mem s (f ||| insertFlags)) (entryAddr f))
    (hwalk : ∀ x ∈ walk, InFrame (entryAddr f) x) (h : MapsPage walk frame flags a₁ k mem₁ mem' a') :
    MapsPage [s] frame flags a (k+1) mem mem' a' := by
  have halloc := allocateFrames_succ_of (k := k) hf
  -- the slots below `s` all lie in the fresh frame
  have hbelow (x : Nat) (hx : mem' x ≠ mem₁ x) : InTaken (allocateFrames (k+1) a).1 x := by
    rw [halloc, inTaken_cons]
    rcases h.writes x hx with hw | ht
    · exact .inl (hwalk x hw)
    · exact .inr ht
  have hmem₁_of (x : Nat) (hx : ¬InFrame (entryAddr f) x) :
      mem₁ x = Function.update mem s (f ||| insertFlags) x := by
    rw [hmem₁, zeroTable_of_not_inFrame hx]
  refine ⟨by rw [h.allocates, halloc], fun x hx => ?_, fun x hx _ hp => ?_, fun x hx hnt _ => ?_,
    fun x hx => ?_⟩
  · -- a change is at `s`, in the fresh frame, or below
    by_cases h1 : mem' x = mem₁ x
    · by_cases hin : InFrame (entryAddr f) x
      · exact .inr (by rw [halloc, inTaken_cons]; exact .inl hin)
      · rw [h1, hmem₁_of x hin] at hx
        by_cases hxs : x = s
        · exact .inl (hxs ▸ List.mem_cons_self)
        · exact absurd (Function.update_of_ne hxs _ _) hx
    · exact .inr (hbelow x h1)
  · rw [List.mem_singleton.1 hx, hs] at hp
    cases hp
  · -- `s` itself now leads to the fresh frame
    rw [List.mem_singleton.1 hx] at hnt ⊢
    have hin : ¬InFrame (entryAddr f) s := fun hin =>
      hnt (by rw [halloc, inTaken_cons]; exact .inl hin)
    have hkeep : mem' s = mem₁ s := by
      by_contra hne
      exact hnt (hbelow s hne)
    refine .inr ⟨f, by rw [halloc]; exact List.mem_cons_self, ?_⟩
    rw [hkeep, hmem₁_of s hin, Function.update_self]
    exact ⟨isPresent_or (by simpa [isPresent] using hpf), hh,
      entryAddr_or_low (Nat.lt_trans hfl (by decide))⟩
  · rw [halloc, inTaken_cons] at hx
    rcases hx with hin | ht
    · -- a slot of the fresh frame was zeroed, and the levels below leave no word stale
      exact h.clean_of_clean hflags (.inl (by rw [hmem₁, zeroTable_of_inFrame hin]))
    · exact h.clean x ht

/-- Memory that differs from `mem` only in flags of `s` that the walk does not see. -/
theorem sameEntry_of_rest (hrest : ∀ x, x ≠ s → mem₁ x = mem x) (hsame : SameEntry (mem s) (mem₁ s))
    (x : Nat) : SameEntry (mem x) (mem₁ x) := by
  by_cases hx : x = s
  · exact hx ▸ hsame
  · rw [hrest x hx]
    exact SameEntry.refl _

theorem NoStale.through_entry (hns : NoStale mem (s :: walk)) (hs : isPresent (mem s) = true)
    (hrest : ∀ x, x ≠ s → mem₁ x = mem x) (hsame : SameEntry (mem s) (mem₁ s)) :
    NoStale mem₁ walk := by
  intro x hx
  by_cases hxs : x = s
  · exact .inr (hxs ▸ hsame.1.trans hs)
  · rw [hrest x hxs]
    exact hns x (List.mem_cons_of_mem _ hx)

/-- A level that went through the present entry `s`, adding flags the walk does not see: what
the levels below did from the table `s` leads to is what this level did. -/
theorem MapsPage.through_entry (hs : isPresent (mem s) = true)
    (hrest : ∀ x, x ≠ s → mem₁ x = mem x) (hsame : SameEntry (mem s) (mem₁ s))
    (h : MapsPage walk frame flags a k mem₁ mem' a') :
    MapsPage (s :: walk) frame flags a k mem mem' a' := by
  refine ⟨h.allocates, fun x hx => ?_, fun x _ hnt hp => ?_, fun x hx hnt h0 => ?_, h.clean⟩
  · by_cases h1 : mem₁ x = mem x
    · rcases h.writes x (by rwa [h1]) with hw | ht
      · exact .inl (List.mem_cons_of_mem _ hw)
      · exact .inr ht
    · have hxs : x = s := by
        by_contra hxs
        exact h1 (hrest x hxs)
      exact .inl (hxs ▸ List.mem_cons_self)
  · have h₀ := sameEntry_of_rest hrest hsame x
    by_cases hw : x ∈ walk
    · exact h₀.trans (h.writes_through x hw hnt (h₀.1.trans hp))
    · -- off the walk below and the frames taken, the levels below changed nothing
      rw [h.keeps_off_walk hw hnt]
      exact h₀
  · -- an unused entry lies below `s`, which is present
    have hxs : x ≠ s := fun hxs => by simp [hxs ▸ h0, isPresent] at hs
    have hw : x ∈ walk := (List.mem_cons.1 hx).resolve_left hxs
    exact h.fills x hw hnt (by rw [hrest x hxs, h0])

end Compose

/-! ### The whole `map_to` -/

/-- `map_to_4kib` from the table at `table` of level `level + 1` does to the page's walk from
there what `MapsPage` says; the induction follows the levels. -/
theorem mapToLevel_mapsPage {page frame flags : Nat} (hflags : isPresent flags = true) :
    ∀ (level : Nat) {mem mem' : Nat → Nat} {table : Nat} {a a' : A},
      NoStale mem (pathReads mem (level+1) table page) →
      mapToLevel page frame flags (flags &&& (present ||| writable ||| userAccessible)) (level+1)
        mem table a = .ok (mem', a') →
      ∃ k, MapsPage (pathReads mem (level+1) table page) frame flags a k mem mem' a'
  | 0, mem, mem', table, a, a', _, h => by
    -- the level-1 entry: refused if used, set to the frame otherwise
    have hwalk : pathReads mem 1 table page = [slot table (index 1 page)] := by
      simp [pathReads, reads]
    simp only [mapToLevel] at h
    split_ifs at h with h0
    simp only [Except.ok.injEq, Prod.mk.injEq] at h
    obtain ⟨rfl, rfl⟩ := h
    have h0' : mem (slot table (index 1 page)) = 0 := by simpa using h0
    refine ⟨0, ?_⟩
    rw [hwalk]
    refine ⟨rfl, fun x hx => ?_, fun x hx _ hp => ?_, fun x hx _ _ => ?_, ?_⟩
    · by_cases hxs : x = slot table (index 1 page)
      · exact .inl (hxs ▸ List.mem_cons_self)
      · exact absurd (Function.update_of_ne hxs _ _) hx
    · rw [List.mem_singleton.1 hx, h0'] at hp
      cases hp
    · rw [List.mem_singleton.1 hx, Function.update_self]
      exact .inl rfl
    · rintro x ⟨f, hf, -⟩
      cases hf
  | level+1, mem, mem', table, a, a', hns, h => by
    have hpf := parentFlags_lt flags
    rw [mapToLevel] at h
    rcases hc : createNextTable mem (slot table (index (level+2) page))
        (flags &&& (present ||| writable ||| userAccessible)) a with e | ⟨mem₁, next, a₁⟩
    · rw [hc] at h
      cases h
    rw [hc] at h
    rcases hns _ List.mem_cons_self with h0 | hp
    · -- an unused entry: a fresh table, whose walk is its one zeroed slot
      obtain ⟨f, hf, rfl, hh, hmem₁⟩ := createNextTable_of_unused h0 hpf hc
      have hwalk : pathReads mem (level+2) table page = [slot table (index (level+2) page)] := by
        simp [pathReads, h0, reads, isPresent]
      have hzero : mem₁ (slot (entryAddr f) (index (level+1) page)) = 0 := by
        rw [hmem₁, zeroTable_of_inFrame (slot_inFrame (index_lt _ _))]
      have hwalk₁ : pathReads mem₁ (level+1) (entryAddr f) page =
          [slot (entryAddr f) (index (level+1) page)] := by
        simp [pathReads, hzero, reads, isPresent]
      have hns₁ : NoStale mem₁ (pathReads mem₁ (level+1) (entryAddr f) page) := by
        rw [hwalk₁]
        intro x hx
        rw [List.mem_singleton.1 hx]
        exact .inl hzero
      obtain ⟨k, hk⟩ := mapToLevel_mapsPage hflags level hns₁ h
      rw [hwalk₁] at hk
      refine ⟨k+1, ?_⟩
      rw [hwalk]
      exact hk.fresh_table hflags h0 hf (isPresent_parentFlags hflags) hh hpf hmem₁
        fun x hx => List.mem_singleton.1 hx ▸ slot_inFrame (index_lt _ _)
    · -- a present entry: through it to the table it leads to
      obtain ⟨rfl, rfl, hh, hrest, hsame⟩ := createNextTable_of_present hp hpf hc
      have hwalk : pathReads mem (level+2) table page = slot table (index (level+2) page) ::
          pathReads mem (level+1) (entryAddr (mem (slot table (index (level+2) page)))) page := by
        rw [pathReads, reads_table hp hh]
        rfl
      rw [hwalk] at hns ⊢
      have hns₁ := hns.through_entry hp hrest hsame
      rw [← pathReads_sameEntry (sameEntry_of_rest hrest hsame)] at hns₁
      obtain ⟨k, hk⟩ := mapToLevel_mapsPage hflags level hns₁ h
      rw [pathReads_sameEntry (sameEntry_of_rest hrest hsame)] at hk
      exact ⟨k, hk.through_entry hp hrest hsame⟩

/-- The model of `map_to` meets the semantics that the spawn assumes. -/
theorem mapTo_semantics : MapToSemantics (mapTo : MapTo A) :=
  fun _ _ _ _ _ _ _ _ hflags hns h => mapToLevel_mapsPage hflags 3 hns h

end LobsterOS.Paging
