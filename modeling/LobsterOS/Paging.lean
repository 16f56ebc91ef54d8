import LobsterOS.Memory

/-! Four-level x86-64 paging over word memory: the processor's walk, and `map_to` of the `x86_64`
crate (0.14). -/

namespace LobsterOS.Paging

/-- `PageTableFlags::PRESENT`. -/
def present : Nat := 0x1

/-- `PageTableFlags::WRITABLE`. -/
def writable : Nat := 0x2

/-- `PageTableFlags::USER_ACCESSIBLE`. -/
def userAccessible : Nat := 0x4

/-- The bits of an entry that hold a physical address. -/
def addrMask : Nat := 0x000f_ffff_ffff_f000

/-- `PageTableEntry::addr`. -/
def entryAddr (e : Nat) : Nat := e &&& addrMask

def isPresent (e : Nat) : Bool := e.testBit 0

/-- `PageTableFlags::HUGE_PAGE`, bit 7. -/
def isHuge (e : Nat) : Bool := e.testBit 7

/-- The start of a 4 KiB frame that a 52-bit physical address can name. -/
def IsFrame (f : Nat) : Prop := f%0x1000 = 0 ∧ f < 2^52

/-- The address `x` lies in the frame at `f`. -/
def InFrame (f x : Nat) : Prop := f ≤ x ∧ x < f+0x1000

instance (f : Nat) : Decidable (IsFrame f) := inferInstanceAs (Decidable (_ ∧ _))

instance (f x : Nat) : Decidable (InFrame f x) := inferInstanceAs (Decidable (_ ∧ _))

/-- Two entries the processor's walk cannot tell apart: the same present and huge bits and the
same address. -/
def SameEntry (e e' : Nat) : Prop :=
  isPresent e' = isPresent e ∧ isHuge e' = isHuge e ∧ entryAddr e' = entryAddr e

instance (e e' : Nat) : Decidable (SameEntry e e') := inferInstanceAs (Decidable (_ ∧ _ ∧ _))

/-- The physical address of entry `i` of the table at `table`. -/
def slot (table i : Nat) : Nat := table+8*i

/-- `p1_index` to `p4_index`: the entry a virtual address takes at `level`. -/
def index (level va : Nat) : Nat := va/2^(3+9*level)%512

/-- `PageTable::zero` on the table at `table`. -/
def zeroTable (mem : Nat → Nat) (table : Nat) : Nat → Nat :=
  fun x => if InFrame table x then 0 else mem x

/-- Entries `is` of the table at `src` copied, one after another, into the table at `dst`. -/
def copyEntries (mem : Nat → Nat) (dst src : Nat) (is : List Nat) : Nat → Nat :=
  is.foldl (fun mem i => Function.update mem (slot dst i) (mem (slot src i))) mem

/-! ### The walk -/

/-- Where the processor takes `va` from the entry `e` of a table at `level`: the physical
address, or none where it faults. A huge entry maps a 1 GiB page at level 3 and a 2 MiB page
at level 2; at level 4 the bit is reserved. -/
def walk (mem : Nat → Nat) : Nat → Nat → Nat → Option Nat
  | 0, _, _ => none
  | level+1, e, va =>
    if !isPresent e then none
    else if level = 0 then some (entryAddr e+va%2^12)
    else if isHuge e then
      if level = 3 then none
      else some (entryAddr e/2^(12+9*level)*2^(12+9*level)+va%2^(12+9*level))
    else walk mem level (mem (slot (entryAddr e) (index level va))) va

/-- The slots the walk from `e` reads. -/
def reads (mem : Nat → Nat) : Nat → Nat → Nat → List Nat
  | 0, _, _ => []
  | level+1, e, va =>
    if !isPresent e || level = 0 || isHuge e then []
    else slot (entryAddr e) (index level va) ::
      reads mem level (mem (slot (entryAddr e) (index level va))) va

/-- The translation of the address space whose level-4 table is at `l4`. -/
def translate (mem : Nat → Nat) (l4 va : Nat) : Option Nat :=
  walk mem 4 (mem (slot l4 (index 4 va))) va

/-- Every slot the translation of `va` reads, the level-4 entry first. -/
def translateReads (mem : Nat → Nat) (l4 va : Nat) : List Nat :=
  slot l4 (index 4 va) :: reads mem 4 (mem (slot l4 (index 4 va))) va

/-! ### `map_to` -/

/-- `Mapper::map_to(page, frame, flags, allocator)` over the tables in memory, from the level-4
table at `l4`. -/
abbrev MapTo (A : Type) : Type :=
  (Nat → Nat) → Nat → Nat → Nat → Nat → A → Except MapToError ((Nat → Nat) × A)

variable {A : Type} [FrameAllocator A]

/-- The first half of `create_next_table(entry, insert_flags, allocator)`: an unused entry gets
a fresh frame with `insert_flags`, a used one that lacks some of them has them added; with
whether the frame is fresh, and the allocator. -/
def insertEntry (mem : Nat → Nat) (entry insertFlags : Nat) (a : A) :
    Except MapToError ((Nat → Nat) × Bool × A) :=
  let e := mem entry
  if e = 0 then
    match FrameAllocator.allocateFrame a with
    | (some frame, a) => .ok (Function.update mem entry (frame ||| insertFlags), true, a)
    | (none, _) => .error .FrameAllocationFailed
  else if insertFlags ≠ 0 ∧ e &&& insertFlags ≠ insertFlags then
    .ok (Function.update mem entry (e ||| insertFlags), false, a)
  else .ok (mem, false, a)

/-- `create_next_table` on the entry at `entry`: the table the entry then leads to, zeroed if
its frame is fresh; a huge entry leads to no table. (The crate panics if the entry is still not
present; the flags inserted here always hold `PRESENT`.) -/
def createNextTable (mem : Nat → Nat) (entry insertFlags : Nat) (a : A) :
    Except MapToError ((Nat → Nat) × Nat × A) :=
  match insertEntry mem entry insertFlags a with
  | .error err => .error err
  | .ok (mem, created, a) =>
    let e := mem entry
    if isHuge e then .error .ParentEntryHugePage
    else .ok (if created then zeroTable mem (entryAddr e) else mem, entryAddr e, a)

/-- `map_to_4kib` from the table at `table` of `level`: `create_next_table` on the entries of
levels 4, 3 and 2 (the crate writes the three out), then the level-1 entry, which must be
unused, gets `frame` with `flags`. -/
def mapToLevel (page frame flags parentTableFlags : Nat) :
    Nat → (Nat → Nat) → Nat → A → Except MapToError ((Nat → Nat) × A)
  | 0, mem, _, a => .ok (mem, a)
  | 1, mem, table, a =>
    if mem (slot table (index 1 page)) ≠ 0 then .error (.PageAlreadyMapped frame)
    else .ok (Function.update mem (slot table (index 1 page)) (frame ||| flags), a)
  | level+2, mem, table, a =>
    match createNextTable mem (slot table (index (level+2) page)) parentTableFlags a with
    | .error err => .error err
    | .ok (mem, next, a) => mapToLevel page frame flags parentTableFlags (level+1) mem next a

/-- `Mapper::map_to`: the parent tables get the flags' `PRESENT`, `WRITABLE` and
`USER_ACCESSIBLE`. -/
def mapTo (mem : Nat → Nat) (l4 page frame flags : Nat) (a : A) :
    Except MapToError ((Nat → Nat) × A) :=
  mapToLevel page frame flags (flags &&& (present ||| writable ||| userAccessible)) 4 mem l4 a

/-- The tables an `OffsetPageTable` works on: physical memory and its level-4 table. -/
structure Tables where
  mem : Nat → Nat
  l4 : Nat

/-! ### Entries and slots -/

section Entries

variable {f fl : Nat}

theorem testBit_frame (hf : IsFrame f) {i : Nat} (hi : i < 12) : f.testBit i = false := by
  have hmod : f%2^12 = 0 := hf.1
  have h := Nat.testBit_mod_two_pow f 12 i
  rw [hmod, Nat.zero_testBit] at h
  simpa [hi] using h.symm

theorem testBit_frame_high (hf : IsFrame f) {i : Nat} (hi : 52 ≤ i) : f.testBit i = false :=
  Nat.testBit_lt_two_pow (Nat.lt_of_lt_of_le hf.2 (Nat.pow_le_pow_right (by decide) hi))

theorem testBit_addrMask (i : Nat) : addrMask.testBit i = decide (12 ≤ i ∧ i < 52) := by
  have hm : addrMask = (2^40-1) <<< 12 := by decide
  rw [hm, Nat.testBit_shiftLeft, Nat.testBit_two_pow_sub_one]
  by_cases hi : 12 ≤ i
  · simp only [ge_iff_le, hi, decide_true, Bool.true_and, true_and, decide_eq_decide]
    omega
  · simp [hi]

/-- An entry made of a frame and flags below bit 12 leads to that frame. -/
theorem entryAddr_or (hf : IsFrame f) (hfl : fl < 0x1000) : entryAddr (f ||| fl) = f := by
  apply Nat.eq_of_testBit_eq
  intro i
  rw [entryAddr, Nat.testBit_and, Nat.testBit_or, testBit_addrMask]
  by_cases hlo : i < 12
  · simp [testBit_frame hf hlo, show ¬12 ≤ i by omega]
  · have hpow : 2^12 ≤ 2^i := Nat.pow_le_pow_right (by decide) (by omega)
    have hfl' : fl.testBit i = false := Nat.testBit_lt_two_pow (Nat.lt_of_lt_of_le hfl hpow)
    by_cases hhi : i < 52
    · simp [hfl', hhi, show 12 ≤ i by omega]
    · simp [testBit_frame_high hf (show 52 ≤ i by omega), hfl', hhi]

theorem isPresent_or (hfl : fl.testBit 0 = true) : isPresent (f ||| fl) = true := by
  rw [isPresent, Nat.testBit_or, hfl, Bool.or_true]

theorem isHuge_or (hf : IsFrame f) (hfl : fl < 0x80) : isHuge (f ||| fl) = false := by
  have hfl' : fl.testBit 7 = false := Nat.testBit_lt_two_pow hfl
  simp [isHuge, Nat.testBit_or, testBit_frame hf (by decide : 7 < 12), hfl']

/-- Flags below bit 12 leave an entry's address alone. -/
theorem entryAddr_or_low {e : Nat} (hfl : fl < 0x1000) : entryAddr (e ||| fl) = entryAddr e := by
  apply Nat.eq_of_testBit_eq
  intro i
  rw [entryAddr, entryAddr, Nat.testBit_and, Nat.testBit_and, Nat.testBit_or, testBit_addrMask]
  by_cases hlo : i < 12
  · simp [show ¬12 ≤ i by omega]
  · have hpow : 2^12 ≤ 2^i := Nat.pow_le_pow_right (by decide) (by omega)
    have hfl' : fl.testBit i = false := Nat.testBit_lt_two_pow (Nat.lt_of_lt_of_le hfl hpow)
    simp [hfl']

theorem isHuge_or_low {e : Nat} (hfl : fl < 0x80) : isHuge (e ||| fl) = isHuge e := by
  have hfl' : fl.testBit 7 = false := Nat.testBit_lt_two_pow hfl
  simp [isHuge, Nat.testBit_or, hfl']

theorem isPresent_or_of_present {e : Nat} (hp : isPresent e = true) : isPresent (e ||| fl) = true := by
  rw [isPresent, Nat.testBit_or, show e.testBit 0 = true from hp, Bool.true_or]

theorem SameEntry.refl (e : Nat) : SameEntry e e := ⟨rfl, rfl, rfl⟩

theorem SameEntry.trans {e e' e'' : Nat} (h : SameEntry e e') (h' : SameEntry e' e'') :
    SameEntry e e'' :=
  ⟨h'.1.trans h.1, h'.2.1.trans h.2.1, h'.2.2.trans h.2.2⟩

/-- Adding flags below the huge bit to a present entry, as `create_next_table` does, keeps what
the walk reads of it. -/
theorem sameEntry_or {e : Nat} (hp : isPresent e = true) (hfl : fl < 0x80) :
    SameEntry e (e ||| fl) :=
  ⟨(isPresent_or_of_present hp).trans hp.symm, isHuge_or_low hfl,
    entryAddr_or_low (Nat.lt_trans hfl (by decide))⟩

theorem entryAddr_isFrame (e : Nat) : IsFrame (entryAddr e) := by
  constructor
  · apply Nat.eq_of_testBit_eq
    intro i
    rw [show (0x1000 : Nat) = 2^12 from rfl, Nat.testBit_mod_two_pow, entryAddr, Nat.testBit_and,
      testBit_addrMask]
    by_cases hi : i < 12
    · simp [hi, show ¬12 ≤ i by omega]
    · simp [hi]
  · exact Nat.lt_of_le_of_lt Nat.and_le_right (by decide)

theorem slot_inFrame {table i : Nat} (hi : i < 512) : InFrame table (slot table i) := by
  unfold InFrame slot
  omega

theorem slot_injective {table i j : Nat} (h : slot table i = slot table j) : i = j := by
  unfold slot at h
  omega

/-- Slots of two different frames are different. -/
theorem slot_ne_of_ne {t t' i j : Nat} (ht : IsFrame t) (ht' : IsFrame t') (hne : t ≠ t')
    (hi : i < 512) (hj : j < 512) : slot t i ≠ slot t' j := by
  obtain ⟨h1, -⟩ := ht
  obtain ⟨h2, -⟩ := ht'
  unfold slot
  omega

theorem not_inFrame_of_ne {t t' x : Nat} (ht : IsFrame t) (ht' : IsFrame t') (hne : t ≠ t')
    (hx : InFrame t x) : ¬InFrame t' x := by
  obtain ⟨h1, -⟩ := ht
  obtain ⟨h2, -⟩ := ht'
  unfold InFrame at *
  omega

theorem slot_not_inFrame {t t' i : Nat} (ht : IsFrame t) (ht' : IsFrame t') (hne : t ≠ t')
    (hi : i < 512) : ¬InFrame t' (slot t i) :=
  not_inFrame_of_ne ht ht' hne (slot_inFrame hi)

theorem ne_slot_of_not_inFrame {t x i : Nat} (hx : ¬InFrame t x) (hi : i < 512) : x ≠ slot t i :=
  fun h => hx (h ▸ slot_inFrame hi)

theorem index_lt (level va : Nat) : index level va < 512 := Nat.mod_lt _ (by decide)

@[simp] theorem zeroTable_of_inFrame {mem : Nat → Nat} {table x : Nat} (hx : InFrame table x) :
    zeroTable mem table x = 0 := if_pos hx

@[simp] theorem zeroTable_of_not_inFrame {mem : Nat → Nat} {table x : Nat} (hx : ¬InFrame table x) :
    zeroTable mem table x = mem x := if_neg hx

end Entries

/-! ### Copying entries -/

section Copy

variable {mem : Nat → Nat} {dst src : Nat}

theorem copyEntries_cons (i : Nat) (is : List Nat) :
    copyEntries mem dst src (i :: is) =
      copyEntries (Function.update mem (slot dst i) (mem (slot src i))) dst src is := rfl

/-- Outside the copied slots nothing changes. -/
theorem copyEntries_of_not_mem {is : List Nat} {x : Nat} (hx : ∀ i ∈ is, x ≠ slot dst i) :
    copyEntries mem dst src is x = mem x := by
  induction is generalizing mem with
  | nil => rfl
  | cons i is ih =>
    rw [copyEntries_cons, ih fun j hj => hx j (List.mem_cons_of_mem _ hj)]
    exact Function.update_of_ne (hx i List.mem_cons_self) _ _

/-- A copied slot holds the source's entry, when no copy lands on a slot of the source. -/
theorem copyEntries_slot {is : List Nat} {i : Nat} (hi : i ∈ is) (hnd : is.Nodup)
    (hsep : ∀ j ∈ is, ∀ k ∈ is, slot src j ≠ slot dst k) :
    copyEntries mem dst src is (slot dst i) = mem (slot src i) := by
  induction is generalizing mem with
  | nil => exact absurd hi List.not_mem_nil
  | cons j is ih =>
    obtain ⟨hj, hnd'⟩ := List.nodup_cons.1 hnd
    rw [copyEntries_cons]
    rcases List.mem_cons.1 hi with rfl | hi
    · have hne : ∀ k ∈ is, slot dst i ≠ slot dst k := fun k hk heq => by
        rw [slot_injective heq] at hj
        exact hj hk
      rw [copyEntries_of_not_mem hne, Function.update_self]
    · have hsrc : slot src i ≠ slot dst j := hsep i (List.mem_cons_of_mem _ hi) j List.mem_cons_self
      rw [ih hi hnd' fun k hk l hl => hsep k (List.mem_cons_of_mem _ hk) l (List.mem_cons_of_mem _ hl),
        Function.update_of_ne hsrc]

end Copy

/-! ### What a walk depends on -/

section Walk

variable {mem mem' : Nat → Nat}

theorem walk_of_not_present {level e va : Nat} (h : isPresent e = false) :
    walk mem (level+1) e va = none := by
  simp [walk, h]

/-- A present entry that is not huge leads to the next table. -/
theorem walk_table {level e va : Nat} (hp : isPresent e = true) (hh : isHuge e = false) :
    walk mem (level+2) e va = walk mem (level+1) (mem (slot (entryAddr e) (index (level+1) va))) va := by
  simp [walk, hp, hh]

theorem reads_table {level e va : Nat} (hp : isPresent e = true) (hh : isHuge e = false) :
    reads mem (level+2) e va = slot (entryAddr e) (index (level+1) va) ::
      reads mem (level+1) (mem (slot (entryAddr e) (index (level+1) va))) va := by
  simp [reads, hp, hh]

/-- The last level maps the page of a present entry, whatever memory holds. -/
theorem walk_one {e va : Nat} :
    walk mem 1 e va = if !isPresent e then none else some (entryAddr e+va%2^12) := by
  simp [walk]

/-- A present huge entry maps its page, whatever memory holds. -/
theorem walk_huge {level e va : Nat} (hp : isPresent e = true) (hh : isHuge e = true) :
    walk mem (level+2) e va = if level+1 = 3 then none
      else some (entryAddr e/2^(12+9*(level+1))*2^(12+9*(level+1))+va%2^(12+9*(level+1))) := by
  simp [walk, hp, hh]

/-- Where the walk stops, it reads no more slots. -/
theorem reads_stop {level e va : Nat} (h : (!isPresent e || decide (level = 0) || isHuge e) = true) :
    reads mem (level+1) e va = [] := by
  simp only [reads, h, if_true]

/-- A walk reads no slot below the last level. -/
theorem reads_one {e va : Nat} : reads mem 1 e va = [] :=
  reads_stop (by simp)

/-- The walk reads of each entry only its present and huge bits and its address, and only the
slots `reads` lists: entries the walk cannot tell apart there give the same walk. -/
theorem walk_sameEntry {level e e' va : Nat}
    (h : ∀ x ∈ reads mem level e va, SameEntry (mem x) (mem' x)) (he : SameEntry e e') :
    walk mem' level e' va = walk mem level e va := by
  obtain ⟨hp', hh', ha'⟩ := he
  induction level generalizing e e' with
  | zero => rfl
  | succ level ih =>
    rcases level with _ | level
    · rw [walk_one, walk_one, hp', ha']
    · by_cases hp : isPresent e = true
      · by_cases hh : isHuge e = true
        · rw [walk_huge (hp'.trans hp) (hh'.trans hh), walk_huge hp hh, ha']
        · -- the only slot read here is the next entry, and the rest of the walk starts there
          have hh0 : isHuge e = false := by simpa using hh
          rw [reads_table hp hh0] at h
          obtain ⟨hn1, hn2, hn3⟩ := h _ List.mem_cons_self
          rw [walk_table hp hh0, walk_table (hp'.trans hp) (hh'.trans hh0), ha']
          exact ih (fun x hx => h x (List.mem_cons_of_mem _ hx)) hn1 hn2 hn3
      · have hp0 : isPresent e = false := by simpa using hp
        rw [walk_of_not_present hp0, walk_of_not_present (hp'.trans hp0)]

/-- The same for the slots the walk reads. -/
theorem reads_sameEntry {level e e' va : Nat}
    (h : ∀ x ∈ reads mem level e va, SameEntry (mem x) (mem' x)) (he : SameEntry e e') :
    reads mem' level e' va = reads mem level e va := by
  obtain ⟨hp', hh', ha'⟩ := he
  induction level generalizing e e' with
  | zero => rfl
  | succ level ih =>
    by_cases hstop : (!isPresent e || decide (level = 0) || isHuge e) = true
    · rw [reads_stop hstop, reads_stop (by rwa [hp', hh'])]
    · -- a table entry above the last level: one slot, then the walk from it
      obtain ⟨⟨hp, hl⟩, hh⟩ : (isPresent e = true ∧ level ≠ 0) ∧ isHuge e = false := by
        simpa using hstop
      obtain ⟨level, rfl⟩ := Nat.exists_eq_succ_of_ne_zero hl
      rw [reads_table hp hh] at h
      obtain ⟨hn1, hn2, hn3⟩ := h _ List.mem_cons_self
      rw [reads_table hp hh, reads_table (hp'.trans hp) (hh'.trans hh), ha',
        ih (fun x hx => h x (List.mem_cons_of_mem _ hx)) hn1 hn2 hn3]

/-- The walk reads only the slots `reads` lists: memory that agrees there gives the same walk. -/
theorem walk_congr {level e va : Nat} (h : ∀ x ∈ reads mem level e va, mem' x = mem x) :
    walk mem' level e va = walk mem level e va :=
  walk_sameEntry (fun x hx => h x hx ▸ SameEntry.refl _) (SameEntry.refl e)

/-- Tables the walk cannot tell apart along the translation of `va` translate it the same. -/
theorem translate_sameEntry {l4 va : Nat}
    (h : ∀ x ∈ translateReads mem l4 va, SameEntry (mem x) (mem' x)) :
    translate mem' l4 va = translate mem l4 va :=
  walk_sameEntry (fun x hx => h x (List.mem_cons_of_mem _ hx)) (h _ List.mem_cons_self)

theorem translate_congr {l4 va : Nat} (h : ∀ x ∈ translateReads mem l4 va, mem' x = mem x) :
    translate mem' l4 va = translate mem l4 va := by
  unfold translate
  rw [h _ List.mem_cons_self]
  exact walk_congr fun x hx => h x (List.mem_cons_of_mem _ hx)

end Walk

end LobsterOS.Paging
