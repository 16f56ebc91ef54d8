import LobsterOS.FixedBlock

/-! Every run of `alloc` and `dealloc` keeps the allocator's books, and from them the live
allocations' alignment and disjointness. -/

namespace LobsterOS.FixedBlock

variable {H : Type}

/-! ### Size classes -/

theorem blockSizes_getElem? {i : Nat} (hi : i < 9) : blockSizes[i]? = some (2^(i+3)) := by
  have hall : ∀ i < 9, blockSizes[i]? = some (2^(i+3)) := by decide
  exact hall i hi

/-- The class `block_index` picks holds the layout and is one of the nine. -/
theorem blockIndex_some {layout : Layout} {i : Nat} (h : blockIndex layout = some i) :
    i < 9 ∧ max layout.size layout.align ≤ 2^(i+3) := by
  obtain ⟨hlt, hfits, -⟩ := List.findIdx?_eq_some_iff_getElem.1 h
  have hi : i < 9 := hlt
  have hget : some blockSizes[i] = some (2^(i+3)) :=
    (List.getElem?_eq_getElem hlt).symm.trans (blockSizes_getElem? hi)
  exact ⟨hi, le_of_le_of_eq (of_decide_eq_true hfits) (Option.some.inj hget)⟩

/-- A layout with no class is bigger than the largest block. -/
theorem blockIndex_none {layout : Layout} (h : blockIndex layout = none) :
    2048 < max layout.size layout.align := by
  have hnone := List.findIdx?_eq_none_iff.1 h
  have hlast := hnone 2048 (by decide)
  exact Nat.lt_of_not_le (of_decide_eq_false hlast)

theorem block_size_le (i : Nat) : 2^(min i 8+3) ≤ 2^63-2^(min i 8+3) := by
  have hle : 2^(min i 8+3) ≤ 2^11 := Nat.pow_le_pow_right (by decide) (by omega)
  omega

/-- `Layout::from_size_align(BLOCK_SIZES[i], BLOCK_SIZES[i])` for the class `i` (of the nine). -/
def blockLayout (i : Nat) : Layout where
  size := 2^(min i 8+3)
  align := 2^(min i 8+3)
  align_pow := ⟨_, rfl⟩
  size_le := block_size_le i

theorem fromSizeAlign_blockSize {i : Nat} (hi : i < 9) :
    Layout.fromSizeAlign (2^(i+3)) (2^(i+3)) = some (blockLayout i) := by
  have hmin : min i 8 = i := by omega
  have hmem : 2^(i+3) ∈ (List.range 64).map (2^·) :=
    List.mem_map.2 ⟨i+3, List.mem_range.2 (by omega), rfl⟩
  have hle : 2^(i+3) ≤ 2^63-2^(i+3) := by simpa [hmin] using block_size_le i
  unfold Layout.fromSizeAlign
  rw [dif_pos ⟨hmem, hle⟩]
  congr 1
  ext <;> simp [blockLayout, hmin]

/-- The layout `FixedBlockAlloc` asks the fallback for when it serves `layout` from it. -/
def fallbackLayout (layout : Layout) : Layout :=
  match blockIndex layout with
  | some i => blockLayout i
  | none => layout

/-- The bytes an allocation of `layout` holds: its class's block, or its own size. -/
def allocSize (layout : Layout) : Nat :=
  match blockIndex layout with
  | some i => (blockSizes[i]?).getD 0
  | none => layout.size

theorem allocSize_eq (layout : Layout) : allocSize layout = (fallbackLayout layout).size := by
  unfold allocSize fallbackLayout
  cases h : blockIndex layout with
  | none => rfl
  | some i =>
    have hi := (blockIndex_some h).1
    simp [blockSizes_getElem? hi, blockLayout, Nat.min_eq_left (by omega : i ≤ 8)]

/-- The caller's alignment divides the alignment of the block that serves it: both are powers
of two, and a class's block is at least as aligned as the layout asks. -/
theorem align_dvd_fallbackLayout (layout : Layout) :
    layout.align ∣ (fallbackLayout layout).align := by
  unfold fallbackLayout
  cases h : blockIndex layout with
  | none => exact dvd_rfl
  | some i =>
    obtain ⟨hi, hfits⟩ := blockIndex_some h
    obtain ⟨k, hk⟩ := layout.align_pow
    have hmin : min i 8 = i := by omega
    have hle : 2^k ≤ 2^(i+3) := by
      rw [← hk]
      exact le_trans (le_max_right _ _) hfits
    show layout.align ∣ 2^(min i 8+3)
    rw [hk, hmin]
    exact Nat.pow_dvd_pow 2 ((Nat.pow_le_pow_iff_right (by decide)).1 hle)

/-! ### What the fallback promises -/

/-- The extent a block of the fallback takes up. -/
def FallbackHeap.extent (fallback : FallbackHeap H) (b : Nat × Layout) : Set Nat :=
  Set.Ico b.1 (b.1+fallback.reserved b.2)

/-- What the kernel relies on of `linked_list_allocator::Heap`: `allocate_first_fit` gives a
non-null block aligned as asked, taking at least the requested bytes and disjoint from every
block it has handed out; `deallocate` takes such a block back. -/
structure FallbackHeap.Spec (fallback : FallbackHeap H) : Prop where
  reserved_pos : ∀ layout, 0 < fallback.reserved layout
  size_le_reserved : ∀ layout, layout.size ≤ fallback.reserved layout
  allocate : ∀ h layout ptr h', fallback.allocateFirstFit h layout = some (ptr, h') →
    ptr ≠ 0 ∧ ptr%layout.align = 0 ∧
    fallback.outstanding h' = (ptr, layout) :: fallback.outstanding h ∧
    ∀ b ∈ fallback.outstanding h, Disjoint (fallback.extent (ptr, layout)) (fallback.extent b)
  deallocate : ∀ h ptr layout, (ptr, layout) ∈ fallback.outstanding h →
    fallback.outstanding (fallback.deallocate h ptr layout) =
      (fallback.outstanding h).erase (ptr, layout)

/-! ### The books -/

/-- The fallback blocks behind the live allocations. -/
def liveBlocks (live : List (Nat × Layout)) : Multiset (Nat × Layout) :=
  ↑(live.map fun q => (q.1, fallbackLayout q.2))

/-- The blocks on the nine free lists. -/
def freeBlocks (a : FixedBlockAlloc H) : Multiset (Nat × Layout) :=
  ∑ i ∈ Finset.range 9, ↑((a.listHeads i).map fun p => (p, blockLayout i))

/-- What holds after every run. -/
structure Inv (fallback : FallbackHeap H) (s : KernelHeap H) : Prop where
  books : (↑(fallback.outstanding s.allocator.fallback) : Multiset (Nat × Layout)) =
    liveBlocks s.live+freeBlocks s.allocator
  separated : (fallback.outstanding s.allocator.fallback).Pairwise fun b c =>
    Disjoint (fallback.extent b) (fallback.extent c)
  nonnull : ∀ b ∈ fallback.outstanding s.allocator.fallback, b.1 ≠ 0
  aligned_live : ∀ q ∈ s.live, q.1%(fallbackLayout q.2).align = 0
  aligned_free : ∀ i, ∀ p ∈ s.allocator.listHeads i, p%(blockLayout i).align = 0
  beyond : ∀ i, 9 ≤ i → s.allocator.listHeads i = []

/-- Changing free list `i` to `l` changes the free blocks by exactly the two lists' blocks. -/
theorem freeBlocks_update (a : FixedBlockAlloc H) {i : Nat} (hi : i < 9) (l : List Nat) :
    freeBlocks { a with listHeads := Function.update a.listHeads i l } +
        ↑((a.listHeads i).map fun p => (p, blockLayout i)) =
      freeBlocks a+↑(l.map fun p => (p, blockLayout i)) := by
  have hmem : i ∈ Finset.range 9 := Finset.mem_range.2 hi
  unfold freeBlocks
  rw [← Finset.add_sum_erase _ _ hmem, ← Finset.add_sum_erase _ _ hmem]
  -- the other eight lists are untouched
  have hrest : ∑ j ∈ (Finset.range 9).erase i,
      (↑((Function.update a.listHeads i l j).map fun p => (p, blockLayout j)) : Multiset _) =
      ∑ j ∈ (Finset.range 9).erase i,
        (↑((a.listHeads j).map fun p => (p, blockLayout j)) : Multiset (Nat × Layout)) := by
    refine Finset.sum_congr rfl fun j hj => ?_
    rw [Function.update_of_ne (Finset.ne_of_mem_erase hj)]
  simp only [Function.update_self, hrest]
  ac_rfl

/-- Popping the head of free list `i` takes one block of class `i` off the free blocks. -/
theorem freeBlocks_pop (a : FixedBlockAlloc H) {i p : Nat} {rest : List Nat} (hi : i < 9)
    (hl : a.listHeads i = p :: rest) :
    freeBlocks a = (p, blockLayout i) ::ₘ
      freeBlocks { a with listHeads := Function.update a.listHeads i rest } := by
  have hupd := freeBlocks_update a hi rest
  rw [hl, List.map_cons, ← Multiset.cons_coe, Multiset.add_cons, ← Multiset.cons_add] at hupd
  exact (add_right_cancel hupd).symm

/-- Pushing onto free list `i` adds one block of class `i` to the free blocks. -/
theorem freeBlocks_push (a : FixedBlockAlloc H) {i : Nat} (p : Nat) (hi : i < 9) :
    freeBlocks { a with listHeads := Function.update a.listHeads i (p :: a.listHeads i) } =
      (p, blockLayout i) ::ₘ freeBlocks a := by
  have hupd := freeBlocks_update a hi (p :: a.listHeads i)
  rw [List.map_cons, ← Multiset.cons_coe, Multiset.add_cons, ← Multiset.cons_add] at hupd
  exact add_right_cancel hupd

theorem liveBlocks_cons (q : Nat × Layout) (live : List (Nat × Layout)) :
    liveBlocks (q :: live) = (q.1, fallbackLayout q.2) ::ₘ liveBlocks live := rfl

theorem liveBlocks_erase {q : Nat × Layout} {live : List (Nat × Layout)} (hq : q ∈ live) :
    liveBlocks live = (q.1, fallbackLayout q.2) ::ₘ liveBlocks (live.erase q) :=
  Multiset.coe_eq_coe.2 ((List.perm_cons_erase hq).map _)

/-! ### What each call can do -/

namespace FixedBlockAlloc

variable {fallback : FallbackHeap H} {a a' : FixedBlockAlloc H} {layout : Layout} {ptr : Nat}

theorem fallbackAlloc_eq (h : a.fallbackAlloc fallback layout = (ptr, a')) :
    (∃ heap, fallback.allocateFirstFit a.fallback layout = some (ptr, heap) ∧
      a' = { a with fallback := heap }) ∨
    (ptr = 0 ∧ a' = a) := by
  unfold fallbackAlloc at h
  rcases hf : fallback.allocateFirstFit a.fallback layout with _ | ⟨p, heap⟩
  · simp only [hf, Prod.mk.injEq] at h
    obtain ⟨rfl, rfl⟩ := h
    exact .inr ⟨rfl, rfl⟩
  · simp only [hf, Prod.mk.injEq] at h
    obtain ⟨rfl, rfl⟩ := h
    exact .inl ⟨heap, rfl, rfl⟩

/-- `alloc` pops the head of its class's free list, or asks the fallback for the class's block
(or for the layout itself, when it has no class). -/
theorem alloc_ok (h : a.alloc fallback layout = .ok (ptr, a')) :
    (∃ i rest, blockIndex layout = some i ∧ a.listHeads i = ptr :: rest ∧
      a' = { a with listHeads := Function.update a.listHeads i rest }) ∨
    a.fallbackAlloc fallback (fallbackLayout layout) = (ptr, a') := by
  unfold alloc at h
  rcases hb : blockIndex layout with _ | i
  · simp only [hb, Except.ok.injEq] at h
    right
    simpa only [fallbackLayout, hb] using h
  · have hi := (blockIndex_some hb).1
    simp only [hb] at h
    rcases hl : a.listHeads i with _ | ⟨node, next⟩
    · simp only [hl, blockSizes_getElem? hi, fromSizeAlign_blockSize hi, Except.ok.injEq] at h
      right
      simpa only [fallbackLayout, hb] using h
    · simp only [hl, Except.ok.injEq, Prod.mk.injEq] at h
      obtain ⟨rfl, rfl⟩ := h
      exact .inl ⟨i, next, rfl, hl, rfl⟩

/-- `dealloc` pushes the block onto its class's free list, or gives a classless block back to
the fallback; the asserts on the node's size and alignment always pass. -/
theorem dealloc_ok (h : a.dealloc fallback ptr layout = .ok a') :
    (∃ i, blockIndex layout = some i ∧
      a' = { a with listHeads := Function.update a.listHeads i (ptr :: a.listHeads i) }) ∨
    (blockIndex layout = none ∧ ptr ≠ 0 ∧
      a' = { a with fallback := fallback.deallocate a.fallback ptr layout }) := by
  unfold dealloc at h
  rcases hb : blockIndex layout with _ | i
  · simp only [hb] at h
    by_cases hp : ptr = 0
    · simp [hp] at h
    · simp only [hp, if_false, Except.ok.injEq] at h
      exact .inr ⟨rfl, hp, h.symm⟩
  · have hi := (blockIndex_some hb).1
    have h8 : 8 ≤ 2^(i+3) := le_trans (by decide) (Nat.pow_le_pow_right (by decide) (Nat.le_add_left 3 i))
    simp only [hb, blockSizes_getElem? hi, listNodeSize, listNodeAlign, h8, not_true_eq_false,
      if_false, Except.ok.injEq] at h
    exact .inl ⟨i, rfl, h.symm⟩

end FixedBlockAlloc

section Exec

variable {fallback : FallbackHeap H} {s s' : KernelHeap H} {layout : Layout} {ptr : Nat}

theorem exec_alloc (h : exec fallback (.alloc layout) s = some (.ok (s', ptr))) :
    s.allocator.alloc fallback layout = .ok (ptr, s'.allocator) ∧
      s'.live = if ptr = 0 then s.live else (ptr, layout) :: s.live := by
  simp only [exec, Option.some.injEq] at h
  rcases halloc : s.allocator.alloc fallback layout with e | ⟨p, a'⟩
  · simp [halloc, Except.map] at h
  · simp only [halloc, Except.map, Except.ok.injEq, Prod.mk.injEq] at h
    obtain ⟨rfl, rfl⟩ := h
    exact ⟨rfl, rfl⟩

theorem exec_dealloc {r : Nat} (h : exec fallback (.dealloc ptr layout) s = some (.ok (s', r))) :
    (ptr, layout) ∈ s.live ∧ s.allocator.dealloc fallback ptr layout = .ok s'.allocator ∧
      s'.live = s.live.erase (ptr, layout) := by
  simp only [exec] at h
  by_cases hlive : (ptr, layout) ∈ s.live
  · simp only [hlive, if_true, Option.some.injEq] at h
    rcases hd : s.allocator.dealloc fallback ptr layout with e | a'
    · simp [hd, Except.map] at h
    · simp only [hd, Except.map, Except.ok.injEq, Prod.mk.injEq] at h
      obtain ⟨rfl, -⟩ := h
      exact ⟨hlive, rfl, rfl⟩
  · simp [hlive] at h

end Exec

/-! ### One call keeps the books -/

section Step

variable {fallback : FallbackHeap H} {s : KernelHeap H}

theorem Inv.mem_outstanding_of_free (hinv : Inv fallback s) {i p : Nat} (hi : i < 9)
    (hp : p ∈ s.allocator.listHeads i) :
    (p, blockLayout i) ∈ fallback.outstanding s.allocator.fallback := by
  have hfree : (p, blockLayout i) ∈ freeBlocks s.allocator :=
    Multiset.mem_sum.2 ⟨i, Finset.mem_range.2 hi, Multiset.mem_coe.2 (List.mem_map_of_mem hp)⟩
  rw [← Multiset.mem_coe, hinv.books]
  exact Multiset.mem_add.2 (.inr hfree)

theorem Inv.mem_outstanding_of_live (hinv : Inv fallback s) {q : Nat × Layout} (hq : q ∈ s.live) :
    (q.1, fallbackLayout q.2) ∈ fallback.outstanding s.allocator.fallback := by
  rw [← Multiset.mem_coe, hinv.books, liveBlocks_erase hq]
  exact Multiset.mem_add.2 (.inl (Multiset.mem_cons_self _ _))

/-- Free list `i` changed to blocks aligned for class `i`: every free list stays aligned for
its class, and the lists past the nine classes stay empty. -/
theorem Inv.listHeads_update (hinv : Inv fallback s) {i : Nat} (hi : i < 9) {l : List Nat}
    (hl : ∀ p ∈ l, p%(blockLayout i).align = 0) :
    (∀ j, ∀ p ∈ Function.update s.allocator.listHeads i l j, p%(blockLayout j).align = 0) ∧
    ∀ j, 9 ≤ j → Function.update s.allocator.listHeads i l j = [] := by
  refine ⟨fun j p hp => ?_, fun j hj => ?_⟩
  · by_cases hj : j = i
    · subst hj
      simp only [Function.update_self] at hp
      exact hl p hp
    · simp only [Function.update_of_ne hj] at hp
      exact hinv.aligned_free j p hp
  · simp only [Function.update_of_ne (by omega : j ≠ i)]
    exact hinv.beyond j hj

/-- A class's free list serves `alloc`: the block moves from the free blocks to the live
ones, and it is aligned for its class, hence for the layout. -/
theorem Inv.alloc_pop (hinv : Inv fallback s) {layout : Layout} {i ptr : Nat} {rest : List Nat}
    (hb : blockIndex layout = some i) (hl : s.allocator.listHeads i = ptr :: rest) :
    ptr ≠ 0 ∧ Inv fallback
      ⟨{ s.allocator with listHeads := Function.update s.allocator.listHeads i rest },
        (ptr, layout) :: s.live⟩ := by
  have hi := (blockIndex_some hb).1
  have hmem : ptr ∈ s.allocator.listHeads i := by
    rw [hl]
    exact List.mem_cons_self
  have hfl : fallbackLayout layout = blockLayout i := by simp [fallbackLayout, hb]
  obtain ⟨hfree, hbeyond⟩ := hinv.listHeads_update hi (l := rest)
    (fun p hp => hinv.aligned_free i p (by rw [hl]; exact List.mem_cons_of_mem _ hp))
  refine ⟨hinv.nonnull _ (hinv.mem_outstanding_of_free hi hmem), ?_, hinv.separated, hinv.nonnull,
    ?_, hfree, hbeyond⟩
  · show _ = liveBlocks ((ptr, layout) :: s.live) + _
    rw [hinv.books, liveBlocks_cons, hfl, freeBlocks_pop s.allocator hi hl, Multiset.cons_add,
      Multiset.add_cons]
  · intro q hq
    rcases List.mem_cons.1 hq with rfl | hq
    · rw [hfl]
      exact hinv.aligned_free i ptr hmem
    · exact hinv.aligned_live q hq

/-- The fallback serves `alloc`: its new block is live, aligned as asked and apart from every
block it had handed out. -/
theorem Inv.alloc_fallback (hspec : fallback.Spec) (hinv : Inv fallback s) {layout : Layout}
    {ptr : Nat} {heap : H}
    (hf : fallback.allocateFirstFit s.allocator.fallback (fallbackLayout layout) = some (ptr, heap)) :
    ptr ≠ 0 ∧ Inv fallback ⟨{ s.allocator with fallback := heap }, (ptr, layout) :: s.live⟩ := by
  obtain ⟨hptr, halign, hout, hdisj⟩ := hspec.allocate _ _ _ _ hf
  refine ⟨hptr, ?_, ?_, ?_, ?_, hinv.aligned_free, hinv.beyond⟩
  · show ↑(fallback.outstanding heap) = liveBlocks ((ptr, layout) :: s.live) + _
    rw [hout, ← Multiset.cons_coe, hinv.books, liveBlocks_cons, Multiset.cons_add]
    rfl
  · show (fallback.outstanding heap).Pairwise _
    rw [hout]
    exact List.Pairwise.cons hdisj hinv.separated
  · intro b hb
    rw [hout] at hb
    rcases List.mem_cons.1 hb with rfl | hb
    · exact hptr
    · exact hinv.nonnull b hb
  · intro q hq
    rcases List.mem_cons.1 hq with rfl | hq
    · exact halign
    · exact hinv.aligned_live q hq

theorem Inv.alloc (hspec : fallback.Spec) (hinv : Inv fallback s) {layout : Layout} {ptr : Nat}
    {a' : FixedBlockAlloc H} (h : s.allocator.alloc fallback layout = .ok (ptr, a')) :
    Inv fallback ⟨a', if ptr = 0 then s.live else (ptr, layout) :: s.live⟩ := by
  rcases FixedBlockAlloc.alloc_ok h with ⟨i, rest, hb, hl, rfl⟩ | hfb
  · obtain ⟨hptr, hinv'⟩ := hinv.alloc_pop hb hl
    rw [if_neg hptr]
    exact hinv'
  · rcases FixedBlockAlloc.fallbackAlloc_eq hfb with ⟨heap, hf, rfl⟩ | ⟨rfl, rfl⟩
    · obtain ⟨hptr, hinv'⟩ := hinv.alloc_fallback hspec hf
      rw [if_neg hptr]
      exact hinv'
    · -- the fallback is out of memory: null, and nothing changes
      exact hinv

/-- `dealloc` of a live allocation: a class's block goes onto its free list, where it is
aligned for its class; a classless block goes back to the fallback. -/
theorem Inv.dealloc (hspec : fallback.Spec) (hinv : Inv fallback s) {layout : Layout} {ptr : Nat}
    {a' : FixedBlockAlloc H} (hlive : (ptr, layout) ∈ s.live)
    (h : s.allocator.dealloc fallback ptr layout = .ok a') :
    Inv fallback ⟨a', s.live.erase (ptr, layout)⟩ := by
  have hsub : ∀ q ∈ s.live.erase (ptr, layout), q ∈ s.live := fun q hq => List.mem_of_mem_erase hq
  rcases FixedBlockAlloc.dealloc_ok h with ⟨i, hb, rfl⟩ | ⟨hb, -, rfl⟩
  · have hi := (blockIndex_some hb).1
    have hfl : fallbackLayout layout = blockLayout i := by simp [fallbackLayout, hb]
    -- the freed block was live, so aligned for the layout, which is its class's
    obtain ⟨hfree, hbeyond⟩ := hinv.listHeads_update hi (l := ptr :: s.allocator.listHeads i)
      (fun p hp => by
        rcases List.mem_cons.1 hp with rfl | hp
        · rw [← hfl]
          exact hinv.aligned_live _ hlive
        · exact hinv.aligned_free i p hp)
    refine ⟨?_, hinv.separated, hinv.nonnull, fun q hq => hinv.aligned_live q (hsub q hq), hfree,
      hbeyond⟩
    · show _ = _ + freeBlocks { s.allocator with listHeads := _ }
      rw [hinv.books, liveBlocks_erase hlive, freeBlocks_push s.allocator ptr hi, hfl,
        Multiset.cons_add, Multiset.add_cons]
  · -- a classless block was asked of the fallback with its own layout
    have hfl : fallbackLayout layout = layout := by simp [fallbackLayout, hb]
    have hout : (ptr, layout) ∈ fallback.outstanding s.allocator.fallback := by
      simpa [hfl] using hinv.mem_outstanding_of_live hlive
    have hdealloc := hspec.deallocate _ _ _ hout
    refine ⟨?_, ?_, ?_, fun q hq => hinv.aligned_live q (hsub q hq), hinv.aligned_free, hinv.beyond⟩
    · show (↑(fallback.outstanding (fallback.deallocate s.allocator.fallback ptr layout)) :
          Multiset (Nat × Layout)) = liveBlocks (s.live.erase (ptr, layout)) + freeBlocks s.allocator
      rw [hdealloc]
      have hcons : (↑(fallback.outstanding s.allocator.fallback) : Multiset (Nat × Layout)) =
          (ptr, layout) ::ₘ ↑((fallback.outstanding s.allocator.fallback).erase (ptr, layout)) :=
        Multiset.coe_eq_coe.2 (List.perm_cons_erase hout)
      rw [hinv.books, liveBlocks_erase hlive, hfl, Multiset.cons_add] at hcons
      exact ((Multiset.cons_inj_right _).1 hcons).symm
    · show (fallback.outstanding (fallback.deallocate _ _ _)).Pairwise _
      rw [hdealloc]
      exact hinv.separated.sublist List.erase_sublist
    · intro b hb
      rw [show fallback.outstanding (fallback.deallocate s.allocator.fallback ptr layout) = _
        from hdealloc] at hb
      exact hinv.nonnull b (List.mem_of_mem_erase hb)

theorem Inv.of_exec (hspec : fallback.Spec) (hinv : Inv fallback s) {op : Op} {s' : KernelHeap H}
    {r : Nat} (h : exec fallback op s = some (.ok (s', r))) : Inv fallback s' := by
  cases op with
  | alloc layout =>
    obtain ⟨halloc, hlive⟩ := exec_alloc h
    have hinv' := hinv.alloc hspec halloc
    rw [← hlive] at hinv'
    exact hinv'
  | dealloc ptr layout =>
    obtain ⟨hlive, hd, hlive'⟩ := exec_dealloc h
    have hinv' := hinv.dealloc hspec hlive hd
    rw [← hlive'] at hinv'
    exact hinv'

end Step

theorem inv_init {fallback : FallbackHeap H} {heap : H} (hheap : fallback.outstanding heap = []) :
    Inv fallback ⟨FixedBlockAlloc.init heap, []⟩ where
  books := by simp [hheap, liveBlocks, freeBlocks, FixedBlockAlloc.init]
  separated := by simp [FixedBlockAlloc.init, hheap]
  nonnull := by simp [FixedBlockAlloc.init, hheap]
  aligned_live := by simp
  aligned_free := by simp [FixedBlockAlloc.init]
  beyond := fun _ _ => rfl

theorem Inv.of_reachable {fallback : FallbackHeap H} {heap : H} (hspec : fallback.Spec)
    (hheap : fallback.outstanding heap = []) {s : KernelHeap H} (hs : Reachable fallback heap s) :
    Inv fallback s :=
  LobsterOS.Reachable.invariant (Inv fallback) (inv_init hheap)
    (fun _ _ hinv ⟨_, _, h⟩ => hinv.of_exec hspec h) hs

/-! ### What the books give -/

/-- The bytes a live allocation holds. -/
def allocExtent (q : Nat × Layout) : Set Nat := Set.Ico q.1 (q.1+allocSize q.2)

theorem blockLayout_size {i : Nat} (hi : i < 9) : (blockLayout i).size = 2^(i+3) := by
  simp [blockLayout, Nat.min_eq_left (by omega : i ≤ 8)]

theorem blockLayout_align {i : Nat} (hi : i < 9) : (blockLayout i).align = 2^(i+3) :=
  blockLayout_size hi

theorem blockLayout_inj {i j : Nat} (hi : i < 9) (hj : j < 9) (h : blockLayout i = blockLayout j) :
    i = j := by
  have hsize := congrArg Layout.size h
  rw [blockLayout_size hi, blockLayout_size hj] at hsize
  have := Nat.pow_right_injective (le_refl 2) hsize
  omega

/-- A block stands for class `i` exactly when its layout has that class: a classless layout
is bigger than every class's block. -/
theorem fallbackLayout_eq_blockLayout {layout : Layout} {i : Nat} (hi : i < 9) :
    fallbackLayout layout = blockLayout i ↔ blockIndex layout = some i := by
  unfold fallbackLayout
  cases hb : blockIndex layout with
  | none =>
    refine ⟨fun h => ?_, fun h => nomatch h⟩
    have hbig := blockIndex_none hb
    have hle : 2^(min i 8+3) ≤ 2^11 := Nat.pow_le_pow_right (by decide) (by omega)
    rw [show layout = blockLayout i from h] at hbig
    simp only [blockLayout, max_self] at hbig
    omega
  | some j =>
    have hj := (blockIndex_some hb).1
    exact ⟨fun h => congrArg some (blockLayout_inj hj hi h), fun h => by cases h; rfl⟩

theorem countP_liveBlocks (P : Nat × Layout → Prop) [DecidablePred P] (live : List (Nat × Layout)) :
    (liveBlocks live).countP P = live.countP fun q => P (q.1, fallbackLayout q.2) := by
  rw [liveBlocks, Multiset.coe_countP, List.countP_map]
  rfl

/-- Counting free blocks by a property that only blocks of class `i` can have counts list `i`. -/
theorem countP_freeBlocks (a : FixedBlockAlloc H) {i : Nat} (hi : i < 9) (P : Nat × Layout → Prop)
    [DecidablePred P] (hP : ∀ j < 9, j ≠ i → ∀ p, ¬P (p, blockLayout j)) :
    (freeBlocks a).countP P = (a.listHeads i).countP fun p => P (p, blockLayout i) := by
  unfold freeBlocks
  rw [← Finset.add_sum_erase _ _ (Finset.mem_range.2 hi), Multiset.countP_add]
  have hrest : Multiset.countP P (∑ j ∈ (Finset.range 9).erase i,
      (↑((a.listHeads j).map fun p => (p, blockLayout j)) : Multiset (Nat × Layout))) = 0 := by
    refine Multiset.countP_eq_zero.2 fun b hb => ?_
    obtain ⟨j, hj, hb⟩ := Multiset.mem_sum.1 hb
    obtain ⟨p, -, rfl⟩ := List.mem_map.1 (Multiset.mem_coe.1 hb)
    exact hP j (Finset.mem_range.1 (Finset.mem_of_mem_erase hj)) (Finset.ne_of_mem_erase hj) p
  rw [hrest, Multiset.coe_countP, List.countP_map, add_zero]
  rfl

theorem freeBlocks_le (a : FixedBlockAlloc H) {i : Nat} (hi : i < 9) :
    ↑((a.listHeads i).map fun p => (p, blockLayout i)) ≤ freeBlocks a := by
  unfold freeBlocks
  rw [← Finset.add_sum_erase _ _ (Finset.mem_range.2 hi)]
  exact Multiset.le_add_right _ _

theorem map_fst_freeBlocks (a : FixedBlockAlloc H) :
    (freeBlocks a).map Prod.fst = ∑ j ∈ Finset.range 9, (↑(a.listHeads j) : Multiset Nat) := by
  unfold freeBlocks
  rw [← Multiset.coe_mapAddMonoidHom, map_sum]
  refine Finset.sum_congr rfl fun j _ => ?_
  simp [Function.comp_def]

section Books

variable {fallback : FallbackHeap H} {s : KernelHeap H}

/-- Two blocks the fallback keeps apart start at different addresses, and their first
`size` bytes do not meet. -/
theorem FallbackHeap.Spec.apart (hspec : fallback.Spec) {b c : Nat × Layout}
    (h : Disjoint (fallback.extent b) (fallback.extent c)) :
    b.1 ≠ c.1 ∧ Disjoint (Set.Ico b.1 (b.1+b.2.size)) (Set.Ico c.1 (c.1+c.2.size)) := by
  have hsub : ∀ d : Nat × Layout, Set.Ico d.1 (d.1+d.2.size) ⊆ fallback.extent d := fun d =>
    Set.Ico_subset_Ico_right (Nat.add_le_add_left (hspec.size_le_reserved d.2) _)
  have hstart : ∀ d : Nat × Layout, d.1 ∈ fallback.extent d := fun d =>
    Set.left_mem_Ico.2 (Nat.lt_add_of_pos_right (hspec.reserved_pos d.2))
  refine ⟨fun heq => ?_, h.mono (hsub b) (hsub c)⟩
  have hc := hstart c
  rw [← heq] at hc
  exact Set.disjoint_left.1 h (hstart b) hc

/-- Any part of the books is a part of the fallback's blocks, so its blocks are apart. -/
theorem Inv.pairwise_of_le (hinv : Inv fallback s) {l : List (Nat × Layout)}
    (hle : (↑l : Multiset (Nat × Layout)) ≤ liveBlocks s.live+freeBlocks s.allocator) :
    l.Pairwise fun b c => Disjoint (fallback.extent b) (fallback.extent c) := by
  rw [← hinv.books] at hle
  obtain ⟨l', hperm, hsub⟩ := Multiset.coe_le.1 hle
  exact (hinv.separated.sublist hsub).perm hperm fun h => h.symm

theorem Inv.live_apart (hspec : fallback.Spec) (hinv : Inv fallback s) :
    s.live.Pairwise fun q r => q.1 ≠ r.1 ∧ Disjoint (allocExtent q) (allocExtent r) := by
  have hpw := hinv.pairwise_of_le (l := s.live.map fun q => (q.1, fallbackLayout q.2))
    (Multiset.le_add_right _ _)
  rw [List.pairwise_map] at hpw
  refine hpw.imp fun h => ?_
  simpa only [allocExtent, allocSize_eq] using hspec.apart h

theorem Inv.free_apart (hspec : fallback.Spec) (hinv : Inv fallback s) {i : Nat} (hi : i < 9) :
    (s.allocator.listHeads i).Nodup ∧ ∀ p ∈ s.allocator.listHeads i, ∀ q ∈ s.live,
      p ≠ q.1 ∧ Disjoint (Set.Ico p (p+2^(i+3))) (allocExtent q) := by
  have hle : (↑(s.live.map (fun q => (q.1, fallbackLayout q.2)) ++
      (s.allocator.listHeads i).map fun p => (p, blockLayout i)) : Multiset (Nat × Layout)) ≤
      liveBlocks s.live+freeBlocks s.allocator := by
    rw [← Multiset.coe_add]
    exact add_le_add (le_refl _) (freeBlocks_le s.allocator hi)
  obtain ⟨-, hfree, hcross⟩ := List.pairwise_append.1 (hinv.pairwise_of_le hle)
  refine ⟨?_, fun p hp q hq => ?_⟩
  · rw [List.pairwise_map] at hfree
    exact hfree.imp fun h => (hspec.apart h).1
  · have h := hspec.apart (hcross _ (List.mem_map_of_mem hq) _ (List.mem_map_of_mem hp))
    rw [← allocSize_eq, blockLayout_size hi] at h
    exact ⟨h.1.symm, h.2.symm⟩

theorem Inv.nodup (hspec : fallback.Spec) (hinv : Inv fallback s) :
    ((fallback.outstanding s.allocator.fallback).map Prod.fst).Nodup :=
  List.Pairwise.map _ (fun _ _ h => (hspec.apart h).1) hinv.separated

theorem Inv.aligned (hinv : Inv fallback s) : ∀ q ∈ s.live, q.1%q.2.align = 0 := fun q hq =>
  Nat.mod_eq_zero_of_dvd (dvd_trans (align_dvd_fallbackLayout q.2)
    (Nat.dvd_of_mod_eq_zero (hinv.aligned_live q hq)))

/-- A block of class `i` the fallback has handed out is a live allocation of class `i` or a
node of list `i`, once. -/
theorem Inv.count_block (hspec : fallback.Spec) (hinv : Inv fallback s) {i p : Nat} (hi : i < 9)
    (hp : (p, blockLayout i) ∈ fallback.outstanding s.allocator.fallback) :
    s.live.countP (fun q => q.1 = p ∧ blockIndex q.2 = some i) + (s.allocator.listHeads i).count p = 1 := by
  have hnd := (hinv.nodup hspec).of_map
  have hP : ∀ j < 9, j ≠ i → ∀ p', ¬(p, blockLayout i) = (p', blockLayout j) := fun j hj hji p' h =>
    hji (blockLayout_inj hi hj (congrArg Prod.snd h)).symm
  have hone : (liveBlocks s.live+freeBlocks s.allocator).count (p, blockLayout i) = 1 := by
    rw [← hinv.books]
    exact Multiset.count_eq_one_of_mem (Multiset.coe_nodup.2 hnd) hp
  rw [Multiset.count_add] at hone
  unfold Multiset.count at hone
  rw [countP_liveBlocks, countP_freeBlocks s.allocator hi _ hP] at hone
  have hlive : s.live.countP (fun q => (p, blockLayout i) = (q.1, fallbackLayout q.2)) =
      s.live.countP (fun q => q.1 = p ∧ blockIndex q.2 = some i) :=
    List.countP_congr fun q _ => by
      simp only [decide_eq_true_eq, Prod.mk.injEq]
      rw [@eq_comm _ p, @eq_comm _ (blockLayout i), fallbackLayout_eq_blockLayout hi]
  have hfree : (s.allocator.listHeads i).countP (fun p' => (p, blockLayout i) = (p', blockLayout i)) =
      (s.allocator.listHeads i).count p := by
    rw [List.count_eq_countP]
    refine List.countP_congr fun p' _ => ?_
    simp only [decide_eq_true_eq, Prod.mk.injEq, and_true, beq_iff_eq]
    exact eq_comm
  omega

/-- An address the fallback has handed out is live or on a free list, once. -/
theorem Inv.count_addr (hspec : fallback.Spec) (hinv : Inv fallback s) {p : Nat}
    (hp : p ∈ (fallback.outstanding s.allocator.fallback).map Prod.fst) :
    (s.live.map Prod.fst).count p + ∑ j ∈ Finset.range 9, (s.allocator.listHeads j).count p = 1 := by
  have hone : ((liveBlocks s.live+freeBlocks s.allocator).map Prod.fst).count p = 1 := by
    rw [← hinv.books, Multiset.map_coe]
    exact Multiset.count_eq_one_of_mem (Multiset.coe_nodup.2 (hinv.nodup hspec)) hp
  rw [Multiset.map_add, Multiset.count_add, map_fst_freeBlocks, Multiset.count_sum'] at hone
  simpa [liveBlocks, Function.comp_def] using hone

/-- The class-`i` blocks the fallback has handed out are the nodes of list `i` and the live
allocations of class `i`. -/
theorem Inv.length_class (hinv : Inv fallback s) {i : Nat} (hi : i < 9) :
    ((fallback.outstanding s.allocator.fallback).filter (·.2 = blockLayout i)).length =
      (s.allocator.listHeads i).length + (s.live.filter (blockIndex ·.2 = some i)).length := by
  have hP : ∀ j < 9, j ≠ i → ∀ p : Nat, ¬(p, blockLayout j).2 = blockLayout i := fun j hj hji _ h =>
    hji (blockLayout_inj hj hi h)
  have h := congrArg (Multiset.countP (·.2 = blockLayout i)) hinv.books
  rw [Multiset.countP_add, countP_liveBlocks, countP_freeBlocks s.allocator hi _ hP,
    Multiset.coe_countP] at h
  rw [← List.countP_eq_length_filter, ← List.countP_eq_length_filter, h, add_comm]
  simp [fallbackLayout_eq_blockLayout hi]

end Books

/-- What every reachable state of the kernel heap guarantees its callers. -/
structure HeapSafe (fallback : FallbackHeap H) (s : KernelHeap H) : Prop where
  /-- A non-null pointer from `alloc` is aligned as asked and apart from every live allocation. -/
  alloc_apart : ∀ layout s' ptr, exec fallback (.alloc layout) s = some (.ok (s', ptr)) → ptr ≠ 0 →
    ptr%layout.align = 0 ∧ ∀ q ∈ s.live, ptr ≠ q.1 ∧ Disjoint (allocExtent (ptr, layout)) (allocExtent q)
  live_aligned : ∀ q ∈ s.live, q.1%q.2.align = 0
  live_apart : s.live.Pairwise fun q r => q.1 ≠ r.1 ∧ Disjoint (allocExtent q) (allocExtent r)
  free_nodup : ∀ i < 9, (s.allocator.listHeads i).Nodup
  free_aligned : ∀ i < 9, ∀ p ∈ s.allocator.listHeads i, p%2^(i+3) = 0
  free_apart : ∀ i < 9, ∀ p ∈ s.allocator.listHeads i, ∀ q ∈ s.live,
    p ≠ q.1 ∧ Disjoint (Set.Ico p (p+2^(i+3))) (allocExtent q)
  /-- A node of list `i` is a class-`i` block the fallback handed out. -/
  free_outstanding : ∀ i < 9, ∀ p ∈ s.allocator.listHeads i,
    (p, blockLayout i) ∈ fallback.outstanding s.allocator.fallback
  count_block : ∀ i < 9, ∀ p, (p, blockLayout i) ∈ fallback.outstanding s.allocator.fallback →
    s.live.countP (fun q => q.1 = p ∧ blockIndex q.2 = some i) + (s.allocator.listHeads i).count p = 1
  count_addr : ∀ p ∈ (fallback.outstanding s.allocator.fallback).map Prod.fst,
    (s.live.map Prod.fst).count p + ∑ j ∈ Finset.range 9, (s.allocator.listHeads j).count p = 1
  length_class : ∀ i < 9,
    ((fallback.outstanding s.allocator.fallback).filter (·.2 = blockLayout i)).length =
      (s.allocator.listHeads i).length + (s.live.filter (blockIndex ·.2 = some i)).length

theorem fixed_block_alloc_safe {fallback : FallbackHeap H} {heap : H} (hspec : fallback.Spec)
    (hheap : fallback.outstanding heap = []) {s : KernelHeap H} (hs : Reachable fallback heap s) :
    HeapSafe fallback s := by
  have hinv := Inv.of_reachable hspec hheap hs
  refine ⟨fun layout s' ptr h hptr => ?_, hinv.aligned, hinv.live_apart hspec,
    fun i hi => (hinv.free_apart hspec hi).1, fun i hi p hp => ?_,
    fun i hi => (hinv.free_apart hspec hi).2, fun i hi p hp => hinv.mem_outstanding_of_free hi hp,
    fun i hi p hp => hinv.count_block hspec hi hp, fun p hp => hinv.count_addr hspec hp,
    fun i hi => hinv.length_class hi⟩
  · -- the new allocation heads the live list of the next state, which keeps the books too
    obtain ⟨-, hlive⟩ := exec_alloc h
    rw [if_neg hptr] at hlive
    have hinv' := hinv.of_exec hspec h
    have hpw := hinv'.live_apart hspec
    rw [hlive, List.pairwise_cons] at hpw
    have hal := hinv'.aligned (ptr, layout) (by rw [hlive]; exact List.mem_cons_self)
    exact ⟨hal, hpw.1⟩
  · have hal := hinv.aligned_free i p hp
    rwa [blockLayout_align hi] at hal

/-- A fallback that puts each block past the end of every block it has out, at a multiple of
the alignment asked for. -/
def bumpHeap : FallbackHeap (List (Nat × Layout)) where
  allocateFirstFit out layout :=
    let ptr := (1+(out.map fun b => b.1+b.2.size+1).sum)*layout.align
    some (ptr, (ptr, layout) :: out)
  deallocate out ptr layout := out.erase (ptr, layout)
  outstanding out := out
  reserved layout := layout.size+1

theorem bumpHeap_spec : bumpHeap.Spec where
  reserved_pos _ := Nat.succ_pos _
  size_le_reserved _ := Nat.le_succ _
  allocate out layout ptr out' h := by
    simp only [bumpHeap, Option.some.injEq, Prod.mk.injEq] at h
    obtain ⟨rfl, rfl⟩ := h
    have hpos : 0 < layout.align := by
      obtain ⟨k, hk⟩ := layout.align_pow
      rw [hk]
      exact Nat.two_pow_pos k
    have htop := Nat.le_mul_of_pos_right (1+(out.map fun b => b.1+b.2.size+1).sum) hpos
    refine ⟨by omega, Nat.mul_mod_left _ _, rfl, fun b hb => Set.disjoint_left.2 fun x hx hx' => ?_⟩
    -- every block it has out ends below the new one
    have hend : b.1+b.2.size+1 ≤ (out.map fun b => b.1+b.2.size+1).sum :=
      List.le_sum_of_mem (List.mem_map_of_mem hb)
    simp only [FallbackHeap.extent, bumpHeap, Set.mem_Ico] at hx hx'
    omega
  deallocate _ _ _ _ := rfl

theorem fixed_block_alloc_safe_two_allocs_one_freed :
    HeapSafe bumpHeap ⟨⟨Function.update (fun _ => []) 1 [16], [(544, blockLayout 1), (16, blockLayout 1)]⟩,
      [(544, blockLayout 1)]⟩ := by
  have h1 : exec bumpHeap (.alloc (blockLayout 1)) ⟨FixedBlockAlloc.init [], []⟩ =
      some (.ok (⟨⟨fun _ => [], [(16, blockLayout 1)]⟩, [(16, blockLayout 1)]⟩, 16)) := rfl
  have h2 : exec bumpHeap (.alloc (blockLayout 1)) ⟨⟨fun _ => [], [(16, blockLayout 1)]⟩, [(16, blockLayout 1)]⟩ =
      some (.ok (⟨⟨fun _ => [], [(544, blockLayout 1), (16, blockLayout 1)]⟩,
        [(544, blockLayout 1), (16, blockLayout 1)]⟩, 544)) := rfl
  have h3 : exec bumpHeap (.dealloc 16 (blockLayout 1))
      ⟨⟨fun _ => [], [(544, blockLayout 1), (16, blockLayout 1)]⟩, [(544, blockLayout 1), (16, blockLayout 1)]⟩ =
      some (.ok (⟨⟨Function.update (fun _ => []) 1 [16], [(544, blockLayout 1), (16, blockLayout 1)]⟩,
        [(544, blockLayout 1)]⟩, 16)) := rfl
  exact fixed_block_alloc_safe bumpHeap_spec rfl
    (((Reachable.refl.tail ⟨_, _, h1⟩).tail ⟨_, _, h2⟩).tail ⟨_, _, h3⟩)

end LobsterOS.FixedBlock
