import LobsterOS.Loop

/-! The fixed-size-block heap allocator of `allocator/fixed_block.rs` over any fallback heap,
one step per `GlobalAlloc` call. -/

namespace LobsterOS.FixedBlock

/-- `core::alloc::Layout`: the alignment is a power of two and the size, rounded up to it,
fits in an `isize`. -/
structure Layout where
  size : Nat
  align : Nat
  align_pow : ∃ k, align = 2^k
  size_le : size ≤ 2^63-align

@[ext] theorem Layout.ext {l l' : Layout} (hs : l.size = l'.size) (ha : l.align = l'.align) :
    l = l' := by
  cases l
  cases l'
  cases hs
  cases ha
  rfl

instance : DecidableEq Layout := fun l l' =>
  decidable_of_iff (l.size = l'.size ∧ l.align = l'.align)
    ⟨fun h => Layout.ext h.1 h.2, fun h => h ▸ ⟨rfl, rfl⟩⟩

/-- `Layout::from_size_align`: `usize` powers of two only. -/
def Layout.fromSizeAlign (size align : Nat) : Option Layout :=
  if h : align ∈ (List.range 64).map (2^·) ∧ size ≤ 2^63-align then
    some ⟨size, align, (List.mem_map.1 h.1).elim fun k hk => ⟨k, hk.2.symm⟩, h.2⟩
  else none

/-- `BLOCK_SIZES`. -/
def blockSizes : List Nat := [8, 16, 32, 64, 128, 256, 512, 1024, 2048]

/-- `size_of::<ListNode>()` and `align_of::<ListNode>()`: one pointer. -/
def listNodeSize : Nat := 8

def listNodeAlign : Nat := 8

/-- `block_index`: the first size class that holds both the size and the alignment. -/
def blockIndex (layout : Layout) : Option Nat :=
  blockSizes.findIdx? fun blockSize => max layout.size layout.align ≤ blockSize

/-- What `FixedBlockAlloc` uses of `linked_list_allocator::Heap`: `allocate_first_fit`
(`none` for its error), `deallocate`, the blocks it has handed out and not taken back (with
the layouts they were asked for), and the bytes a block of a layout takes up. -/
structure FallbackHeap (H : Type) where
  allocateFirstFit : H → Layout → Option (Nat × H)
  deallocate : H → Nat → Layout → H
  outstanding : H → List (Nat × Layout)
  reserved : Layout → Nat

structure FixedBlockAlloc (H : Type) where
  listHeads : Nat → List Nat
  fallback : H

variable {H : Type}

namespace FixedBlockAlloc

/-- `FixedBlockAlloc::new()` followed by `init`, which leaves the fallback as `heap`. -/
def init (heap : H) : FixedBlockAlloc H := ⟨fun _ => [], heap⟩

/-- `fallback_alloc`: a block of the fallback, or null. -/
def fallbackAlloc (fallback : FallbackHeap H) (layout : Layout) (a : FixedBlockAlloc H) :
    Nat × FixedBlockAlloc H :=
  match fallback.allocateFirstFit a.fallback layout with
  | some (ptr, heap) => (ptr, { a with fallback := heap })
  | none => (0, a)

def alloc (fallback : FallbackHeap H) (layout : Layout) (a : FixedBlockAlloc H) :
    Except String (Nat × FixedBlockAlloc H) :=
  match blockIndex layout with
  | some index =>
    match a.listHeads index with
    | node :: next => .ok (node, { a with listHeads := Function.update a.listHeads index next })
    | [] =>
      match blockSizes[index]? with
      | none => .error "index out of bounds"
      | some blockSize =>
        match Layout.fromSizeAlign blockSize blockSize with
        | none => .error "called `Result::unwrap()` on an `Err` value: LayoutError"
        | some layout => .ok (fallbackAlloc fallback layout a)
  | none => .ok (fallbackAlloc fallback layout a)

def dealloc (fallback : FallbackHeap H) (ptr : Nat) (layout : Layout) (a : FixedBlockAlloc H) :
    Except String (FixedBlockAlloc H) :=
  match blockIndex layout with
  | some index =>
    match blockSizes[index]? with
    | none => .error "index out of bounds"
    | some blockSize =>
      if ¬listNodeSize ≤ blockSize then
        .error "assertion failed: mem::size_of::<ListNode>() <= BLOCK_SIZES[index]"
      else if ¬listNodeAlign ≤ blockSize then
        .error "assertion failed: mem::align_of::<ListNode>() <= BLOCK_SIZES[index]"
      -- the node is written into the freed block and becomes the head of its list
      else .ok { a with listHeads := Function.update a.listHeads index (ptr :: a.listHeads index) }
  | none =>
    if ptr = 0 then .error "called `Option::unwrap()` on a `None` value"
    else .ok { a with fallback := fallback.deallocate a.fallback ptr layout }

end FixedBlockAlloc

/-- The allocator and the allocations its callers hold. -/
structure KernelHeap (H : Type) where
  allocator : FixedBlockAlloc H
  live : List (Nat × Layout)

inductive Op where
  | alloc (layout : Layout)
  | dealloc (ptr : Nat) (layout : Layout)

/-- One call of `GlobalAlloc`, as its contract allows callers to make it: `dealloc` only of a
live allocation, with the layout it was allocated with. A non-null pointer from `alloc` is
live until it is given back. -/
def exec (fallback : FallbackHeap H) : Op → KernelHeap H → Option (Except String (KernelHeap H × Nat))
  | .alloc layout, s =>
    some ((s.allocator.alloc fallback layout).map fun (ptr, a) =>
      (⟨a, if ptr = 0 then s.live else (ptr, layout) :: s.live⟩, ptr))
  | .dealloc ptr layout, s =>
    if (ptr, layout) ∈ s.live then
      some ((s.allocator.dealloc fallback ptr layout).map fun a => (⟨a, s.live.erase (ptr, layout)⟩, ptr))
    else none

/-- Reachable from the initialized allocator by calls that came back. -/
def Reachable (fallback : FallbackHeap H) (heap : H) (s : KernelHeap H) : Prop :=
  LobsterOS.Reachable (fun s s' => ∃ op r, exec fallback op s = some (.ok (s', r)))
    ⟨FixedBlockAlloc.init heap, []⟩ s

end LobsterOS.FixedBlock
