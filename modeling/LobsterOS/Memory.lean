import LobsterOS.Loop

/-! The physical frame allocators of `memory.rs`, the kernel heap set-up of `allocator.rs` and
the heap's answer to an allocation. -/

namespace LobsterOS

/-- The size of a 4 KiB page and frame. -/
def pageSize : Nat := 4096

/-- `PhysFrame::containing_address`: the frame an address lies in. -/
def containingFrame (addr : Nat) : Nat := addr/pageSize*pageSize

/-- `MemoryRegionType` of bootloader 0.9. -/
inductive MemoryRegionType where
  | Usable
  | InUse
  | Reserved
  | AcpiReclaimable
  | AcpiNvs
  | BadMemory
  | Kernel
  | KernelStack
  | PageTable
  | Bootloader
  | FrameZero
  | Empty
  | BootInfo
  | Package
  | Unknown (code : Nat)
  deriving DecidableEq, Repr

/-- `FrameRange` of bootloader 0.9: the frames `start_frame_number..end_frame_number`. -/
structure FrameRange where
  startFrameNumber : Nat
  endFrameNumber : Nat
  deriving DecidableEq, Repr

def FrameRange.startAddr (r : FrameRange) : Nat := r.startFrameNumber*pageSize

def FrameRange.endAddr (r : FrameRange) : Nat := r.endFrameNumber*pageSize

structure MemoryRegion where
  range : FrameRange
  regionType : MemoryRegionType
  deriving DecidableEq, Repr

/-- `(start..end).step_by(4096)`: every page-size step from `start` below `end`. -/
def stepByPage (start stop : Nat) : List Nat :=
  List.range' start ((stop-start+pageSize-1)/pageSize) pageSize

/-- The iterator both allocators build: the usable regions in map order, each walked a page
at a time, every address taken to the frame containing it. -/
def usableFrames (memoryMap : List MemoryRegion) : List Nat :=
  ((memoryMap.filter fun r => r.regionType = .Usable).flatMap fun r =>
    stepByPage r.range.startAddr r.range.endAddr).map containingFrame

/-- The `FrameAllocator<Size4KiB>` trait: hand out a frame, or none. -/
class FrameAllocator (A : Type) where
  allocateFrame : A → Option Nat × A

/-- The frames `k` successive `allocate_frame` calls return, and the allocator after them. -/
def allocateFrames {A : Type} [FrameAllocator A] : Nat → A → List (Option Nat) × A
  | 0, a => ([], a)
  | k+1, a =>
    let (f, a) := FrameAllocator.allocateFrame a
    let (fs, a) := allocateFrames k a
    (f :: fs, a)

structure LinearFrameAllocator where
  memoryMap : List MemoryRegion
  next : Nat
  deriving DecidableEq, Repr

namespace LinearFrameAllocator

def init (memoryMap : List MemoryRegion) : LinearFrameAllocator := ⟨memoryMap, 0⟩

def usableFrames (a : LinearFrameAllocator) : List Nat := LobsterOS.usableFrames a.memoryMap

def getUsed (a : LinearFrameAllocator) : Nat := a.next

/-- `self.next += 1; self.usable_frames().nth(self.next)`. -/
def allocateFrame (a : LinearFrameAllocator) : Option Nat × LinearFrameAllocator :=
  let a := { a with next := a.next+1 }
  (a.usableFrames[a.next]?, a)

instance : FrameAllocator LinearFrameAllocator := ⟨allocateFrame⟩

end LinearFrameAllocator

/-- The buddy allocator keeps the boxed iterator of its remaining frames. -/
structure BuddyAllocator where
  memoryMap : List MemoryRegion
  frameIter : List Nat
  deriving DecidableEq, Repr

namespace BuddyAllocator

def usableFrames (memoryMap : List MemoryRegion) : List Nat := LobsterOS.usableFrames memoryMap

/-- `init(memory_map, used)`: the usable frames with the first `used` skipped. -/
def init (memoryMap : List MemoryRegion) (used : Nat) : BuddyAllocator :=
  ⟨memoryMap, (usableFrames memoryMap).drop used⟩

def allocateFrame (b : BuddyAllocator) : Option Nat × BuddyAllocator :=
  match b.frameIter with
  | [] => (none, b)
  | f :: fs => (some f, { b with frameIter := fs })

instance : FrameAllocator BuddyAllocator := ⟨allocateFrame⟩

end BuddyAllocator

/-- `MapToError` of the `x86_64` crate. -/
inductive MapToError where
  | FrameAllocationFailed
  | ParentEntryHugePage
  | PageAlreadyMapped (frame : Nat)
  deriving DecidableEq, Repr

/-- `HEAP_SIZE`. -/
def heapSize : Nat := 0x100*0x1000

/-- What the global allocator answers a request for `size` bytes: whether it hands out a
block. Every block lies in the heap, so none is larger than `HEAP_SIZE`. -/
structure HeapRoom where
  fits : Nat → Bool
  le_heapSize : ∀ size, fits size = true → size ≤ heapSize

/-- Whether an allocation of `size` bytes comes back; one of no bytes takes nothing from the
heap. -/
def HeapRoom.grants (heap : HeapRoom) (size : Nat) : Bool := size == 0 || heap.fits size

/-- The panic of `handle_alloc_error(layout)`: the kernel sets no `alloc_error_handler`. -/
def allocError (size : Nat) : String := "memory allocation of " ++ toString size ++ " bytes failed"

/-- An allocation of `size` bytes: the block comes back, or `handle_alloc_error` panics. -/
def HeapRoom.allocate {ε : Type} [PanicMsg ε] (heap : HeapRoom) (size : Nat) : Except ε Unit :=
  if heap.grants size then .ok () else .error (PanicMsg.panic (allocError size))

theorem HeapRoom.allocate_of_grants {ε : Type} [PanicMsg ε] {heap : HeapRoom} {size : Nat}
    (h : heap.grants size = true) : (heap.allocate size : Except ε Unit) = .ok () := if_pos h

theorem HeapRoom.allocate_of_not_grants {ε : Type} [PanicMsg ε] {heap : HeapRoom} {size : Nat}
    (h : heap.grants size = false) :
    (heap.allocate size : Except ε Unit) = .error (PanicMsg.panic (allocError size)) :=
  if_neg (by simp [h])

/-- A heap that hands out every block of at most `room` bytes. -/
def HeapRoom.upTo (room : Nat) (h : room ≤ heapSize) : HeapRoom :=
  ⟨fun size => decide (size ≤ room), fun _ hs => (of_decide_eq_true hs).trans h⟩

/-- No heap hands out more than `HEAP_SIZE` bytes at once. -/
theorem HeapRoom.grants_eq_false (heap : HeapRoom) {size : Nat} (h : heapSize < size) :
    heap.grants size = false := by
  have hfits : heap.fits size = false := by
    by_contra hf
    exact absurd (heap.le_heapSize size (by simpa using hf)) (by omega)
  simp [HeapRoom.grants, hfits, show size ≠ 0 by omega]

theorem linear_allocateFrames (a : LinearFrameAllocator) (k : Nat) :
    allocateFrames k a =
      ((List.range k).map fun i => (usableFrames a.memoryMap)[a.next+1+i]?,
        { a with next := a.next+k }) := by
  induction k generalizing a with
  | zero => rfl
  | succ k ih =>
    have hstep : FrameAllocator.allocateFrame a =
        ((usableFrames a.memoryMap)[a.next+1]?, { a with next := a.next+1 }) := rfl
    simp only [allocateFrames, hstep, ih, List.range_succ_eq_map, List.map_cons, List.map_map]
    refine Prod.ext ?_ ?_
    · simp only [Nat.add_zero, List.cons.injEq, true_and]
      apply List.map_congr_left
      intro i _
      simp only [Function.comp_apply]
      congr 1
      omega
    · simp only [LinearFrameAllocator.mk.injEq, true_and]
      omega

theorem buddy_allocateFrames (b : BuddyAllocator) (j : Nat) :
    allocateFrames j b =
      ((List.range j).map fun i => b.frameIter[i]?, { b with frameIter := b.frameIter.drop j }) := by
  induction j generalizing b with
  | zero => rfl
  | succ j ih =>
    obtain ⟨m, fs⟩ := b
    cases fs with
    | nil =>
      have hstep : FrameAllocator.allocateFrame (⟨m, []⟩ : BuddyAllocator) = (none, ⟨m, []⟩) := rfl
      simp [allocateFrames, hstep, ih, List.range_succ_eq_map, Function.comp_def]
    | cons f fs =>
      have hstep : FrameAllocator.allocateFrame (⟨m, f :: fs⟩ : BuddyAllocator) =
          (some f, ⟨m, fs⟩) := rfl
      simp [allocateFrames, hstep, ih, List.range_succ_eq_map]

/-- The linear allocator's `k`-th call takes usable frame `k` (its counter moves before it
indexes), and `skip(get_used())` starts the buddy allocator at that same frame. -/
theorem buddy_first_frame_is_linear_last (memoryMap : List MemoryRegion) (k : Nat) :
    (allocateFrames (k+1) (LinearFrameAllocator.init memoryMap)).1.getLast? =
      some (usableFrames memoryMap)[k+1]? ∧
    (allocateFrames 1 (BuddyAllocator.init memoryMap
      (allocateFrames (k+1) (LinearFrameAllocator.init memoryMap)).2.getUsed)).1 =
      [(usableFrames memoryMap)[k+1]?] := by
  refine ⟨?_, ?_⟩
  · rw [linear_allocateFrames, List.range_succ, List.map_append, List.getLast?_append]
    simp [LinearFrameAllocator.init, Nat.add_comm]
  · rw [linear_allocateFrames, buddy_allocateFrames]
    simp [LinearFrameAllocator.init, LinearFrameAllocator.getUsed, BuddyAllocator.init,
      BuddyAllocator.usableFrames]

section InitHeap

variable {M : Type}
  (mapTo : M → Nat → Nat → LinearFrameAllocator → Except MapToError (M × LinearFrameAllocator))

variable {mapTo}

end InitHeap

/-- A memory map with one usable region, frames `0x100000..0x400000`, and a boot in which
`init_heap` takes 259 frames (256 heap pages and three new page tables): the last frame the
linear allocator hands out, `0x203000`, is the first one the buddy allocator hands out. -/
theorem heap_frame_handed_out_twice :
    (allocateFrames 259 (LinearFrameAllocator.init [⟨⟨0x100, 0x400⟩, .Usable⟩])).1.getLast? =
      some (some 0x203000) ∧
    (allocateFrames 1 (BuddyAllocator.init [⟨⟨0x100, 0x400⟩, .Usable⟩]
      (allocateFrames 259 (LinearFrameAllocator.init [⟨⟨0x100, 0x400⟩, .Usable⟩])).2.getUsed)).1 =
      [some 0x203000] := by
  obtain ⟨h₁, h₂⟩ := buddy_first_frame_is_linear_last [⟨⟨0x100, 0x400⟩, .Usable⟩] 258
  have hf : (usableFrames [⟨⟨0x100, 0x400⟩, .Usable⟩])[259]? = some 0x203000 := by
    simp [usableFrames, stepByPage, FrameRange.startAddr, FrameRange.endAddr, pageSize,
      containingFrame]
  rw [hf] at h₁ h₂
  exact ⟨h₁, h₂⟩

end LobsterOS
