import LobsterOS.Paging
import LobsterOS.Elf

/-! `Process::spawn_from_file` of `process.rs`: `new_page_table`, `map_stack` and the ELF loader
through the new table. -/

namespace LobsterOS

open Paging

/-- The fields of `Process` that `spawn_from_file` fills. -/
structure Process where
  pageTableAddr : Nat
  entryOffset : Nat
  regions : List Nat

namespace Process

variable {A : Type} [FrameAllocator A]

/-- `USERSPACE_STACK_BASE`. -/
def userspaceStackBase : Nat := 0x800000

/-- `USERSPACE_STACK`. -/
def userspaceStack : Nat := 0x810000

/-- How `spawn_from_file` can stop without returning. -/
inductive Panic where
  /-- `Option::expect(msg)` on `None` -/
  | expect (msg : String)
  /-- `Option::unwrap()` on `None` -/
  | unwrapNone
  /-- `Result::unwrap()` on an error of `map_to` -/
  | unwrap (err : MapToError)
  /-- a panic of `map_elf_file_to_process` -/
  | elf (p : Elf.Panic)
  deriving DecidableEq, Repr

/-- `Process::new_page_table(current_page_table, frame_allocator, mapper)` with the new
`Box<PageTable>` at `box`; `none` where an `allocate_frame()?` returns early. -/
def newPageTable (mem : Nat → Nat) (current box : Nat) (a : A) : Option ((Nat → Nat) × A) :=
  -- `Box::new(PageTable::new())` and `page_table.zero()`
  let mem := zeroTable mem box
  match FrameAllocator.allocateFrame a with
  | (none, _) => none
  | (some frame, a) =>
    let mem := Function.update mem (slot box 0) (frame ||| (present ||| writable ||| userAccessible))
    let pageTable0 := entryAddr (mem (slot box 0))
    let currentTable0 := entryAddr (mem (slot current 0))
    let mem := copyEntries mem box current (List.range' 1 511)
    let mem := zeroTable mem pageTable0
    let mem := copyEntries mem pageTable0 currentTable0 (List.range' 1 511)
    -- the table for the VGA text buffer: only its entry 0 is written
    match FrameAllocator.allocateFrame a with
    | (none, _) => none
    | (some frame, a) =>
      let mem := Function.update mem (slot pageTable0 0) (frame ||| (present ||| writable))
      let pageTable00 := entryAddr (mem (slot pageTable0 0))
      let currentTable00 := entryAddr (mem (slot currentTable0 0))
      some (Function.update mem (slot pageTable00 0) (mem (slot currentTable00 0)), a)

/-- The pages of `Page::range_inclusive` from the page of `USERSPACE_STACK_BASE` to the page
of `USERSPACE_STACK`. -/
def stackPages : List Nat :=
  List.range' (Elf.containingPage userspaceStackBase)
    ((Elf.containingPage userspaceStack-Elf.containingPage userspaceStackBase)/0x1000+1) 0x1000

/-- One page of `map_stack`: `allocate_frame().unwrap()`, then `map_to(..).unwrap()`. -/
def mapStackPage (mapTo : MapTo A) (l4 : Nat) :
    (Nat → Nat) × A → Nat → Except Panic ((Nat → Nat) × A)
  | (mem, a), page =>
    match FrameAllocator.allocateFrame a with
    | (none, _) => .error .unwrapNone
    | (some frame, a) =>
      match mapTo mem l4 page frame Elf.userFlags a with
      | .error err => .error (.unwrap err)
      | .ok r => .ok r

def mapStack (mapTo : MapTo A) (mem : Nat → Nat) (l4 : Nat) (a : A) :
    Except Panic ((Nat → Nat) × A) :=
  stackPages.foldlM (mapStackPage mapTo l4) (mem, a)

/-- The process's `OffsetPageTable`, as the ELF loader maps pages through it. -/
def offsetPageTable (mapTo : MapTo A) : Elf.Mapper Tables A where
  mapTo t page frame flags a :=
    (mapTo t.mem t.l4 page frame flags a).map fun r => (⟨r.1, t.l4⟩, r.2)
  translate t va := Paging.translate t.mem t.l4 va

/-- A spawned process, with the memory, the allocator and the segment copies it leaves. -/
structure Spawned (A : Type) where
  process : Process
  mem : Nat → Nat
  frameAllocator : A
  writes : List (Nat × List UInt8)

/-- `Process::spawn_from_file(file, frame_allocator)`, with `map_to` of the `x86_64` crate as
`mapTo`; `none` where the loader reads past the end of the file. -/
def spawnFromFile (mapTo : MapTo A) (file : List UInt8) (mem : Nat → Nat) (current box : Nat)
    (a : A) : Option (Except Panic (Spawned A)) :=
  match newPageTable mem current box a with
  | none => some (.error (.expect "failed to create page table"))
  | some (mem, a) =>
    match mapStack mapTo mem box a with
    | .error p => some (.error p)
    | .ok (mem, a) =>
      (Elf.mapElfFileToProcess (offsetPageTable mapTo) file ⟨mem, box⟩ a).map fun
        | .error p => .error (.elf p)
        | .ok loaded =>
          .ok ⟨⟨box, loaded.entry, loaded.frames⟩, loaded.pageTable.mem, loaded.frameAllocator,
            loaded.writes⟩

end Process

end LobsterOS
