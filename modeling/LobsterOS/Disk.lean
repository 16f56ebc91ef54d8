import Mathlib

/-! The command-slot search `find_command_slot` of `disk.rs`, over the HBA's `u32` registers. -/

namespace LobsterOS.Disk

/-- How `find_command_slot` can stop: the overflow check of a `u32` shift. -/
inductive Panic where
  | panic (msg : String)
  deriving DecidableEq, Repr

/-- The loop of `find_command_slot` over the slots `is` still to look at. -/
def scanSlots (slots : UInt32) : List Nat → Except Panic (Option Nat)
  | [] => .ok none
  | i :: is =>
    if 32 ≤ i then .error (.panic "attempt to shift right with overflow")
    else if (slots >>> i.toUInt32) &&& 0b1 = 0 then .ok (some i)
    else scanSlots slots is

/-- The loop's count, `(host_capability >> 8) & 0xF0`. -/
def scannedSlots (hostCapability : UInt32) : Nat := ((hostCapability >>> 8) &&& 0xF0).toNat

/-- `find_command_slot(ahci_port)`. -/
def findCommandSlot (hostCapability sataActive commandIssue : UInt32) : Except Panic (Option Nat) :=
  let slots := sataActive ||| commandIssue
  scanSlots slots (List.range (scannedSlots hostCapability))

/-! ### What the loop returns -/

/-- The loop's test of slot `i` is its bit of `slots`, below 32. -/
theorem shiftRight_and_one_eq_zero {slots : UInt32} {i : Nat} (hi : i < 32) :
    (slots >>> i.toUInt32) &&& 0b1 = 0 ↔ slots.toNat.testBit i = false := by
  rw [← UInt32.toNat_inj]
  simp [UInt32.toNat_and, UInt32.toNat_shiftRight, Nat.testBit, Nat.mod_eq_of_lt hi]

/-- The loop stops at the first slot that is free or at 32, and panics there if it is 32. -/
theorem scanSlots_eq_find? (slots : UInt32) (is : List Nat) :
    scanSlots slots is =
      match is.find? (fun i => decide (32 ≤ i) || !slots.toNat.testBit i) with
      | none => .ok none
      | some i => if 32 ≤ i then .error (.panic "attempt to shift right with overflow") else .ok (some i) := by
  induction is with
  | nil => rfl
  | cons i is ih =>
    rw [scanSlots, List.find?_cons]
    by_cases h32 : 32 ≤ i
    · simp [h32]
    · -- below 32 the shift is the bit test
      have htest : (slots >>> i.toUInt32) &&& 0b1 = 0 ↔ slots.toNat.testBit i = false :=
        shiftRight_and_one_eq_zero (Nat.lt_of_not_le h32)
      by_cases hfree : slots.toNat.testBit i = false
      · simp [h32, htest, hfree]
      · simp only [Bool.not_eq_false] at hfree
        simp only [h32, if_false, htest, hfree, decide_false, Bool.false_or, Bool.not_true]
        exact ih

section Behaviour

variable {hostCapability sataActive commandIssue : UInt32}

/-- A busy slot below 32 does not stop the loop. -/
theorem scan_passes_busy {slots : UInt32} {j : Nat} (h32 : j < 32)
    (hbusy : slots.toNat.testBit j = true) :
    (!(decide (32 ≤ j) || !slots.toNat.testBit j)) = true := by
  simp only [hbusy, decide_eq_false (Nat.not_le.2 h32), Bool.not_true, Bool.or_false, Bool.not_false]

/-- A free slot below 32 and below the loop's count, after busy ones only, is returned. -/
theorem findCommandSlot_of_free {i : Nat} (hi : i < scannedSlots hostCapability) (h32 : i < 32)
    (hfree : (sataActive ||| commandIssue).toNat.testBit i = false)
    (hbusy : ∀ j < i, (sataActive ||| commandIssue).toNat.testBit j = true) :
    findCommandSlot hostCapability sataActive commandIssue = .ok (some i) := by
  have hfind : (List.range (scannedSlots hostCapability)).find?
      (fun i => decide (32 ≤ i) || !(sataActive ||| commandIssue).toNat.testBit i) = some i := by
    refine List.find?_range_eq_some.2 ⟨by simp only [hfree, Bool.not_false, Bool.or_true],
      List.mem_range.2 hi, fun j hj => scan_passes_busy (by omega) (hbusy j hj)⟩
  simp only [findCommandSlot, scanSlots_eq_find?, hfind, Nat.not_le.2 h32, if_false]

/-- With every slot the loop looks at busy, and no more than 32 of them, none is returned. -/
theorem findCommandSlot_of_busy (hn : scannedSlots hostCapability ≤ 32)
    (hbusy : ∀ j < scannedSlots hostCapability, (sataActive ||| commandIssue).toNat.testBit j = true) :
    findCommandSlot hostCapability sataActive commandIssue = .ok none := by
  have hfind : (List.range (scannedSlots hostCapability)).find?
      (fun i => decide (32 ≤ i) || !(sataActive ||| commandIssue).toNat.testBit i) = none := by
    exact List.find?_range_eq_none.2 fun j hj => scan_passes_busy (by omega) (hbusy j hj)
  simp only [findCommandSlot, scanSlots_eq_find?, hfind]

/-- With all 32 slots busy and a count past 32, the loop shifts by 32 and panics. -/
theorem findCommandSlot_of_all_busy (hn : 32 < scannedSlots hostCapability)
    (hbusy : ∀ j < 32, (sataActive ||| commandIssue).toNat.testBit j = true) :
    findCommandSlot hostCapability sataActive commandIssue =
      .error (.panic "attempt to shift right with overflow") := by
  have hfind : (List.range (scannedSlots hostCapability)).find?
      (fun i => decide (32 ≤ i) || !(sataActive ||| commandIssue).toNat.testBit i) = some 32 := by
    exact List.find?_range_eq_some.2 ⟨by simp, List.mem_range.2 hn,
      fun j hj => scan_passes_busy hj (hbusy j hj)⟩
  simp only [findCommandSlot, scanSlots_eq_find?, hfind, Nat.le_refl, if_true]

/-- A slot that is returned is below 32 and below the loop's count, free, and the first free
one: `read_sectors` and `write_sectors` can index their 32-entry vectors with it. -/
theorem findCommandSlot_eq_some {i : Nat}
    (h : findCommandSlot hostCapability sataActive commandIssue = .ok (some i)) :
    i < 32 ∧ i < scannedSlots hostCapability ∧
      (sataActive ||| commandIssue).toNat.testBit i = false ∧
      ∀ j < i, (sataActive ||| commandIssue).toNat.testBit j = true := by
  simp only [findCommandSlot, scanSlots_eq_find?] at h
  split at h
  · cases h
  rename_i k hfind
  split at h
  · cases h
  rename_i h32
  cases h
  obtain ⟨hp, hmem, hbefore⟩ := List.find?_range_eq_some.1 hfind
  refine ⟨Nat.lt_of_not_le h32, List.mem_range.1 hmem, ?_, fun j hj => ?_⟩
  · simpa only [decide_eq_false h32, Bool.false_or, Bool.not_eq_true'] using hp
  · have h := hbefore j hj
    simpa only [decide_eq_false (show ¬ 32 ≤ j by omega), Bool.false_or, Bool.not_not] using h

end Behaviour

/-! ### Against the command slots the HBA reports -/

/-- `CAP.NCS + 1`: the number of command slots, 1 to 32. -/
def commandSlots (hostCapability : UInt32) : Nat := ((hostCapability >>> 8) &&& 0x1F).toNat + 1

/-- The least command slot whose bit of `slots` is clear, if there is one. -/
def freeSlot (hostCapability slots : UInt32) : Option Nat :=
  (List.range (commandSlots hostCapability)).find? fun i => !slots.toNat.testBit i

theorem commandSlots_le (hostCapability : UInt32) : commandSlots hostCapability ≤ 32 := by
  have h : ((hostCapability >>> 8).toNat &&& 0x1F) ≤ 0x1F := Nat.and_le_right
  simp only [commandSlots, UInt32.toNat_and]
  simp only [UInt32.reduceToNat] at h ⊢
  omega

theorem freeSlot_of_free {hostCapability slots : UInt32} {i : Nat} (hi : i < commandSlots hostCapability)
    (hfree : slots.toNat.testBit i = false) (hbusy : ∀ j < i, slots.toNat.testBit j = true) :
    freeSlot hostCapability slots = some i :=
  List.find?_range_eq_some.2 ⟨by simp [hfree], List.mem_range.2 hi, fun j hj => by simp [hbusy j hj]⟩

theorem freeSlot_of_busy {hostCapability slots : UInt32}
    (hbusy : ∀ j < commandSlots hostCapability, slots.toNat.testBit j = true) :
    freeSlot hostCapability slots = none :=
  List.find?_range_eq_none.2 fun j hj => by simp [hbusy j hj]

/-- A bitwise and with a mask below 256 reads only the low byte. -/
theorem and_eq_mod_and (y m : Nat) (hm : m < 256) : y &&& m = (y % 256) &&& m := by
  have h := @Nat.and_mod_two_pow y m 8
  rw [Nat.mod_eq_of_lt (Nat.lt_of_le_of_lt Nat.and_le_right hm), Nat.mod_eq_of_lt hm] at h
  exact h

/-- The loop's count is never the number of command slots: it is a multiple of 16, and the
two that are numbers of slots, 16 and 32, would need bit 12 both clear and set. -/
theorem scannedSlots_ne_commandSlots (hostCapability : UInt32) :
    scannedSlots hostCapability ≠ commandSlots hostCapability := by
  simp only [scannedSlots, commandSlots, UInt32.toNat_and, UInt32.reduceToNat]
  rw [and_eq_mod_and _ 0xF0 (by decide), and_eq_mod_and _ 0x1F (by decide)]
  -- both read only the low byte of `host_capability >> 8`
  have hbyte : ∀ z < 256, (z &&& 0xF0) ≠ (z &&& 0x1F)+1 := by decide +kernel
  exact hbyte _ (Nat.mod_lt _ (by decide))

/-- The register value with the slots below `k` busy, for `k ≤ 32`. -/
theorem testBit_low_ones {k : Nat} (hk : k ≤ 32) (j : Nat) :
    ((2^k-1 : Nat).toUInt32 ||| 0).toNat.testBit j = decide (j < k) := by
  have hlt : 2^k-1 < 2^32 := by
    have := Nat.pow_le_pow_right (by decide : 0 < 2) hk
    omega
  rw [UInt32.or_zero, Nat.toUInt32_eq, UInt32.toNat_ofNat', Nat.mod_eq_of_lt hlt,
    Nat.testBit_two_pow_sub_one]

/-- Whatever `host_capability` holds, some state of the port's slots makes `find_command_slot`
return other than the least free command slot. Where the loop stops before the last command
slot, the slots below its count are busy and the next is free; where it goes past the last
one, the command slots are busy, and the loop returns the slot after them or panics on its
33rd shift. -/
theorem find_command_slot_differs_from_free_slot (hostCapability : UInt32) :
    ∃ sataActive commandIssue, findCommandSlot hostCapability sataActive commandIssue ≠
      .ok (freeSlot hostCapability (sataActive ||| commandIssue)) := by
  have hle := commandSlots_le hostCapability
  rcases Nat.lt_or_gt_of_ne (scannedSlots_ne_commandSlots hostCapability) with hlt | hgt
  · -- the loop stops before slot `scannedSlots`, the first free one
    have hbits := testBit_low_ones (k := scannedSlots hostCapability) (by omega)
    refine ⟨(2^scannedSlots hostCapability-1 : Nat).toUInt32, 0, ?_⟩
    rw [findCommandSlot_of_busy (by omega) (fun j hj => by rw [hbits, decide_eq_true hj]),
      freeSlot_of_free hlt (by rw [hbits, decide_eq_false (Nat.lt_irrefl _)])
        (fun j hj => by rw [hbits, decide_eq_true hj])]
    simp
  · -- every command slot is busy, and the loop goes on past them
    have hbits := testBit_low_ones hle
    refine ⟨(2^commandSlots hostCapability-1 : Nat).toUInt32, 0, ?_⟩
    rw [freeSlot_of_busy (fun j hj => by rw [hbits, decide_eq_true hj])]
    by_cases h32 : commandSlots hostCapability < 32
    · -- slot `commandSlots` is free and below 32
      rw [findCommandSlot_of_free hgt h32 (by rw [hbits, decide_eq_false (Nat.lt_irrefl _)])
        (fun j hj => by rw [hbits, decide_eq_true hj])]
      simp
    · rw [findCommandSlot_of_all_busy (by omega) (fun j hj => by rw [hbits, decide_eq_true (by omega)])]
      simp

/-- A `CAP.NCS` of 31, as QEMU reports, gives a loop over 16 slots: with those busy no slot
is found, where slot 16 is free. -/
example : findCommandSlot 0x1F00 0xFFFF 0 = .ok none ∧ freeSlot 0x1F00 (0xFFFF ||| 0) = some 16 := by
  decide

end LobsterOS.Disk
