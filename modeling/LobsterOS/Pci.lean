import LobsterOS.Loop

/-! The PCI scan of `pci.rs`: `enumerate_bus`, `check_device`, `check_function` and
`DeviceType::from` over the configuration spaces of the ECAM. -/

namespace LobsterOS.Pci

/-- How `enumerate_bus` can stop: `panic!` or an overflow check, with its message. -/
inductive Panic where
  | panic (msg : String)
  deriving DecidableEq, Repr

instance : PanicMsg Panic := ⟨.panic⟩

@[simp] theorem panicMsg_panic (msg : String) : (PanicMsg.panic msg : Panic) = .panic msg := rfl

/-- The fields of `MCFGEntry` the scan reads. -/
structure MCFGEntry where
  configSpace : UInt64
  startBus : UInt8
  endBus : UInt8
  deriving DecidableEq, Repr

/-- The fields of `BaseConfigurationSpace` the scan reads; `DeviceConfigurationSpace` has them
at the same offsets. -/
structure BaseConfigurationSpace where
  vendorId : UInt16
  headerType : UInt8
  deriving DecidableEq, Repr

/-- `DeviceType`: a general device carries its configuration space. -/
inductive DeviceType where
  | device (configSpace : Nat)
  | pciBridge
  | cardBusBridge
  deriving DecidableEq, Repr

/-- `DeviceType::from(addr)`, over the ECAM `mem`. -/
def DeviceType.from (mem : Nat → BaseConfigurationSpace) (addr : Nat) :
    Except Panic (Option DeviceType) :=
  let headerType := (mem addr).headerType
  if headerType &&& 0x7F = 0x0 then .ok (some (.device addr))
  else if headerType &&& 0x7F = 0x1 then .ok (some .pciBridge)
  else if headerType &&& 0x7F = 0x2 then .ok (some .cardBusBridge)
  else if headerType &&& 0x7F = 0x7F then .ok none
  else .error (.panic ("Invalid header type detected: " ++ toString headerType))

/-- `DeviceType::as_device()`. -/
def DeviceType.asDevice : DeviceType → Option Nat
  | .device configSpace => some configSpace
  | _ => none

/-- `(bus << 20) | (device << 15) | (function << 12)`. -/
def functionOffset (bus device function : Nat) : Nat :=
  bus <<< 20 ||| device <<< 15 ||| function <<< 12

/-- `phys_offset + bridge.config_space + (..)`: the address of a function's configuration
space. -/
def configAddr (physOffset : UInt64) (bridge : MCFGEntry) (bus device function : Nat) :
    Except Panic Nat := do
  let base ← checkedAdd 64 physOffset.toNat bridge.configSpace.toNat
  checkedAdd 64 base (functionOffset bus device function)

/-- `check_function(devices, config_space)`. -/
def checkFunction (devices : List Nat) (configSpace : Nat) : List Nat := devices ++ [configSpace]

/-- `check_device(devices, bridge, phys_offset, bus, device)`. -/
def checkDevice (mem : Nat → BaseConfigurationSpace) (devices : List Nat) (bridge : MCFGEntry)
    (physOffset : UInt64) (bus device : Nat) : Except Panic (List Nat) := do
  let function := 0
  let addr ← configAddr physOffset bridge bus device function
  let some configDevice ← DeviceType.from mem addr | pure devices
  -- only general devices are handled
  let some configSpace := configDevice.asDevice | pure devices
  -- device does not exist
  if (mem configSpace).vendorId = 0xFFFF then return devices
  let devices := checkFunction devices configSpace
  -- multi-function device
  if (mem configSpace).headerType &&& 0x80 ≠ 0 then
    (List.range' 1 7).foldlM (fun devices function => do
      let addr ← configAddr physOffset bridge bus device function
      -- device exists
      if (mem addr).vendorId ≠ 0xFFFF then pure (checkFunction devices addr) else pure devices)
      devices
  else pure devices

/-- `enumerate_bus(phys_offset)` over the entries of the MCFG table. -/
def enumerateBus (mem : Nat → BaseConfigurationSpace) (entries : List MCFGEntry)
    (physOffset : UInt64) : Except Panic (List Nat) :=
  entries.foldlM (fun devices bridge =>
    (List.range' bridge.startBus.toNat (bridge.endBus.toNat-bridge.startBus.toNat)).foldlM
      (fun devices bus => (List.range 32).foldlM
        (fun devices device => checkDevice mem devices bridge physOffset bus device) devices)
      devices)
    []

/-! ### What the scan finds -/

/-- The ECAM the scan is written for: a present function, one whose `vendor_id` is not
`0xFFFF`, has the header type of a general device, a PCI bridge or a CardBus bridge, and an
absent one reads all ones. -/
structure WellFormed (mem : Nat → BaseConfigurationSpace) : Prop where
  present : ∀ a, (mem a).vendorId ≠ 0xFFFF → (mem a).headerType &&& 0x7F = 0 ∨
    (mem a).headerType &&& 0x7F = 1 ∨ (mem a).headerType &&& 0x7F = 2
  absent : ∀ a, (mem a).vendorId = 0xFFFF → (mem a).headerType = 0xFF

/-- The address of a function's configuration space, where the additions do not overflow. -/
def ecamAddr (physOffset : UInt64) (bridge : MCFGEntry) (bus device function : Nat) : Nat :=
  physOffset.toNat + bridge.configSpace.toNat + functionOffset bus device function

/-- The functions of a device that `check_device` pushes: function 0 of a present general
device, and where its header has the multi-function bit, every present function after it. -/
def found (mem : Nat → BaseConfigurationSpace) (physOffset : UInt64) (bridge : MCFGEntry)
    (bus device function : Nat) : Bool :=
  let first := mem (ecamAddr physOffset bridge bus device 0)
  first.headerType &&& 0x7F == 0 && first.vendorId != 0xFFFF &&
    (mem (ecamAddr physOffset bridge bus device function)).vendorId != 0xFFFF &&
    (function == 0 || first.headerType &&& 0x80 != 0)

/-- The configuration spaces `check_device` pushes for one device. -/
def deviceSpaces (mem : Nat → BaseConfigurationSpace) (physOffset : UInt64) (bridge : MCFGEntry)
    (bus device : Nat) : List Nat :=
  ((List.range 8).filter (found mem physOffset bridge bus device)).map
    (ecamAddr physOffset bridge bus device)

/-- The configuration spaces `enumerate_bus` returns, in (entry, bus, device, function) order,
over the buses `start_bus..end_bus` of each entry. -/
def foundSpaces (mem : Nat → BaseConfigurationSpace) (entries : List MCFGEntry)
    (physOffset : UInt64) : List Nat :=
  entries.flatMap fun bridge =>
    (List.range' bridge.startBus.toNat (bridge.endBus.toNat-bridge.startBus.toNat)).flatMap fun bus =>
      (List.range 32).flatMap (deviceSpaces mem physOffset bridge bus)

section Scan

variable {mem : Nat → BaseConfigurationSpace} {physOffset : UInt64} {bridge : MCFGEntry}
  {bus device : Nat}

/-- Every function of every bus lies in the 256 MiB of its entry's ECAM. -/
theorem functionOffset_lt {function : Nat} (hb : bus < 256) (hd : device < 32) (hf : function < 8) :
    functionOffset bus device function < 2^28 := by
  unfold functionOffset
  simp only [Nat.shiftLeft_eq]
  refine Nat.or_lt_two_pow (Nat.or_lt_two_pow ?_ ?_) ?_ <;> omega

theorem configAddr_eq {function : Nat}
    (hov : physOffset.toNat + bridge.configSpace.toNat + 2^28 ≤ 2^64)
    (hb : bus < 256) (hd : device < 32) (hf : function < 8) :
    configAddr physOffset bridge bus device function =
      .ok (ecamAddr physOffset bridge bus device function) := by
  have hlt := functionOffset_lt hb hd hf
  have hbase : (checkedAdd 64 physOffset.toNat bridge.configSpace.toNat : Except Panic Nat) =
      .ok (physOffset.toNat + bridge.configSpace.toNat) := if_pos (by omega)
  have hend : (checkedAdd 64 (physOffset.toNat + bridge.configSpace.toNat)
      (functionOffset bus device function) : Except Panic Nat) = .ok (ecamAddr physOffset bridge bus device function) :=
    if_pos (by omega)
  simp only [configAddr, hbase, hend, bind, Except.bind]

theorem from_of_general {a : Nat} (h : (mem a).headerType &&& 0x7F = 0) :
    DeviceType.from mem a = .ok (some (.device a)) := if_pos h

/-- A function with the header of a general device is present: an absent one reads all ones. -/
theorem present_of_general (hmem : WellFormed mem) {a : Nat} (h : (mem a).headerType &&& 0x7F = 0) :
    (mem a).vendorId ≠ 0xFFFF := fun hv => by
  rw [hmem.absent a hv] at h
  exact absurd h (by decide)

/-- On a well-formed ECAM the header of a function that is not a general device is that of a
bridge or of an absent function, and `DeviceType::from` does not panic. -/
theorem from_of_not_general (hmem : WellFormed mem) {a : Nat} (h : ¬ (mem a).headerType &&& 0x7F = 0) :
    DeviceType.from mem a = .ok (some .pciBridge) ∨ DeviceType.from mem a = .ok (some .cardBusBridge) ∨
      DeviceType.from mem a = .ok none := by
  unfold DeviceType.from
  by_cases hv : (mem a).vendorId = 0xFFFF
  · -- an absent function reads all ones
    have hff : (mem a).headerType &&& 0x7F = 0x7F := by rw [hmem.absent a hv]; decide
    simp [hff]
  · rcases hmem.present a hv with h0 | h1 | h2
    · exact absurd h0 h
    · simp [h1]
    · simp [h2]

/-- A device whose function 0 is not a general device has nothing pushed. -/
theorem deviceSpaces_of_not_general
    (hgen : ¬ (mem (ecamAddr physOffset bridge bus device 0)).headerType &&& 0x7F = 0) :
    deviceSpaces mem physOffset bridge bus device = [] := by
  refine List.map_eq_nil_iff.2 (List.filter_eq_nil_iff.2 fun f _ => ?_)
  simp [found, hgen]

/-- A function's test, on a device whose function 0 is a general device: it is present, as
an absent function reads all ones, and a function is pushed when present and function 0 or of
a multi-function device. -/
theorem found_of_general (hmem : WellFormed mem)
    (hgen : (mem (ecamAddr physOffset bridge bus device 0)).headerType &&& 0x7F = 0) (f : Nat) :
    found mem physOffset bridge bus device f =
      ((mem (ecamAddr physOffset bridge bus device f)).vendorId != 0xFFFF &&
        (f == 0 || (mem (ecamAddr physOffset bridge bus device 0)).headerType &&& 0x80 != 0)) := by
  have hpresent : ((mem (ecamAddr physOffset bridge bus device 0)).vendorId != 0xFFFF) = true :=
    bne_iff_ne.2 (present_of_general hmem hgen)
  simp [found, hgen, hpresent]

theorem found_zero_of_general (hmem : WellFormed mem)
    (hgen : (mem (ecamAddr physOffset bridge bus device 0)).headerType &&& 0x7F = 0) :
    found mem physOffset bridge bus device 0 = true := by
  simp [found_of_general hmem hgen, present_of_general hmem hgen]

theorem range_eight : List.range 8 = 0 :: List.range' 1 7 := rfl

/-- A general device without the multi-function bit has function 0 pushed. -/
theorem deviceSpaces_of_single (hmem : WellFormed mem)
    (hgen : (mem (ecamAddr physOffset bridge bus device 0)).headerType &&& 0x7F = 0)
    (hsingle : (mem (ecamAddr physOffset bridge bus device 0)).headerType &&& 0x80 = 0) :
    deviceSpaces mem physOffset bridge bus device = [ecamAddr physOffset bridge bus device 0] := by
  rw [deviceSpaces, range_eight, List.filter_cons, if_pos (found_zero_of_general hmem hgen), List.map_cons]
  -- past function 0 nothing is pushed
  refine congrArg _ (List.map_eq_nil_iff.2 (List.filter_eq_nil_iff.2 fun f hf => ?_))
  have hf0 : f ≠ 0 := Nat.pos_iff_ne_zero.1 (List.mem_range'_1.1 hf).1
  simp [found_of_general hmem hgen, hf0, hsingle]

/-- A multi-function general device has function 0 pushed, and after it each present
function. -/
theorem deviceSpaces_of_multi (hmem : WellFormed mem)
    (hgen : (mem (ecamAddr physOffset bridge bus device 0)).headerType &&& 0x7F = 0)
    (hmulti : (mem (ecamAddr physOffset bridge bus device 0)).headerType &&& 0x80 ≠ 0) :
    deviceSpaces mem physOffset bridge bus device = ecamAddr physOffset bridge bus device 0 ::
      ((List.range' 1 7).filter fun f =>
        (mem (ecamAddr physOffset bridge bus device f)).vendorId != 0xFFFF).map
        (ecamAddr physOffset bridge bus device) := by
  rw [deviceSpaces, range_eight, List.filter_cons, if_pos (found_zero_of_general hmem hgen), List.map_cons]
  -- past function 0 a function is pushed when it is present
  refine congrArg _ (congrArg _ (List.filter_congr fun f hf => ?_))
  have hf0 : f ≠ 0 := Nat.pos_iff_ne_zero.1 (List.mem_range'_1.1 hf).1
  simp [found_of_general hmem hgen, hf0, hmulti]

/-- One device: `check_device` pushes its functions' configuration spaces in order, on a
well-formed ECAM whose additions do not overflow. -/
theorem checkDevice_eq (hmem : WellFormed mem)
    (hov : physOffset.toNat + bridge.configSpace.toNat + 2^28 ≤ 2^64)
    (hb : bus < 256) (hd : device < 32) (devices : List Nat) :
    checkDevice mem devices bridge physOffset bus device =
      .ok (devices ++ deviceSpaces mem physOffset bridge bus device) := by
  have haddr : ∀ f < 8, configAddr physOffset bridge bus device f =
      .ok (ecamAddr physOffset bridge bus device f) := fun f hf => configAddr_eq hov hb hd hf
  by_cases hgen : (mem (ecamAddr physOffset bridge bus device 0)).headerType &&& 0x7F = 0
  · simp only [checkDevice, haddr 0 (by decide), from_of_general hgen, DeviceType.asDevice,
      present_of_general hmem hgen, bind, Except.bind, if_false, checkFunction]
    by_cases hmulti : (mem (ecamAddr physOffset bridge bus device 0)).headerType &&& 0x80 ≠ 0
    · -- the functions after function 0, each pushed when present
      rw [if_pos hmulti]
      rw [deviceSpaces_of_multi hmem hgen hmulti, except_foldlM_filter (fun acc f hf => ?_),
        List.append_assoc, List.singleton_append]
      have hf8 : f < 8 := by have := (List.mem_range'_1.1 hf).2; omega
      simp only [haddr f hf8, pure, Except.pure, bne_iff_ne, ne_eq]
      split_ifs <;> rfl
    · simp only [ne_eq, Decidable.not_not] at hmulti
      simp only [hmulti, ne_eq, not_true_eq_false, if_false, pure, Except.pure,
        deviceSpaces_of_single hmem hgen hmulti]
  · rw [deviceSpaces_of_not_general hgen]
    rcases from_of_not_general hmem hgen with h | h | h <;>
      simp only [checkDevice, haddr 0 (by decide), h, DeviceType.asDevice, bind, Except.bind, pure,
        Except.pure, List.append_nil]

/-- The whole scan: on a well-formed ECAM whose additions do not overflow, `enumerate_bus`
returns the configuration spaces `check_device` pushes, over every entry's buses
`start_bus..end_bus`, devices `0..32` and functions `0..8`, in that order. -/
theorem enumerateBus_eq {entries : List MCFGEntry} (hmem : WellFormed mem)
    (hov : ∀ bridge ∈ entries, physOffset.toNat + bridge.configSpace.toNat + 2^28 ≤ 2^64) :
    enumerateBus mem entries physOffset = .ok (foundSpaces mem entries physOffset) := by
  unfold enumerateBus foundSpaces
  rw [← List.nil_append (List.flatMap _ entries)]
  -- the three loops, each appending what its passes push
  refine except_foldlM_append (fun devices bridge hbridge => ?_) []
  refine except_foldlM_append (fun devices bus hbus => ?_) devices
  have hb : bus < 256 := by
    have := (List.mem_range'_1.1 hbus).2
    have := bridge.startBus.toNat_lt
    have := bridge.endBus.toNat_lt
    omega
  exact except_foldlM_append
    (fun devices device hdevice => checkDevice_eq hmem (hov bridge hbridge) hb
      (List.mem_range.1 hdevice) devices) devices

end Scan

/-! ### Against the buses the MCFG table gives -/

/-- The functions of a device a scan should find: a present general device, where a function
other than 0 belongs to a device whose function 0 is present with the multi-function bit. -/
def generalFunction (mem : Nat → BaseConfigurationSpace) (physOffset : UInt64)
    (bridge : MCFGEntry) (bus device function : Nat) : Bool :=
  let header := mem (ecamAddr physOffset bridge bus device function)
  let first := mem (ecamAddr physOffset bridge bus device 0)
  header.vendorId != 0xFFFF && header.headerType &&& 0x7F == 0 &&
    (function == 0 || first.vendorId != 0xFFFF && first.headerType &&& 0x80 != 0)

/-- The configuration spaces of the general functions on every bus an entry covers, from
`start_bus` to `end_bus` inclusive as MCFG defines them, in (entry, bus, device, function)
order. -/
def generalSpaces (mem : Nat → BaseConfigurationSpace) (entries : List MCFGEntry)
    (physOffset : UInt64) : List Nat :=
  entries.flatMap fun bridge =>
    (List.range' bridge.startBus.toNat (bridge.endBus.toNat+1-bridge.startBus.toNat)).flatMap fun bus =>
      (List.range 32).flatMap fun device =>
        ((List.range 8).filter (generalFunction mem physOffset bridge bus device)).map
          (ecamAddr physOffset bridge bus device)

/-- One entry for buses 0 and 1, with its ECAM at address 0. -/
def twoBuses : MCFGEntry := ⟨0, 0, 1⟩

/-- A multi-function device at bus 0, device 0, whose function 1 is a PCI bridge, and a general
device at bus 1, device 0; every other function is absent. -/
def bridgeEcam (a : Nat) : BaseConfigurationSpace :=
  if a = functionOffset 0 0 0 then ⟨0x8086, 0x80⟩
  else if a = functionOffset 0 0 1 then ⟨0x8086, 0x01⟩
  else if a = functionOffset 1 0 0 then ⟨0x1AF4, 0x00⟩
  else ⟨0xFFFF, 0xFF⟩

theorem bridgeEcam_wellFormed : WellFormed bridgeEcam := by
  constructor <;> intro a <;> unfold bridgeEcam <;> split_ifs <;> decide

/-- On this ECAM `enumerate_bus` returns function 0 and the bridge at function 1 of bus 0, and
not the general device on bus 1, its entry's `end_bus`; the general functions of the entry's
buses are function 0 of each. -/
theorem enumerate_bus_misses_end_bus_and_keeps_bridge :
    WellFormed bridgeEcam ∧
    enumerateBus bridgeEcam [twoBuses] 0 = .ok [functionOffset 0 0 0, functionOffset 0 0 1] ∧
    generalSpaces bridgeEcam [twoBuses] 0 = [functionOffset 0 0 0, functionOffset 1 0 0] := by
  refine ⟨bridgeEcam_wellFormed, ?_, by decide +kernel⟩
  rw [enumerateBus_eq bridgeEcam_wellFormed (fun bridge hbridge => by
    rw [List.mem_singleton.1 hbridge]
    decide)]
  decide +kernel

end LobsterOS.Pci
