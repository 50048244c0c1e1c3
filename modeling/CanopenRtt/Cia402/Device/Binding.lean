import CanopenRtt.Cia402.Device.Diag
import CanopenRtt.Profile.Layout
/-!
# Object Dictionary contracts and binding

`CO_402_device_od.c`. The generated dictionary is a list of entries; `OD_find`
and `OD_getSub` return what their documentation says for it.
-/

namespace CanopenRtt.Cia402.Device

open CanopenRtt.Profile

/-- The stream `OD_getSub` describes: storage present, byte width, attributes. -/
structure ODSub where
  dataOrig : Bool
  dataLength : Nat
  attributes : BitVec 8
  deriving DecidableEq, Repr

/-- Whose `OD_extension_t` an entry points to. -/
inductive ExtensionOwner where
  | controlword (axis : LogicalDevice)
  | mode (axis : LogicalDevice)
  | other (subsystem : Nat)
  deriving DecidableEq, Repr

structure ODEntry where
  index : Nat
  odObjectType : BitVec 8
  subEntriesCount : Nat
  sub : Nat → Option ODSub
  extension : Option ExtensionOwner

abbrev ObjectDictionary := List ODEntry

def odFind (od : ObjectDictionary) (index : Nat) : Option ODEntry :=
  od.find? fun entry => entry.index == index

/-- `OD_extension_init` on the entry with this index. -/
def odExtensionInit (od : ObjectDictionary) (index : Nat) (owner : ExtensionOwner) :
    ObjectDictionary :=
  od.map fun entry =>
    if entry.index = index then { entry with extension := some owner } else entry

inductive InitError where
  | ok
  | badAxis
  | duplicateAxis
  | odMissing
  | odLength
  | odAccess
  | odExtensionConflict
  | modeOdMismatch
  | configMismatch
  | odType
  | diagIf
  | diagOd
  deriving DecidableEq, Repr

/-- `CO_402_init_diag_t`; a cleared record reports `ok`. -/
structure InitDiag where
  error : InitError := .ok
  logicalDevice : BitVec 8 := 0
  index : Nat := 0
  subIndex : Nat := 0
  deriving DecidableEq, Repr

def odaSdoR : BitVec 8 := 0x01
def odaSdoRW : BitVec 8 := 0x03
def odaTpdo : BitVec 8 := 0x04
def odaRpdo : BitVec 8 := 0x08
def odaTrpdo : BitVec 8 := 0x0C
def odaTrsrdo : BitVec 8 := 0x30
def odaMb : BitVec 8 := 0x40
def odaStr : BitVec 8 := 0x80

def odObjectTypeVar : BitVec 8 := 0x01
def odObjectTypeRec : BitVec 8 := 0x03
def odObjectTypeMask : BitVec 8 := 0x0F

def odAttributeContractMask : BitVec 8 := odaSdoRW ||| odaTrpdo ||| odaTrsrdo ||| odaMb ||| odaStr

/-- One row of a scalar contract table. -/
structure ODContract where
  axis0Index : Nat
  length : Nat
  expectedAttributes : BitVec 8
  cache : ObjectSlot

def baseContracts : List ODContract :=
  [ ⟨0x603F, 2, odaSdoR ||| odaMb, .errorCode⟩,
    ⟨0x6040, 2, odaSdoRW ||| odaRpdo ||| odaMb, .controlword⟩,
    ⟨0x6041, 2, odaSdoR ||| odaTpdo ||| odaMb, .statusword⟩,
    ⟨0x6060, 1, odaSdoRW ||| odaRpdo, .modesOfOperation⟩,
    ⟨0x6061, 1, odaSdoR ||| odaTpdo, .modesOfOperationDisplay⟩,
    ⟨0x6064, 4, odaSdoR ||| odaTpdo ||| odaMb, .positionActualValue⟩,
    ⟨0x607A, 4, odaSdoRW ||| odaRpdo ||| odaMb, .targetPosition⟩,
    ⟨0x606C, 4, odaSdoR ||| odaTpdo ||| odaMb, .velocityActualValue⟩,
    ⟨0x60FF, 4, odaSdoRW ||| odaRpdo ||| odaMb, .targetVelocity⟩,
    ⟨0x6502, 4, odaSdoR ||| odaMb, .supportedDriveModes⟩ ]

def ppContracts : List ODContract :=
  [ ⟨0x6081, 4, odaSdoRW ||| odaMb, .profileVelocity⟩,
    ⟨0x6083, 4, odaSdoRW ||| odaMb, .profileAcceleration⟩,
    ⟨0x6084, 4, odaSdoRW ||| odaMb, .profileDeceleration⟩,
    ⟨0x6085, 4, odaSdoRW ||| odaMb, .quickStopDeceleration⟩,
    ⟨0x6086, 2, odaSdoRW ||| odaMb, .motionProfileType⟩ ]

def pvContracts : List ODContract :=
  [ ⟨0x6083, 4, odaSdoRW ||| odaMb, .profileAcceleration⟩,
    ⟨0x6084, 4, odaSdoRW ||| odaMb, .profileDeceleration⟩,
    ⟨0x6085, 4, odaSdoRW ||| odaMb, .quickStopDeceleration⟩ ]

def hmContracts : List ODContract :=
  [ ⟨0x607C, 4, odaSdoRW ||| odaMb, .homeOffset⟩,
    ⟨0x6098, 1, odaSdoRW, .homingMethod⟩,
    ⟨0x609A, 4, odaSdoRW ||| odaMb, .homingAcceleration⟩ ]

def cstContracts : List ODContract :=
  [ ⟨0x6071, 2, odaSdoRW ||| odaRpdo ||| odaMb, .targetTorque⟩,
    ⟨0x6077, 2, odaSdoR ||| odaTpdo ||| odaMb, .torqueActualValue⟩ ]

def setODDiag (error : InitError) (logicalDevice : LogicalDevice) (index subIndex : Nat) :
    InitDiag where
  error := error
  logicalDevice := BitVec.ofNat 8 logicalDevice
  index := index
  subIndex := subIndex

/-- A generated entry that meets a scalar contract. -/
def ODContract.entry (logicalDevice : LogicalDevice) (contract : ODContract) : ODEntry where
  index := profileIndex logicalDevice contract.axis0Index
  odObjectType := odObjectTypeVar
  subEntriesCount := 1
  sub := fun _ => some ⟨true, contract.length, contract.expectedAttributes⟩
  extension := none

/-- The base objects of one logical device, as the generator emits them. -/
def baseDictionary (logicalDevice : LogicalDevice) : ObjectDictionary :=
  baseContracts.map fun contract => contract.entry logicalDevice

/-- Cache one validated entry pointer. -/
def cacheEntry (slot : ObjectSlot) (index : Nat) (axis : Axis) : Axis :=
  { axis with od := Function.update axis.od slot (some index) }

/-- A binding stage: the axis it leaves behind, and the failure it reports, if any. -/
abbrev BindStage := Axis → Axis × Option InitDiag

/-- Run the second stage on an axis the first one accepted. -/
def BindStage.next (first second : BindStage) : BindStage := fun axis =>
  match first axis with
  | (axis, none) => second axis
  | (axis, some diag) => (axis, some diag)

/-- The structure, width and attribute checks shared by all objects. -/
def validateSub (sub : Option ODSub) (length : Nat) (expectedAttributes : BitVec 8) :
    Option InitError :=
  match sub with
  | none => some .odMissing
  | some sub =>
      if !sub.dataOrig then some .odMissing
      else if sub.dataLength ≠ length then some .odLength
      else if sub.attributes &&& odAttributeContractMask ≠ expectedAttributes then some .odAccess
      else none

def validateOneScalar (od : ObjectDictionary) (contract : ODContract) : BindStage := fun axis =>
  let index := profileIndex axis.logicalDevice contract.axis0Index
  match odFind od index with
  | none => (axis, some (setODDiag .odMissing axis.logicalDevice index 0))
  | some entry =>
      if entry.odObjectType &&& odObjectTypeMask ≠ odObjectTypeVar ||
          entry.subEntriesCount ≠ 1 then
        (axis, some (setODDiag .odType axis.logicalDevice index 0))
      else
        match validateSub (entry.sub 0) contract.length contract.expectedAttributes with
        | some error => (axis, some (setODDiag error axis.logicalDevice index 0))
        | none => (cacheEntry contract.cache index axis, none)

/-- Apply one contract table, stopping at the first failing row. -/
def validateScalarContracts (od : ObjectDictionary) : List ODContract → BindStage
  | [] => fun axis => (axis, none)
  | contract :: contracts =>
      (validateOneScalar od contract).next (validateScalarContracts od contracts)

/-- The width and attributes of one sub-entry of 0x6099. -/
def homingSpeedsSub : Nat → Nat × BitVec 8
  | 0 => (1, odaSdoR)
  | _ => (4, odaSdoRW ||| odaMb)

def validateHomingSpeedsSubs (entry : ODEntry) (logicalDevice : LogicalDevice) (index : Nat) :
    List Nat → Option InitDiag
  | [] => none
  | subIndex :: rest =>
      match validateSub (entry.sub subIndex) (homingSpeedsSub subIndex).1
          (homingSpeedsSub subIndex).2 with
      | some error => some (setODDiag error logicalDevice index subIndex)
      | none => validateHomingSpeedsSubs entry logicalDevice index rest

def validateHomingSpeeds (od : ObjectDictionary) : BindStage := fun axis =>
  let index := profileIndex axis.logicalDevice 0x6099
  match odFind od index with
  | none => (axis, some (setODDiag .odMissing axis.logicalDevice index 0))
  | some entry =>
      if entry.odObjectType &&& odObjectTypeMask ≠ odObjectTypeRec ||
          entry.subEntriesCount ≠ 3 then
        (axis, some (setODDiag .odType axis.logicalDevice index 0))
      else
        match validateHomingSpeedsSubs entry axis.logicalDevice index [0, 1, 2] with
        | some diag => (axis, some diag)
        | none => (cacheEntry .homingSpeeds index axis, none)

/-- Run a stage only on an axis that advertises the mode. -/
def whenSupported (mode : BitVec 32) (stage : BindStage) : BindStage := fun axis =>
  if axis.supportedModes &&& mode ≠ 0 then stage axis else (axis, none)

def validateModeObjects (od : ObjectDictionary) : BindStage :=
  (whenSupported supportedModePP (validateScalarContracts od ppContracts)).next
    ((whenSupported supportedModePV (validateScalarContracts od pvContracts)).next
      ((whenSupported supportedModeHM
          ((validateScalarContracts od hmContracts).next (validateHomingSpeeds od))).next
        (whenSupported supportedModeCST (validateScalarContracts od cstContracts))))

/-- The extension slot of a cached entry. -/
def cachedExtension (od : ObjectDictionary) (axis : Axis) (slot : ObjectSlot) :
    Option ExtensionOwner := do
  let index ← axis.od slot
  let entry ← odFind od index
  entry.extension

def validateExtensionOwnership (od : ObjectDictionary) : BindStage := fun axis =>
  let conflict (slot : ObjectSlot) : Option InitDiag :=
    some (setODDiag .odExtensionConflict axis.logicalDevice ((axis.od slot).getD 0) 0)
  if cachedExtension od axis .controlword ≠ none ∧
      cachedExtension od axis .controlword ≠ some (.controlword axis.logicalDevice) then
    (axis, conflict .controlword)
  else if cachedExtension od axis .modesOfOperation ≠ none ∧
      cachedExtension od axis .modesOfOperation ≠ some (.mode axis.logicalDevice) then
    (axis, conflict .modesOfOperation)
  else (axis, none)

/-- Install the two forwarding extensions of an axis. -/
def installForwardingExtensions (od : ObjectDictionary) (axis : Axis) : ObjectDictionary :=
  let od :=
    match axis.od .controlword with
    | some index => odExtensionInit od index (.controlword axis.logicalDevice)
    | none => od
  match axis.od .modesOfOperation with
  | some index => odExtensionInit od index (.mode axis.logicalDevice)
  | none => od

def clearODCache (axis : Axis) : Axis :=
  { axis with od := fun _ => none }

/-- Validate one axis: base objects, mode objects, extension ownership. -/
def validateAxis (od : ObjectDictionary) : BindStage := fun axis =>
  (BindStage.next (validateScalarContracts od baseContracts)
    (BindStage.next (validateModeObjects od) (validateExtensionOwnership od))) (clearODCache axis)

/-- Outcomes of the two Object Dictionary writes of a binding, for one axis. -/
structure BindWrites where
  supportedDriveModes : Bool := true
  errorCode : Bool := true

/-- Publish 0x6502 and restore 0x603F on one validated axis. -/
def publishAxis (writes : LogicalDevice → BindWrites) : BindStage := fun axis =>
  let outcome := writes axis.logicalDevice
  if (axis.od .supportedDriveModes).isNone || !outcome.supportedDriveModes then
    (axis, some (setODDiag .odAccess axis.logicalDevice
      ((axis.od .supportedDriveModes).getD 0) 0))
  else
    let axis :=
      { axis with image := { axis.image with supportedDriveModes := axis.supportedModes } }
    match restoreAxis outcome.errorCode true axis with
    | (axis, true) => (axis, none)
    | (axis, false) =>
        (axis, some (setODDiag .diagOd axis.logicalDevice ((axis.od .errorCode).getD 0) 0))

/-- Run a stage over the axes in order, up to the first failure. -/
def forEachAxis (stage : BindStage) : List Axis → List Axis × Option InitDiag
  | [] => ([], none)
  | axis :: rest =>
      match stage axis with
      | (axis, some diag) => (axis :: rest, some diag)
      | (axis, none) =>
          let (rest, diag) := forEachAxis stage rest
          (axis :: rest, diag)

end CanopenRtt.Cia402.Device
