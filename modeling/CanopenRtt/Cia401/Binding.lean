import CanopenRtt.Cia401.Device
import CanopenRtt.Support.Run
/-!
# Binding the Device to a generated Object Dictionary

`CO_401_device_od.c` and `CO_401_device_init`. Validation fills a candidate
record and leaves the Device alone until every enabled object has passed.
-/

namespace CanopenRtt.Cia401

open CanopenRtt.Profile CanopenRtt.Support

def odObjectTypeVar : BitVec 8 := 0x01#8
def odObjectTypeArray : BitVec 8 := 0x02#8
def odObjectTypeMask : BitVec 8 := 0x0F#8

def odaSdoR : BitVec 8 := 0x01#8
def odaSdoRW : BitVec 8 := 0x03#8
def odaTpdo : BitVec 8 := 0x04#8
def odaRpdo : BitVec 8 := 0x08#8
def odaTrpdo : BitVec 8 := 0x0C#8
def odaTrsrdo : BitVec 8 := 0x30#8
def odaMb : BitVec 8 := 0x40#8
def odaStr : BitVec 8 := 0x80#8

def odAttributeContractMask : BitVec 8 := odaSdoRW ||| odaTrpdo ||| odaTrsrdo ||| odaMb ||| odaStr

def deviceTypeMultipleDeviceMask : BitVec 32 := 0xFFFF0000#32
def deviceTypeProfileMask : BitVec 32 := 0x0000FFFF#32

def attributesMatch (attributes required allowed : BitVec 8) : Bool :=
  let contract := attributes &&& odAttributeContractMask
  contract &&& required = required && contract &&& ~~~allowed = 0#8

/-- The arguments of one `CO_401_device_bindOD` that its checks read. -/
structure BindContext where
  features : Features
  access : OdAccess
  config : DeviceConfig
  capabilities : BitVec 8
  logicalDevice : Nat
  od : Nat
  memory : Memory

namespace BindContext

/-- `CO_profileIndex` of one canonical index. -/
def index (context : BindContext) (canonicalIndex : Nat) : Nat :=
  profileIndex context.logicalDevice canonicalIndex

def find (context : BindContext) (index : Nat) : Option OdEntry :=
  context.memory.find context.od index

def fail {α : Type} (context : BindContext) (error : InitError) (index subIndex : Nat) :
    Except InitDiag α :=
  .error ⟨error, index, subIndex, context.logicalDevice⟩

/-- `OD_find`, with the failure every validator reports. -/
def require (context : BindContext) (index : Nat) : Except InitDiag (OdEntry × OdShape) :=
  match context.find index with
  | none => context.fail .odMissing index 0
  | some entry =>
      match context.memory.shape entry with
      | none => context.fail .odMissing index 0
      | some shape => .ok (entry, shape)

/-- `OD_getSub` with storage, and its width. -/
def requireSub (context : BindContext) (entry : OdEntry) (subIndex length : Nat) :
    Except InitDiag OdSub :=
  match context.memory.getSub entry subIndex with
  | none => context.fail .odMissing entry.index subIndex
  | some sub =>
      if !sub.dataOrig then context.fail .odMissing entry.index subIndex
      else if sub.dataLength ≠ length then context.fail .odLength entry.index subIndex
      else .ok sub

def validateDeviceTypeEntry (context : BindContext) (index : Nat)
    (expectedValue valueMask : BitVec 32) : Except InitDiag OdEntry := do
  let (entry, shape) ← context.require index
  if shape.odObjectType &&& odObjectTypeMask ≠ odObjectTypeVar || shape.subEntriesCount ≠ 1 then
    context.fail .odType index 0
  else
    let sub ← context.requireSub entry 0 4
    if !attributesMatch sub.attributes (odaSdoR ||| odaMb) (odaSdoR ||| odaMb) then
      context.fail .odAccess index 0
    else
      match context.memory.getU32 context.access (some entry) 0 with
      | none => context.fail .deviceType index 0
      | some value =>
          if value &&& valueMask ≠ expectedValue then context.fail .deviceType index 0
          else .ok entry

/-- Slot 0 is one of several devices only when its own type object is present. -/
def validateDeviceType (context : BindContext) : Except InitDiag (Option OdEntry) := do
  let expected := deviceTypeForCapabilities context.capabilities
  let logicalTypeIndex := context.index odCanonicalLast
  if context.logicalDevice = 0 && (context.find logicalTypeIndex).isNone then
    return some (← context.validateDeviceTypeEntry indexDeviceType expected (BitVec.allOnes 32))
  else
    if context.logicalDevice = 0 then
      let _ ← context.validateDeviceTypeEntry indexDeviceType
        (deviceTypeMultipleDeviceMask ||| expected &&& deviceTypeProfileMask) (BitVec.allOnes 32)
    else
      let _ ← context.validateDeviceTypeEntry indexDeviceType deviceTypeMultipleDeviceMask
        deviceTypeMultipleDeviceMask
    return some (← context.validateDeviceTypeEntry logicalTypeIndex expected (BitVec.allOnes 32))

def validateArrayContract (context : BindContext) (canonicalIndex expectedCount elementLength : Nat)
    (required allowed : BitVec 8) : Except InitDiag (Option OdEntry) := do
  let index := context.index canonicalIndex
  let (entry, shape) ← context.require index
  if shape.odObjectType &&& odObjectTypeMask ≠ odObjectTypeArray then
    context.fail .odType index 0
  else if shape.subEntriesCount ≠ (expectedCount + 1) % 256 then
    context.fail .odSubCount index 0
  else
    let countSub ← context.requireSub entry 0 1
    if !attributesMatch countSub.attributes odaSdoR odaSdoR then
      context.fail .odAccess index 0
    else if (context.memory.getU8 context.access (some entry) 0).map BitVec.toNat ≠
        some expectedCount then
      context.fail .odSubValue index 0
    else
      let elementSub ← context.requireSub entry 1 elementLength
      if shape.dataElementSizeof ≠ elementLength then
        context.fail .odLength index 1
      else if !attributesMatch elementSub.attributes required allowed then
        context.fail .odAccess index 1
      else
        return some entry

def validateArray (context : BindContext) (canonicalIndex expectedCount elementLength : Nat)
    (expectedAttributes : BitVec 8) : Except InitDiag (Option OdEntry) :=
  context.validateArrayContract canonicalIndex expectedCount elementLength expectedAttributes
    expectedAttributes

def validateVariable8 (context : BindContext) (canonicalIndex : Nat)
    (required allowed : BitVec 8) : Except InitDiag (Option OdEntry) := do
  let index := context.index canonicalIndex
  let (entry, shape) ← context.require index
  if shape.odObjectType &&& odObjectTypeMask ≠ odObjectTypeVar || shape.subEntriesCount ≠ 1 then
    context.fail .odType index 0
  else
    let sub ← context.requireSub entry 0 1
    if !attributesMatch sub.attributes required allowed then
      context.fail .odAccess index 0
    else
      return some entry

/-- An object of a disabled capability must not exist. -/
def validateEnabled (context : BindContext) (enabled : Bool) (canonicalIndex : Nat)
    (validate : Except InitDiag (Option OdEntry)) : Except InitDiag (Option OdEntry) :=
  if enabled then validate
  else if (context.find (context.index canonicalIndex)).isSome then
    context.fail .odUnexpected (context.index canonicalIndex) 0
  else .ok none

def validateCapabilityObject (context : BindContext) (enabled : Bool)
    (canonicalIndex expectedCount elementLength : Nat) (expectedAttributes : BitVec 8) :
    Except InitDiag (Option OdEntry) :=
  context.validateEnabled enabled canonicalIndex
    (context.validateArray canonicalIndex expectedCount elementLength expectedAttributes)

def validateOptionalArraySized (context : BindContext) (enabled : Bool)
    (canonicalIndex expectedCount elementLength : Nat) (required allowed : BitVec 8) :
    Except InitDiag (Option OdEntry) :=
  context.validateEnabled enabled canonicalIndex
    (context.validateArrayContract canonicalIndex expectedCount elementLength required allowed)

def validateOptionalArray (context : BindContext) (enabled : Bool)
    (canonicalIndex expectedCount : Nat) : Except InitDiag (Option OdEntry) :=
  context.validateOptionalArraySized enabled canonicalIndex expectedCount 1 odaSdoRW
    (odaSdoRW ||| odaTrpdo)

/-- The object may be absent even when its capability is enabled. -/
def validatePresentOptionalArraySized (context : BindContext) (enabled : Bool)
    (canonicalIndex expectedCount elementLength : Nat) (required allowed : BitVec 8) :
    Except InitDiag (Option OdEntry) :=
  context.validateEnabled enabled canonicalIndex
    (if (context.find (context.index canonicalIndex)).isNone then .ok none
    else context.validateArrayContract canonicalIndex expectedCount elementLength required allowed)

/-- An INTEGER32 or UNSIGNED32 array that the network may write. -/
def validateParameter32 (context : BindContext) (enabled : Bool)
    (canonicalIndex expectedCount : Nat) : Except InitDiag (Option OdEntry) :=
  context.validateOptionalArraySized enabled canonicalIndex expectedCount 4 odaSdoRW
    (odaSdoRW ||| odaTrpdo ||| odaMb)

def digitalInputEnabled (context : BindContext) : Bool := context.config.digitalInputBanks ≠ 0
def digitalOutputEnabled (context : BindContext) : Bool := context.config.digitalOutputBanks ≠ 0
def analogInputEnabled (context : BindContext) : Bool := context.config.analogInputChannels ≠ 0
def analogOutputEnabled (context : BindContext) : Bool := context.config.analogOutputChannels ≠ 0

/-- The device type and the objects of the four capabilities. -/
def validateBase (context : BindContext) (candidate : BoundOd) : Except InitDiag BoundOd := do
  let deviceType ← context.validateDeviceType
  let digitalInput8 ← context.validateCapabilityObject context.digitalInputEnabled
    indexDigitalInput8 context.config.digitalInputBanks 1 (odaSdoR ||| odaTpdo)
  let digitalOutput8 ← context.validateCapabilityObject context.digitalOutputEnabled
    indexDigitalOutput8 context.config.digitalOutputBanks 1 (odaSdoRW ||| odaRpdo)
  let analogInput16 ← context.validateCapabilityObject context.analogInputEnabled
    indexAnalogInput16 context.config.analogInputChannels 2 (odaSdoR ||| odaTpdo ||| odaMb)
  let analogInterruptEnable ← context.validateEnabled context.analogInputEnabled
    indexAnalogInterruptEnable
    (context.validateVariable8 indexAnalogInterruptEnable odaSdoRW (odaSdoRW ||| odaTrpdo))
  let analogOutput16 ← context.validateCapabilityObject context.analogOutputEnabled
    indexAnalogOutput16 context.config.analogOutputChannels 2 (odaSdoRW ||| odaRpdo ||| odaMb)
  return { candidate with
    deviceType := deviceType
    digitalInput8 := digitalInput8
    digitalOutput8 := digitalOutput8
    analogInput16 := analogInput16
    analogInterruptEnable := analogInterruptEnable
    analogOutput16 := analogOutput16 }

/-- The objects of `PKG_CANOPENNODE_CIA401_DIGITAL_EVENTS`. -/
def validateDigitalEvents (context : BindContext) (candidate : BoundOd) :
    Except InitDiag BoundOd := do
  let enabled := context.digitalInputEnabled
  let banks := context.config.digitalInputBanks
  let digitalInputPolarity8 ←
    context.validateOptionalArray enabled indexDigitalInputPolarity8 banks
  let digitalInputFilter8 ← context.validateOptionalArray enabled indexDigitalInputFilter8 banks
  let digitalInterruptEnable ← context.validateEnabled enabled indexDigitalInterruptEnable
    (context.validateVariable8 indexDigitalInterruptEnable odaSdoRW odaSdoRW)
  let digitalInterruptAny8 ← context.validateOptionalArray enabled indexDigitalInterruptAny8 banks
  let digitalInterruptRising8 ←
    context.validateOptionalArray enabled indexDigitalInterruptRising8 banks
  let digitalInterruptFalling8 ←
    context.validateOptionalArray enabled indexDigitalInterruptFalling8 banks
  return { candidate with
    digitalInputPolarity8 := digitalInputPolarity8
    digitalInputFilter8 := digitalInputFilter8
    digitalInterruptEnable := digitalInterruptEnable
    digitalInterruptAny8 := digitalInterruptAny8
    digitalInterruptRising8 := digitalInterruptRising8
    digitalInterruptFalling8 := digitalInterruptFalling8 }

/-- The objects of `PKG_CANOPENNODE_CIA401_DIGITAL_OUTPUT_FAILSAFE`. -/
def validateDigitalFailSafe (context : BindContext) (candidate : BoundOd) :
    Except InitDiag BoundOd := do
  let enabled := context.digitalOutputEnabled
  let banks := context.config.digitalOutputBanks
  let digitalOutputPolarity8 ←
    context.validateOptionalArray enabled indexDigitalOutputPolarity8 banks
  let digitalOutputErrorMode8 ←
    context.validateOptionalArray enabled indexDigitalOutputErrorMode8 banks
  let digitalOutputErrorValue8 ←
    context.validateOptionalArray enabled indexDigitalOutputErrorValue8 banks
  let digitalOutputFilter8 ← context.validateOptionalArray enabled indexDigitalOutputFilter8 banks
  return { candidate with
    digitalOutputPolarity8 := digitalOutputPolarity8
    digitalOutputErrorMode8 := digitalOutputErrorMode8
    digitalOutputErrorValue8 := digitalOutputErrorValue8
    digitalOutputFilter8 := digitalOutputFilter8 }

/-- The objects of `PKG_CANOPENNODE_CIA401_ANALOG_EVENTS`. -/
def validateAnalogEvents (context : BindContext) (candidate : BoundOd) :
    Except InitDiag BoundOd := do
  let enabled := context.analogInputEnabled
  let channels := context.config.analogInputChannels
  let analogInterruptTrigger ←
    context.validateOptionalArray enabled indexAnalogInterruptTrigger channels
  let analogInterruptSource ← context.validateOptionalArraySized enabled
    indexAnalogInterruptSource context.config.sourceBanks 4 odaSdoR (odaSdoR ||| odaTpdo ||| odaMb)
  let analogInterruptUpper32 ←
    context.validateParameter32 enabled indexAnalogInterruptUpper32 channels
  let analogInterruptLower32 ←
    context.validateParameter32 enabled indexAnalogInterruptLower32 channels
  let analogInterruptDeltaU32 ←
    context.validateParameter32 enabled indexAnalogInterruptDeltaU32 channels
  let analogInterruptNegDeltaU32 ←
    context.validateParameter32 enabled indexAnalogInterruptNegDeltaU32 channels
  let analogInterruptPosDeltaU32 ←
    context.validateParameter32 enabled indexAnalogInterruptPosDeltaU32 channels
  return { candidate with
    analogInterruptTrigger := analogInterruptTrigger
    analogInterruptSource := analogInterruptSource
    analogInterruptUpper32 := analogInterruptUpper32
    analogInterruptLower32 := analogInterruptLower32
    analogInterruptDeltaU32 := analogInterruptDeltaU32
    analogInterruptNegDeltaU32 := analogInterruptNegDeltaU32
    analogInterruptPosDeltaU32 := analogInterruptPosDeltaU32 }

/-- The objects of `PKG_CANOPENNODE_CIA401_ANALOG_OUTPUT_FAILSAFE`. -/
def validateAnalogFailSafe (context : BindContext) (candidate : BoundOd) :
    Except InitDiag BoundOd := do
  let enabled := context.analogOutputEnabled
  let channels := context.config.analogOutputChannels
  let analogOutputErrorMode ←
    context.validateOptionalArray enabled indexAnalogOutputErrorMode channels
  let analogOutputErrorValue32 ←
    context.validateParameter32 enabled indexAnalogOutputErrorValue32 channels
  return { candidate with
    analogOutputErrorMode := analogOutputErrorMode
    analogOutputErrorValue32 := analogOutputErrorValue32 }

/-- The objects of `PKG_CANOPENNODE_CIA401_ANALOG_CONDITIONING`. -/
def validateConditioning (context : BindContext) (candidate : BoundOd) :
    Except InitDiag BoundOd := do
  let inputs := context.config.analogInputChannels
  let outputs := context.config.analogOutputChannels
  let analogInputSiUnit ← context.validatePresentOptionalArraySized context.analogInputEnabled
    indexAnalogInputSiUnit inputs 4 odaSdoRW (odaSdoRW ||| odaTrpdo ||| odaMb)
  let analogInputOffset32 ←
    context.validateParameter32 context.analogInputEnabled indexAnalogInputOffset32 inputs
  let analogInputPrescaling32 ←
    context.validateParameter32 context.analogInputEnabled indexAnalogInputPrescaling32 inputs
  let analogOutputOffset32 ←
    context.validateParameter32 context.analogOutputEnabled indexAnalogOutputOffset32 outputs
  let analogOutputScaling32 ←
    context.validateParameter32 context.analogOutputEnabled indexAnalogOutputScaling32 outputs
  let analogOutputSiUnit ← context.validatePresentOptionalArraySized context.analogOutputEnabled
    indexAnalogOutputSiUnit outputs 4 odaSdoRW (odaSdoRW ||| odaTrpdo ||| odaMb)
  return { candidate with
    analogInputSiUnit := analogInputSiUnit
    analogInputOffset32 := analogInputOffset32
    analogInputPrescaling32 := analogInputPrescaling32
    analogOutputOffset32 := analogOutputOffset32
    analogOutputScaling32 := analogOutputScaling32
    analogOutputSiUnit := analogOutputSiUnit }

/-- The slot of a bound entry is free or already carries the Device's own extension. -/
def validateExtensionSlot (context : BindContext) (entry : Option OdEntry)
    (owned : OwnExtension) (canonicalIndex : Nat) : Except InitDiag Unit :=
  match entry.bind context.memory.extension with
  | none => .ok ()
  | some owner =>
      if owner = .own owned then .ok ()
      else context.fail .odAccess (context.index canonicalIndex) 0

/-- The slots in the order the source checks them. -/
def slotOrder : List OwnExtension :=
  [.digitalInput8, .digitalInputFilter8, .digitalOutput8, .analogOutput16, .analogInput16,
    .analogInterruptSource]

def validateExtensionSlots (context : BindContext) (candidate : BoundOd) :
    List OwnExtension → Except InitDiag Unit
  | [] => .ok ()
  | owned :: rest => do
      if owned.installed context.features context.config then
        context.validateExtensionSlot (candidate.carrier owned) owned owned.canonicalIndex
      context.validateExtensionSlots candidate rest

/-- A validation step that one switch compiles in. -/
def validateFeature (enabled : Bool) (validate : BoundOd → Except InitDiag BoundOd)
    (candidate : BoundOd) : Except InitDiag BoundOd :=
  if enabled then validate candidate else .ok candidate

/-- All checks of `CO_401_device_bindOD`, in their order. -/
def validate (context : BindContext) : Except InitDiag BoundOd := do
  let candidate ← context.validateBase {}
  let candidate ← validateFeature context.features.digitalEvents context.validateDigitalEvents
    candidate
  let candidate ← validateFeature context.features.digitalOutputFailSafe
    context.validateDigitalFailSafe candidate
  let candidate ← validateFeature context.features.analogEvents context.validateAnalogEvents
    candidate
  let candidate ← validateFeature context.features.analogOutputFailSafe
    context.validateAnalogFailSafe candidate
  let candidate ← validateFeature context.features.analogConditioning context.validateConditioning
    candidate
  context.validateExtensionSlots candidate slotOrder
  return candidate

end BindContext

namespace Device

/-- The context of one bind of this Device to `od`. -/
def bindContext (device : Device) (features : Features) (access : OdAccess) (od : Nat)
    (memory : Memory) : BindContext where
  features := features
  access := access
  config := device.config
  capabilities := device.capabilities
  logicalDevice := device.logicalDevice
  od := od
  memory := memory

/-- Take one own extension off the entry it is installed on. -/
def detach (features : Features) (bound : BoundOd) (memory : Memory) (owned : OwnExtension) :
    Memory :=
  let entry := bound.carrier owned
  if owned.compiled features && entry.bind memory.extension = some (.own owned) then
    memory.extensionInit entry none
  else memory

/-- The dictionary side of `detachOwnedExtensions`. -/
def detachMemory (features : Features) (bound : BoundOd) (memory : Memory) : Memory :=
  run (detach features bound) memory
    [.digitalOutput8, .analogOutput16, .digitalInput8, .digitalInputFilter8, .analogInput16,
      .analogInterruptSource]

/-- Forget the digital input events; the filter state is dirty after a fresh bind. -/
def clearDigitalInputEvents (enabled dirty : Bool) (device : Device) : Device :=
  if enabled then
    { device with
      digitalInputFilterDirty := dirty
      digitalInputEventTpdoPending := Bitmap.empty }
  else device

/-- Forget the analogue delta references and unsent events. -/
def clearAnalogInputEvents (enabled : Bool) (device : Device) : Device :=
  if enabled then
    { device with
      analogLastCommunicatedValid := fun _ => false
      analogInputEventTpdoPending := Bitmap.empty }
  else device

/-- The Device side of `detachOwnedExtensions`. -/
def detachState (features : Features) (device : Device) : Device :=
  clearAnalogInputEvents features.analogEvents
    (clearDigitalInputEvents features.digitalEvents false device)

/-- A failed rebind leaves nothing of the previous generation reachable. -/
def unbind (features : Features) (device : Device) : Device :=
  { detachState features device with odBound := false }

/-- Fill one own extension and install it on its object. -/
def install (features : Features) (candidate : BoundOd) (state : Device × Memory)
    (owned : OwnExtension) : Device × Memory :=
  if owned.installed features state.1.config then
    ({ state.1 with extensions := Function.update state.1.extensions owned owned.hooks },
      state.2.extensionInit (candidate.carrier owned) (some (.own owned)))
  else state

/-- The input bookkeeping of a fresh binding. -/
def resetInputEvents (features : Features) (device : Device) : Device :=
  clearAnalogInputEvents (features.analogEvents && device.config.analogInputChannels ≠ 0)
    (clearDigitalInputEvents (features.digitalEvents && device.config.digitalInputBanks ≠ 0) true
      device)

/-- Publish a validated candidate. The bookkeeping and the hooks are disjoint. -/
def publish (features : Features) (candidate : BoundOd) (device : Device) (memory : Memory) :
    Device × Memory :=
  let (device, memory) :=
    run (install features candidate) ({ device with bound := candidate }, memory)
      BindContext.slotOrder
  ({ resetInputEvents features device with odBound := true }, memory)

/-- `CO_401_device_bindOD`. -/
def bindOD (features : Features) (access : OdAccess) (device : Device) (memory : Memory) :
    (Device × Memory) × InitDiag :=
  let memory := detachMemory features device.bound memory
  let device := unbind features device
  match device.od with
  | none => ((device, memory), ⟨.badArgument, 0, 0, device.logicalDevice⟩)
  | some od =>
      match (device.bindContext features access od memory).validate with
      | .error diag => ((device, memory), diag)
      | .ok candidate =>
          (publish features candidate device memory, ⟨.ok, 0, 0, device.logicalDevice⟩)

end Device

def validCount (count : Nat) : Bool := count ≤ processImageCountMax

def capabilitiesFromConfig (config : DeviceConfig) : BitVec 8 :=
  (if config.digitalInputBanks ≠ 0 then capDigitalInput else 0#8) |||
    (if config.digitalOutputBanks ≠ 0 then capDigitalOutput else 0#8) |||
    (if config.analogInputChannels ≠ 0 then capAnalogInput else 0#8) |||
    (if config.analogOutputChannels ≠ 0 then capAnalogOutput else 0#8)

/-- Every sub-index of an event object must have a bit in the request bitmap. -/
def Features.requestable (features : Features) (count : Nat) : Bool :=
  features.odFlagsPdoSize * 8 ≠ 0 && count < features.odFlagsPdoSize * 8

def validateConfig (features : Features) (config : DeviceConfig) (capabilities : BitVec 8) :
    InitError :=
  match config.io with
  | none => .config
  | some io =>
      if capabilities = 0#8 || !logicalDeviceValid config.logicalDevice then .config
      else if !validCount config.digitalInputBanks || !validCount config.digitalOutputBanks ||
          !validCount config.analogInputChannels || !validCount config.analogOutputChannels then
        .config
      else if config.digitalInputBanks ≠ 0 && !io.readDigital8 then .ioIf
      else if features.digitalEvents && config.digitalInputBanks ≠ 0 &&
          !features.requestable config.digitalInputBanks then .config
      else if features.digitalEvents && config.digitalInputBanks ≠ 0 &&
          !io.setDigitalInputFilter8 then .ioIf
      else if config.digitalOutputBanks ≠ 0 && !io.writeDigital8 then .ioIf
      else if features.digitalOutputFailSafe && config.digitalOutputBanks ≠ 0 &&
          !io.writeDigital8Masked then .ioIf
      else if config.analogInputChannels ≠ 0 && !io.readAnalog16 then .ioIf
      else if features.analogEvents && config.analogInputChannels ≠ 0 &&
          !features.requestable config.analogInputChannels then .config
      else if config.analogOutputChannels ≠ 0 && !io.writeAnalog16 then .ioIf
      else .ok

/-- `CO_401_device_init`. Every failure before the bind leaves the cleared record. -/
def Device.init (features : Features) (access : OdAccess) (od : Option Nat)
    (config : Option DeviceConfig) (memory : Memory) : (Device × Memory) × InitDiag :=
  match od, config with
  | some od, some config =>
      let capabilities := capabilitiesFromConfig config
      let result := validateConfig features config capabilities
      if result ≠ .ok then (({}, memory), ⟨result, 0, 0, config.logicalDevice⟩)
      else
        bindOD features access
          { od := some od
            config := config
            capabilities := capabilities
            logicalDevice := config.logicalDevice
            odBase := profileIndex config.logicalDevice Profile.odBase } memory
  | _, config => (({}, memory), ⟨.badArgument, 0, 0, (config.map (·.logicalDevice)).getD 0⟩)

/-- A generated VAR of one sub-index. -/
def OdShape.variable (length : Nat) (attributes : BitVec 8) : OdShape where
  odObjectType := odObjectTypeVar
  subEntriesCount := 1
  sub := fun subIndex => if subIndex = 0 then some ⟨true, length, attributes⟩ else none
  dataElementSizeof := length

/-- A generated ARRAY with its count in sub-index zero. -/
def OdShape.array (count length : Nat) (attributes : BitVec 8) : OdShape where
  odObjectType := odObjectTypeArray
  subEntriesCount := count + 1
  sub := fun subIndex =>
    if subIndex = 0 then some ⟨true, 1, odaSdoR⟩
    else if subIndex ≤ count then some ⟨true, length, attributes⟩
    else none
  dataElementSizeof := length

end CanopenRtt.Cia401
