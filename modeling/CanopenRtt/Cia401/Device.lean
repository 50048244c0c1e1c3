import CanopenRtt.Cia401.Dictionary
import CanopenRtt.Profile.Layout
import CanopenRtt.Support.Bitmap
/-!
# The CiA 401 Device record

`CO_401_device.h`, `CO_401_io.h`, `CO_401_defs.h` and the setters of
`CO_401_device.c`. The record carries the fields of every build; a function
touches the ones its build compiles.
-/

namespace CanopenRtt.Cia401

open CanopenRtt.Profile CanopenRtt.Support

/-- The `PKG_CANOPENNODE_CIA401_*` switches and `OD_FLAGS_PDO_SIZE` of one build. -/
structure Features where
  digitalEvents : Bool
  digitalOutputFailSafe : Bool
  analogEvents : Bool
  analogOutputFailSafe : Bool
  analogConditioning : Bool
  odFlagsPdoSize : Nat
  deriving DecidableEq, Repr

def Features.outputFailSafe (features : Features) : Bool :=
  features.digitalOutputFailSafe || features.analogOutputFailSafe

inductive IoResult where
  | ok
  | busy
  | error
  deriving DecidableEq, Repr

/-- Which callbacks of `CO_401_io_if_t` are set. -/
structure IoIf where
  readDigital8 : Bool := true
  writeDigital8 : Bool := true
  readAnalog16 : Bool := true
  writeAnalog16 : Bool := true
  setDigitalInputFilter8 : Bool := true
  writeDigital8Masked : Bool := true
  deriving DecidableEq, Repr

structure DeviceConfig where
  io : Option IoIf := none
  digitalInputBanks : Nat := 0
  digitalOutputBanks : Nat := 0
  analogInputChannels : Nat := 0
  analogOutputChannels : Nat := 0
  logicalDevice : Nat := 0
  deriving DecidableEq, Repr

/-- `CO_401_device_od_t`; a NULL pointer is `none`. -/
structure BoundOd where
  deviceType : Option OdEntry := none
  digitalInput8 : Option OdEntry := none
  digitalOutput8 : Option OdEntry := none
  analogInput16 : Option OdEntry := none
  analogOutput16 : Option OdEntry := none
  analogInterruptEnable : Option OdEntry := none
  analogInterruptTrigger : Option OdEntry := none
  analogInterruptSource : Option OdEntry := none
  analogInterruptUpper32 : Option OdEntry := none
  analogInterruptLower32 : Option OdEntry := none
  analogInterruptDeltaU32 : Option OdEntry := none
  analogInterruptNegDeltaU32 : Option OdEntry := none
  analogInterruptPosDeltaU32 : Option OdEntry := none
  analogOutputErrorMode : Option OdEntry := none
  analogOutputErrorValue32 : Option OdEntry := none
  analogInputSiUnit : Option OdEntry := none
  analogInputOffset32 : Option OdEntry := none
  analogInputPrescaling32 : Option OdEntry := none
  analogOutputOffset32 : Option OdEntry := none
  analogOutputScaling32 : Option OdEntry := none
  analogOutputSiUnit : Option OdEntry := none
  digitalInputPolarity8 : Option OdEntry := none
  digitalInputFilter8 : Option OdEntry := none
  digitalInterruptEnable : Option OdEntry := none
  digitalInterruptAny8 : Option OdEntry := none
  digitalInterruptRising8 : Option OdEntry := none
  digitalInterruptFalling8 : Option OdEntry := none
  digitalOutputPolarity8 : Option OdEntry := none
  digitalOutputErrorMode8 : Option OdEntry := none
  digitalOutputErrorValue8 : Option OdEntry := none
  digitalOutputFilter8 : Option OdEntry := none
  deriving DecidableEq, Repr

inductive ReadHook where
  | original
  | analogInput16
  | analogInterruptSource
  deriving DecidableEq, Repr

inductive WriteHook where
  | original
  | digitalInputFilter
  | outputCommand
  deriving DecidableEq, Repr

/-- One `OD_extension_t`: whether its object is set, and its hooks. -/
structure Extension where
  object : Bool := false
  read : Option ReadHook := none
  write : Option WriteHook := none
  deriving DecidableEq, Repr

/-- The object that carries each own extension. -/
def BoundOd.carrier (bound : BoundOd) : OwnExtension → Option OdEntry
  | .digitalInput8 => bound.digitalInput8
  | .digitalInputFilter8 => bound.digitalInputFilter8
  | .digitalOutput8 => bound.digitalOutput8
  | .analogInput16 => bound.analogInput16
  | .analogInterruptSource => bound.analogInterruptSource
  | .analogOutput16 => bound.analogOutput16

/-- `CO_401_device_t`; the defaults are the cleared record. -/
structure Device where
  od : Option Nat := none
  config : DeviceConfig := {}
  capabilities : BitVec 8 := 0#8
  bound : BoundOd := {}
  odBound : Bool := false
  extensions : OwnExtension → Extension := fun _ => {}
  digitalInputFilterDirty : Bool := false
  digitalInputEventTpdoPending : Bitmap := Bitmap.empty
  digitalOutputFaultActive : Bool := false
  nmtOperational : Bool := false
  errorEventPending : Bool := false
  pendingErrorCode : BitVec 16 := 0#16
  analogLastCommunicated : Nat → BitVec 16 := fun _ => 0#16
  analogLastCommunicatedValid : Nat → Bool := fun _ => false
  analogInputEventTpdoPending : Bitmap := Bitmap.empty
  sdoReadMatch : Bool := false
  analogOutputFaultActive : Bool := false
  nmtStopped : Bool := false
  outputSupervisionReady : Bool := false
  outputSupervisionProbe : Bool := false
  communicationFaultActive : Bool := false
  failSafeOutputApplyComplete : Bool := false
  logicalDevice : Nat := 0
  odBase : Nat := 0

inductive InitError where
  | ok
  | badArgument
  | config
  | ioIf
  | odMissing
  | odUnexpected
  | odType
  | odLength
  | odAccess
  | odSubCount
  | odSubValue
  | deviceType
  deriving DecidableEq, Repr

/-- `CO_401_init_diag_t`. -/
structure InitDiag where
  error : InitError
  index : Nat
  subIndex : Nat
  logicalDevice : Nat
  deriving DecidableEq, Repr

def processImageCountMax : Nat := 0xFE

def indexDeviceType : Nat := 0x1000
def indexDigitalInput8 : Nat := 0x6000
def indexDigitalInputPolarity8 : Nat := 0x6002
def indexDigitalInputFilter8 : Nat := 0x6003
def indexDigitalInterruptEnable : Nat := 0x6005
def indexDigitalInterruptAny8 : Nat := 0x6006
def indexDigitalInterruptRising8 : Nat := 0x6007
def indexDigitalInterruptFalling8 : Nat := 0x6008
def indexDigitalOutput8 : Nat := 0x6200
def indexDigitalOutputPolarity8 : Nat := 0x6202
def indexDigitalOutputErrorMode8 : Nat := 0x6206
def indexDigitalOutputErrorValue8 : Nat := 0x6207
def indexDigitalOutputFilter8 : Nat := 0x6208
def indexAnalogInput16 : Nat := 0x6401
def indexAnalogOutput16 : Nat := 0x6411
def indexAnalogInterruptTrigger : Nat := 0x6421
def indexAnalogInterruptSource : Nat := 0x6422
def indexAnalogInterruptEnable : Nat := 0x6423
def indexAnalogInterruptUpper32 : Nat := 0x6424
def indexAnalogInterruptLower32 : Nat := 0x6425
def indexAnalogInterruptDeltaU32 : Nat := 0x6426
def indexAnalogInterruptNegDeltaU32 : Nat := 0x6427
def indexAnalogInterruptPosDeltaU32 : Nat := 0x6428
def indexAnalogInputSiUnit : Nat := 0x6430
def indexAnalogInputOffset32 : Nat := 0x6431
def indexAnalogInputPrescaling32 : Nat := 0x6432
def indexAnalogOutputErrorMode : Nat := 0x6443
def indexAnalogOutputErrorValue32 : Nat := 0x6444
def indexAnalogOutputOffset32 : Nat := 0x6446
def indexAnalogOutputScaling32 : Nat := 0x6447
def indexAnalogOutputSiUnit : Nat := 0x6450

/-- The parameters an analogue input is conditioned and compared with. -/
def BoundOd.analogParameters (bound : BoundOd) : List (Option OdEntry × Nat) :=
  [(bound.analogInterruptTrigger, indexAnalogInterruptTrigger),
    (bound.analogInterruptUpper32, indexAnalogInterruptUpper32),
    (bound.analogInterruptLower32, indexAnalogInterruptLower32),
    (bound.analogInterruptDeltaU32, indexAnalogInterruptDeltaU32),
    (bound.analogInterruptNegDeltaU32, indexAnalogInterruptNegDeltaU32),
    (bound.analogInterruptPosDeltaU32, indexAnalogInterruptPosDeltaU32),
    (bound.analogInputOffset32, indexAnalogInputOffset32),
    (bound.analogInputPrescaling32, indexAnalogInputPrescaling32)]

/-- The objects an analogue event is decided and latched with. -/
def BoundOd.analogEventObjects (bound : BoundOd) : List (Option OdEntry × Nat) :=
  [(bound.analogInput16, indexAnalogInput16),
    (bound.analogInterruptEnable, indexAnalogInterruptEnable),
    (bound.analogInterruptTrigger, indexAnalogInterruptTrigger),
    (bound.analogInterruptSource, indexAnalogInterruptSource),
    (bound.analogInterruptUpper32, indexAnalogInterruptUpper32),
    (bound.analogInterruptLower32, indexAnalogInterruptLower32),
    (bound.analogInterruptDeltaU32, indexAnalogInterruptDeltaU32),
    (bound.analogInterruptNegDeltaU32, indexAnalogInterruptNegDeltaU32),
    (bound.analogInterruptPosDeltaU32, indexAnalogInterruptPosDeltaU32)]

namespace OwnExtension

def canonicalIndex : OwnExtension → Nat
  | digitalInput8 => indexDigitalInput8
  | digitalInputFilter8 => indexDigitalInputFilter8
  | digitalOutput8 => indexDigitalOutput8
  | analogInput16 => indexAnalogInput16
  | analogInterruptSource => indexAnalogInterruptSource
  | analogOutput16 => indexAnalogOutput16

/-- Whether a build handles the extension at all. -/
def compiled (features : Features) : OwnExtension → Bool
  | digitalInput8 | digitalInputFilter8 => features.digitalEvents
  | analogInput16 | analogInterruptSource => features.analogEvents
  | digitalOutput8 | analogOutput16 => true

/-- The configured size of the capability behind the extension. -/
def count (config : DeviceConfig) : OwnExtension → Nat
  | digitalInput8 | digitalInputFilter8 => config.digitalInputBanks
  | analogInput16 | analogInterruptSource => config.analogInputChannels
  | digitalOutput8 => config.digitalOutputBanks
  | analogOutput16 => config.analogOutputChannels

/-- The contents `initializeExtension` gives the extension. -/
def hooks : OwnExtension → Extension
  | digitalInput8 => ⟨true, some .original, some .original⟩
  | digitalInputFilter8 => ⟨true, some .original, some .digitalInputFilter⟩
  | digitalOutput8 | analogOutput16 => ⟨true, some .original, some .outputCommand⟩
  | analogInput16 => ⟨true, some .analogInput16, some .original⟩
  | analogInterruptSource => ⟨true, some .analogInterruptSource, some .original⟩

/-- Whether a bind installs the extension. -/
def installed (features : Features) (config : DeviceConfig) (owned : OwnExtension) : Bool :=
  owned.compiled features && owned.count config ≠ 0

end OwnExtension

def capDigitalInput : BitVec 8 := 0x01#8
def capDigitalOutput : BitVec 8 := 0x02#8
def capAnalogInput : BitVec 8 := 0x04#8
def capAnalogOutput : BitVec 8 := 0x08#8

/-- The Device type object value of one capability set. -/
def deviceTypeForCapabilities (capabilities : BitVec 8) : BitVec 32 :=
  401#32 |||
    (if capabilities &&& capDigitalInput ≠ 0#8 then 0x00010000#32 else 0#32) |||
    (if capabilities &&& capDigitalOutput ≠ 0#8 then 0x00020000#32 else 0#32) |||
    (if capabilities &&& capAnalogInput ≠ 0#8 then 0x00040000#32 else 0#32) |||
    (if capabilities &&& capAnalogOutput ≠ 0#8 then 0x00080000#32 else 0#32)

/-- The number of 0x6422 sub-entries. -/
def DeviceConfig.sourceBanks (config : DeviceConfig) : Nat :=
  (config.analogInputChannels + 31) / 32

namespace Device

def notifyOutputSupervision (device : Device) : Device :=
  { device with outputSupervisionReady := true }

def setOutputSupervisionProbe (device : Device) (probe : Bool) : Device :=
  { device with outputSupervisionProbe := probe }

def setDigitalOutputFault (device : Device) (active : Bool) : Device :=
  { device with digitalOutputFaultActive := active }

def setAnalogOutputFault (device : Device) (active : Bool) : Device :=
  { device with analogOutputFaultActive := active }

def setNmtStopped (device : Device) (stopped : Bool) : Device :=
  { device with nmtStopped := stopped }

def setCommunicationFault (device : Device) (active : Bool) : Device :=
  { device with communicationFaultActive := active }

def setSdoReadMatcher (device : Device) (matcher : Bool) : Device :=
  { device with sdoReadMatch := matcher }

/-- The 0x0080 warning is raised on the edge into Operational with 0x6423 off. -/
def setNmtOperational (access : OdAccess) (memory : Memory) (device : Device)
    (operational : Bool) : Device :=
  let device :=
    if operational && !device.nmtOperational && device.odBound &&
        device.bound.analogInterruptEnable.isSome &&
        memory.getU8 access device.bound.analogInterruptEnable 0 = some 0#8 &&
        !device.errorEventPending then
      { device with pendingErrorCode := 0x0080#16, errorEventPending := true }
    else device
  { device with nmtOperational := operational }

/-- The error event handed to the bridge, if one is pending. -/
def takeErrorEvent (device : Device) : Device × Option (BitVec 16) :=
  if device.errorEventPending then
    ({ device with pendingErrorCode := 0#16, errorEventPending := false },
      some device.pendingErrorCode)
  else (device, none)

def resetCommunicationState (device : Device) : Device :=
  { device with
    nmtOperational := false
    pendingErrorCode := 0#16
    errorEventPending := false }

def retireDigitalInputTpdoEvent (device : Device) (subIndex : Nat) : Device :=
  if subIndex = 0 || device.config.digitalInputBanks < subIndex then device
  else
    { device with
      digitalInputEventTpdoPending := device.digitalInputEventTpdoPending.clear (subIndex - 1) }

def commitAnalogInputCommunication (device : Device) (subIndex : Nat) (value : BitVec 16) :
    Device :=
  if subIndex = 0 || device.config.analogInputChannels < subIndex then device
  else
    { device with
      analogLastCommunicated := Function.update device.analogLastCommunicated (subIndex - 1) value
      analogLastCommunicatedValid :=
        Function.update device.analogLastCommunicatedValid (subIndex - 1) true }

def retireAnalogInputTpdoEvent (device : Device) (subIndex : Nat) : Device :=
  if subIndex = 0 || device.config.analogInputChannels < subIndex then device
  else
    { device with
      analogInputEventTpdoPending := device.analogInputEventTpdoPending.clear (subIndex - 1) }

def commitAnalogInputTpdoCommunication (device : Device) (subIndex : Nat) (value : BitVec 16) :
    Device :=
  (device.commitAnalogInputCommunication subIndex value).retireAnalogInputTpdoEvent subIndex

/-- Only the communicated bits are cleared, so later latched ones stay. -/
def commitAnalogSourceCommunication (access : OdAccess) (device : Device) (memory : Memory)
    (subIndex : Nat) (communicatedBits : BitVec 32) : Memory :=
  if !device.odBound || device.bound.analogInterruptSource.isNone || subIndex = 0 ||
      communicatedBits = 0#32 then memory
  else
    match memory.getU32 access device.bound.analogInterruptSource subIndex with
    | none => memory
    | some current =>
        (memory.setU32 access device.bound.analogInterruptSource subIndex
          (current &&& ~~~communicatedBits)).getD memory

end Device

end CanopenRtt.Cia401
