import CanopenRtt.Cia401.Device
import CanopenRtt.Support.Run
/-!
# One pass of the CiA 401 Device core

`CO_401_digital.c`, `CO_401_analog.c` and `CO_401_device_process`. A loop over
banks or channels is a run over their numbers. The product answers each callback
at most once per bank or channel in a pass.
-/

namespace CanopenRtt.Cia401

open CanopenRtt.Support

/-- The answers of the product callbacks during one pass. -/
structure Product where
  readDigital8 : Nat → IoResult × BitVec 8
  writeDigital8 : Nat → BitVec 8 → IoResult
  writeDigital8Masked : Nat → BitVec 8 → BitVec 8 → IoResult
  readAnalog16 : Nat → IoResult × BitVec 16
  writeAnalog16 : Nat → BitVec 16 → IoResult
  setDigitalInputFilter8 : Nat → BitVec 8 → IoResult

structure PassEnv where
  features : Features
  access : OdAccess
  product : Product

/-- The value of a product read that completed. -/
def completed {α : Type} (answer : IoResult × α) : Option α :=
  if answer.1 = .ok then some answer.2 else none

/-- What a pass asks of its surroundings. -/
inductive Effect where
  | requestTPDO (entry : OdEntry) (subIndex : Nat)
  | setDigitalInputFilter8 (bank : Nat) (enabledMask : BitVec 8)
  | writeDigital8 (bank : Nat) (value : BitVec 8)
  | writeDigital8Masked (bank : Nat) (value mask : BitVec 8)
  | writeAnalog16 (channel : Nat) (value : BitVec 16)
  deriving DecidableEq, Repr

structure Pass where
  device : Device
  memory : Memory
  effects : List Effect

namespace Pass

def emit (pass : Pass) (effect : Effect) : Pass :=
  { pass with effects := pass.effects ++ [effect] }

/-- `OD_requestTPDO`; the request bitmap lives in the entry's extension. -/
def requestTPDO (pass : Pass) (entry : Option OdEntry) (subIndex : Nat) : Pass :=
  match entry with
  | none => pass
  | some entry =>
      if (pass.memory.extension entry).isSome then pass.emit (.requestTPDO entry subIndex)
      else pass

/-- An original write whose result the source ignores. -/
def put (pass : Pass) (written : Option Memory) : Pass :=
  { pass with memory := written.getD pass.memory }

/-- The configured callback table; a pass never starts without one. -/
def io (pass : Pass) : IoIf :=
  pass.device.config.io.getD ⟨false, false, false, false, false, false⟩

def clearApplyComplete (pass : Pass) : Pass :=
  { pass with device := { pass.device with failSafeOutputApplyComplete := false } }

/-! ### Digital inputs -/

/-- The body of the 0x6003 forwarding loop, with its `allApplied` flag. -/
def forwardInputFilterBank (env : PassEnv) (state : Pass × Bool) (bank : Nat) : Pass × Bool :=
  let (pass, allApplied) := state
  match pass.memory.getU8 env.access pass.device.bound.digitalInputFilter8 (bank + 1) with
  | none => (pass, false)
  | some enabledMask =>
      let pass := pass.emit (.setDigitalInputFilter8 bank enabledMask)
      if env.product.setDigitalInputFilter8 bank enabledMask ≠ .ok then (pass, false)
      else (pass, allApplied)

def forwardInputFilterConfiguration (env : PassEnv) (pass : Pass) : Pass × Bool :=
  if !pass.device.digitalInputFilterDirty then (pass, true)
  else if pass.device.bound.digitalInputFilter8.isNone || !pass.io.setDigitalInputFilter8 then
    (pass, false)
  else
    let (pass, allApplied) :=
      run (forwardInputFilterBank env) (pass, true)
        (List.range pass.device.config.digitalInputBanks)
    if allApplied then
      ({ pass with device := { pass.device with digitalInputFilterDirty := false } }, true)
    else (pass, false)

structure InputEventConfiguration where
  polarity : BitVec 8
  anyMask : BitVec 8
  risingMask : BitVec 8
  fallingMask : BitVec 8

def getInputEventConfiguration (env : PassEnv) (pass : Pass) (subIndex : Nat) :
    Option InputEventConfiguration := do
  let bound := pass.device.bound
  let polarity ← pass.memory.getU8 env.access bound.digitalInputPolarity8 subIndex
  let anyMask ← pass.memory.getU8 env.access bound.digitalInterruptAny8 subIndex
  let risingMask ← pass.memory.getU8 env.access bound.digitalInterruptRising8 subIndex
  let fallingMask ← pass.memory.getU8 env.access bound.digitalInterruptFalling8 subIndex
  return ⟨polarity, anyMask, risingMask, fallingMask⟩

def requestPendingDigitalInputTpdo (pass : Pass) (bank : Nat) : Pass :=
  if pass.device.digitalInputEventTpdoPending.test bank then
    pass.requestTPDO pass.device.bound.digitalInput8 (bank + 1)
  else pass

/-- The input bits of one bank that fire an event. -/
def digitalEventBits (configuration : InputEventConfiguration) (previous value : BitVec 8) :
    BitVec 8 :=
  let changed := previous ^^^ value
  let rising := ~~~previous &&& value
  let falling := previous &&& ~~~value
  changed &&& configuration.anyMask ||| rising &&& configuration.risingMask |||
    falling &&& configuration.fallingMask

/-- Mark a fired digital event and request its TPDO. -/
def latchDigitalEvent (pass : Pass) (bank : Nat) : Pass :=
  let device :=
    { pass.device with
      digitalInputEventTpdoPending := pass.device.digitalInputEventTpdoPending.set bank }
  requestPendingDigitalInputTpdo { pass with device := device } bank

/-- One bank of an event build, after its input was read. -/
def storeDigitalInput (env : PassEnv) (interruptEnable : BitVec 8) (pass : Pass) (bank : Nat)
    (raw : BitVec 8) : Pass :=
  match pass.memory.getU8 env.access pass.device.bound.digitalInput8 (bank + 1) with
  | none => pass
  | some previous =>
      match getInputEventConfiguration env pass (bank + 1) with
      | none => pass
      | some configuration =>
          let value := raw ^^^ configuration.polarity
          match pass.memory.setU8 env.access pass.device.bound.digitalInput8 (bank + 1) value with
          | none => pass
          | some memory =>
              let pass := { pass with memory := memory }
              if interruptEnable ≠ 0#8 && digitalEventBits configuration previous value ≠ 0#8 then
                latchDigitalEvent pass bank
              else pass

def refreshDigitalInput (env : PassEnv) (interruptEnable : BitVec 8) (pass : Pass) (bank : Nat) :
    Pass :=
  let pass :=
    if env.features.digitalEvents then requestPendingDigitalInputTpdo pass bank else pass
  match completed (env.product.readDigital8 bank) with
  | none => pass
  | some raw =>
      if env.features.digitalEvents then storeDigitalInput env interruptEnable pass bank raw
      else pass.put (pass.memory.setU8 env.access pass.device.bound.digitalInput8 (bank + 1) raw)

/-- The bank loop of `CO_401_digital_refreshInputs`. -/
def refreshDigitalInputs (env : PassEnv) (interruptEnable : BitVec 8) (pass : Pass) : Pass :=
  run (refreshDigitalInput env interruptEnable) pass
    (List.range pass.device.config.digitalInputBanks)

/-- `CO_401_digital_refreshInputs`. -/
def digitalRefreshInputs (env : PassEnv) (pass : Pass) : Pass :=
  if !pass.device.odBound || !pass.io.readDigital8 || pass.device.bound.digitalInput8.isNone ||
      pass.device.config.digitalInputBanks = 0 then pass
  else if env.features.digitalEvents then
    match forwardInputFilterConfiguration env pass with
    | (pass, false) => pass
    | (pass, true) =>
        let interruptEnable :=
          (pass.memory.getU8 env.access pass.device.bound.digitalInterruptEnable 0).getD 0#8
        refreshDigitalInputs env interruptEnable pass
  else refreshDigitalInputs env 0#8 pass

/-! ### Analogue inputs -/

/-- `base * scaling + offset` in `int64_t`, rejected outside the process value range. -/
def conditionProcess16Checked (base : BitVec 16) (scaling offset : BitVec 32) :
    Option (BitVec 16) :=
  let widened := base.signExtend 64 * scaling.signExtend 64 + offset.signExtend 64
  if widened.slt ((BitVec.intMin 16).signExtend 64) ||
      ((BitVec.intMax 16).signExtend 64).slt widened then none
  else some (widened.setWidth 16)

/-- Conditioning through the two parameters of one channel. -/
def applyConditioning (env : PassEnv) (memory : Memory) (offsetEntry scalingEntry : Option OdEntry)
    (subIndex : Nat) (value : BitVec 16) : Option (BitVec 16) :=
  if env.features.analogConditioning then do
    let offset ← memory.getU32 env.access offsetEntry subIndex
    let scaling ← memory.getU32 env.access scalingEntry subIndex
    conditionProcess16Checked value scaling offset
  else some value

def applyInputConditioning (env : PassEnv) (pass : Pass) (subIndex : Nat) (raw : BitVec 16) :
    Option (BitVec 16) :=
  applyConditioning env pass.memory pass.device.bound.analogInputOffset32
    pass.device.bound.analogInputPrescaling32 subIndex raw

def applyOutputConditioning (env : PassEnv) (pass : Pass) (subIndex : Nat) (command : BitVec 16) :
    Option (BitVec 16) :=
  applyConditioning env pass.memory pass.device.bound.analogOutputOffset32
    pass.device.bound.analogOutputScaling32 subIndex command

/-- A 16-bit process value on the left-adjusted INTEGER32 scale, in `int64_t`. -/
def leftAdjusted (value : BitVec 16) : BitVec 64 := value.signExtend 64 * 65536#64

/-- One enabled comparison whose threshold can be read. -/
def comparatorFires (trigger enableBit : BitVec 8) (threshold : Option (BitVec 32))
    (compare : BitVec 32 → Bool) : Bool :=
  trigger &&& enableBit ≠ 0#8 && threshold.any compare

/-- The comparisons of `latchAnalogEvent`. -/
def analogEventFires (env : PassEnv) (pass : Pass) (channel : Nat) (trigger : BitVec 8)
    (value : BitVec 16) : Bool :=
  let threshold := fun entry => pass.memory.getU32 env.access entry (channel + 1)
  let bound := pass.device.bound
  let current := leftAdjusted value
  let previous := leftAdjusted (pass.device.analogLastCommunicated channel)
  let rising := if previous.slt current then current - previous else 0#64
  let falling := if current.slt previous then previous - current else 0#64
  let absolute := if rising ≠ 0#64 then rising else falling
  trigger = 0#8 ||
    comparatorFires trigger 0x01#8 (threshold bound.analogInterruptUpper32)
      (fun upper => (upper.signExtend 64).sle current) ||
    comparatorFires trigger 0x02#8 (threshold bound.analogInterruptLower32)
      (fun lower => current.slt (lower.signExtend 64)) ||
    pass.device.analogLastCommunicatedValid channel &&
      (comparatorFires trigger 0x04#8 (threshold bound.analogInterruptDeltaU32)
          (fun delta => (delta.setWidth 64).ult absolute) ||
        comparatorFires trigger 0x08#8 (threshold bound.analogInterruptNegDeltaU32)
          (fun delta => (delta.setWidth 64).ult falling) ||
        comparatorFires trigger 0x10#8 (threshold bound.analogInterruptPosDeltaU32)
          (fun delta => (delta.setWidth 64).ult rising))

/-- The bit of one channel in its 0x6422 sub-entry. -/
def sourceBit (channel : Nat) : BitVec 32 := 1#32 <<< (channel % 32)

/-- Set the source bit and the retry marker of a fired channel. -/
def fireAnalogEvent (env : PassEnv) (pass : Pass) (channel : Nat) : Pass :=
  let source := pass.device.bound.analogInterruptSource
  let sourceSub := channel / 32 + 1
  let pass :=
    match pass.memory.getU32 env.access source sourceSub with
    | none => pass
    | some sources =>
        pass.put (pass.memory.setU32 env.access source sourceSub (sources ||| sourceBit channel))
  let device :=
    { pass.device with
      analogInputEventTpdoPending := pass.device.analogInputEventTpdoPending.set channel }
  { pass with device := device }

def latchAnalogEvent (env : PassEnv) (pass : Pass) (channel : Nat) (value : BitVec 16) : Pass :=
  match pass.memory.getU8 env.access pass.device.bound.analogInterruptEnable 0 with
  | none => pass
  | some enabled =>
      if enabled = 0#8 then pass
      else
        match pass.memory.getU8 env.access pass.device.bound.analogInterruptTrigger
            (channel + 1) with
        | none => pass
        | some trigger =>
            if analogEventFires env pass channel trigger value then
              fireAnalogEvent env pass channel
            else pass

def requestPendingAnalogInputTpdo (pass : Pass) (channel : Nat) : Pass :=
  if pass.device.analogInputEventTpdoPending.test channel then
    pass.requestTPDO pass.device.bound.analogInput16 (channel + 1)
  else pass

def requestPendingAnalogSourceTpdo (env : PassEnv) (pass : Pass) (bank : Nat) : Pass :=
  match pass.memory.getU32 env.access pass.device.bound.analogInterruptSource (bank + 1) with
  | none => pass
  | some sources =>
      if sources ≠ 0#32 then pass.requestTPDO pass.device.bound.analogInterruptSource (bank + 1)
      else pass

/-- One channel whose input was read. -/
def storeAnalogInput (env : PassEnv) (pass : Pass) (channel : Nat) (value : BitVec 16) : Pass :=
  let entry := pass.device.bound.analogInput16
  let previous := (pass.memory.getI16 env.access entry (channel + 1)).getD 0#16
  let pass := pass.put (pass.memory.setI16 env.access entry (channel + 1) value)
  if env.features.analogEvents && value ≠ previous then latchAnalogEvent env pass channel value
  else pass

/-- The conditioned input of one channel, when it was read and conditioned. -/
def analogSample (env : PassEnv) (pass : Pass) (channel : Nat) : Option (BitVec 16) :=
  (completed (env.product.readAnalog16 channel)).bind
    (applyInputConditioning env pass (channel + 1))

def refreshAnalogInput (env : PassEnv) (pass : Pass) (channel : Nat) : Pass :=
  let pass :=
    match analogSample env pass channel with
    | none => pass
    | some value => storeAnalogInput env pass channel value
  if env.features.analogEvents then requestPendingAnalogInputTpdo pass channel else pass

/-- `CO_401_analog_refreshInputs`. -/
def analogRefreshInputs (env : PassEnv) (pass : Pass) : Pass :=
  if !pass.device.odBound || !pass.io.readAnalog16 || pass.device.bound.analogInput16.isNone ||
      pass.device.config.analogInputChannels = 0 then pass
  else
    let pass := run (refreshAnalogInput env) pass
      (List.range pass.device.config.analogInputChannels)
    if env.features.analogEvents then
      run (requestPendingAnalogSourceTpdo env) pass (List.range pass.device.config.sourceBanks)
    else pass

/-! ### Outputs -/

def digitalFailSafeActive (device : Device) : Bool :=
  device.digitalOutputFaultActive || device.nmtStopped || device.communicationFaultActive

def analogFailSafeActive (device : Device) : Bool :=
  device.analogOutputFaultActive || device.nmtStopped || device.communicationFaultActive

/-- The error value of one bank, applied to the bits its mask selects. -/
def applyDigitalErrorValue (env : PassEnv) (pass : Pass) (bank : Nat)
    (polarity filterMask : BitVec 8) : Pass :=
  let bound := pass.device.bound
  match pass.memory.getU8 env.access bound.digitalOutputErrorMode8 (bank + 1),
      pass.memory.getU8 env.access bound.digitalOutputErrorValue8 (bank + 1) with
  | some errorMode, some errorValue =>
      let updateMask := errorMode &&& filterMask
      if updateMask = 0#8 then pass
      else
        let value := errorValue ^^^ polarity
        let written := pass.emit (.writeDigital8Masked bank value updateMask)
        if env.product.writeDigital8Masked bank value updateMask ≠ .ok then
          written.clearApplyComplete
        else written
  | _, _ => pass.clearApplyComplete

/-- The command image of one bank through polarity and output filter. -/
def applyDigitalCommand (pass : Pass) (bank : Nat) (command polarity filterMask : BitVec 8) :
    Pass :=
  let value := command ^^^ polarity
  if filterMask = 0#8 then pass
  else if filterMask ≠ BitVec.allOnes 8 then
    pass.emit (.writeDigital8Masked bank value filterMask)
  else pass.emit (.writeDigital8 bank value)

def applyDigitalOutput (env : PassEnv) (pass : Pass) (bank : Nat) : Pass :=
  let bound := pass.device.bound
  let get := fun entry => pass.memory.getU8 env.access entry (bank + 1)
  if env.features.digitalOutputFailSafe then
    let failSafeActive := digitalFailSafeActive pass.device
    match get bound.digitalOutput8, get bound.digitalOutputPolarity8,
        get bound.digitalOutputFilter8 with
    | some command, some polarity, some filterMask =>
        if failSafeActive then applyDigitalErrorValue env pass bank polarity filterMask
        else applyDigitalCommand pass bank command polarity filterMask
    | _, _, _ => if failSafeActive then pass.clearApplyComplete else pass
  else
    match get bound.digitalOutput8 with
    | none => pass
    | some command => pass.emit (.writeDigital8 bank command)

/-- `CO_401_digital_applyOutputs`. -/
def digitalApplyOutputs (env : PassEnv) (pass : Pass) : Pass :=
  if !pass.device.odBound || !pass.io.writeDigital8 || pass.device.bound.digitalOutput8.isNone ||
      pass.device.config.digitalOutputBanks = 0 then pass
  else run (applyDigitalOutput env) pass (List.range pass.device.config.digitalOutputBanks)

/-- `writeAnalog16`, whose failure only matters while fail-safe is active. -/
def writeAnalogOutput (env : PassEnv) (failSafeActive : Bool) (pass : Pass) (channel : Nat)
    (physical : BitVec 16) : Pass :=
  let written := pass.emit (.writeAnalog16 channel physical)
  if env.product.writeAnalog16 channel physical ≠ .ok && failSafeActive then
    written.clearApplyComplete
  else written

/-- The upper half of a left-adjusted INTEGER32 error value. -/
def physicalErrorValue (errorValue : BitVec 32) : BitVec 16 :=
  (errorValue.sshiftRight 16).setWidth 16

def applyAnalogErrorValue (env : PassEnv) (pass : Pass) (channel : Nat) : Pass :=
  let bound := pass.device.bound
  match pass.memory.getU8 env.access bound.analogOutputErrorMode (channel + 1) with
  | none => pass.clearApplyComplete
  | some errorMode =>
      if errorMode = 0#8 then pass
      else if errorMode = 1#8 then
        match pass.memory.getU32 env.access bound.analogOutputErrorValue32 (channel + 1) with
        | none => pass.clearApplyComplete
        | some errorValue =>
            writeAnalogOutput env true pass channel (physicalErrorValue errorValue)
      else pass.clearApplyComplete

def applyAnalogOutput (env : PassEnv) (pass : Pass) (channel : Nat) : Pass :=
  let failSafeActive := env.features.analogOutputFailSafe && analogFailSafeActive pass.device
  match pass.memory.getI16 env.access pass.device.bound.analogOutput16 (channel + 1) with
  | none => if failSafeActive then pass.clearApplyComplete else pass
  | some command =>
      if failSafeActive then applyAnalogErrorValue env pass channel
      else
        match applyOutputConditioning env pass (channel + 1) command with
        | none => pass
        | some physical => writeAnalogOutput env false pass channel physical

/-- `CO_401_analog_applyOutputs`. -/
def analogApplyOutputs (env : PassEnv) (pass : Pass) : Pass :=
  if !pass.device.odBound || !pass.io.writeAnalog16 || pass.device.bound.analogOutput16.isNone ||
      pass.device.config.analogOutputChannels = 0 then pass
  else run (applyAnalogOutput env) pass (List.range pass.device.config.analogOutputChannels)

end Pass

/-- The state a pass starts from, with its own completion flag. -/
def Device.beginPass (env : PassEnv) (device : Device) (memory : Memory) (complete : Bool) : Pass :=
  if env.features.outputFailSafe then
    ⟨{ device with failSafeOutputApplyComplete := complete }, memory, []⟩
  else ⟨device, memory, []⟩

/-- `CO_401_device_process`. -/
def Device.process (env : PassEnv) (device : Device) (memory : Memory) : Pass :=
  if !device.odBound || device.config.io.isNone then device.beginPass env memory false
  else
    Pass.analogApplyOutputs env (Pass.digitalApplyOutputs env
      (Pass.analogRefreshInputs env (Pass.digitalRefreshInputs env
        (device.beginPass env memory true))))

end CanopenRtt.Cia401
