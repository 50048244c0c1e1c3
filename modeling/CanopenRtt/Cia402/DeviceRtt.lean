import CanopenRtt.Cia402.Device.Manager
import CanopenRtt.Lifecycle.Registry
/-!
# The lifecycle adapter of the CiA 402 Device

`profile/cia402/port/rtthread/CO_402_device_RTT.c`, with the SYNC fast path and the EMCY bridge. The
dictionary is passed along, as its extension slots outlive a generation.
-/

namespace CanopenRtt.Cia402.Device

open CanopenRtt.Lifecycle

/-- What the adapter tells the Emergency object of the current stack. -/
inductive EmcyCall where
  | errorReport (errorBit : BitVec 8) (errorCode : BitVec 16) (infoCode : BitVec 32)
  | errorReset (errorBit : BitVec 8) (infoCode : BitVec 32)
  deriving DecidableEq, Repr

def emcyCall (event : DiagEvent) : Option EmcyCall :=
  match event.type with
  | .report => some (.errorReport event.errorBit event.fault.emcyCode event.fault.infoCode)
  | .reset => some (.errorReset event.errorBit event.fault.infoCode)
  | .none => none

/-- `CO_402_device_RTT_t`; there is a manager exactly while `managerInitialized` is set. -/
structure DeviceRtt where
  config : List AxisConfig
  manager : Option Manager := none
  communicationReady : Bool := false

/-- `OD_extension_init` with NULL on the entry with this index. -/
def odExtensionRemove (od : ObjectDictionary) (index : Nat) : ObjectDictionary :=
  od.map fun entry => if entry.index = index then { entry with extension := none } else entry

/-- Detach one extension of an axis, if the entry still points to it. -/
def releaseExtension (slot : ObjectSlot) (owner : LogicalDevice → ExtensionOwner) (axis : Axis)
    (od : ObjectDictionary) : ObjectDictionary :=
  if cachedExtension od axis slot = some (owner axis.logicalDevice) then
    odExtensionRemove od ((axis.od slot).getD 0)
  else od

/-- The loop body of `CO_402_device_RTT_unbindOwnedExtensions`. -/
def unbindAxis (od : ObjectDictionary) (axis : Axis) : ObjectDictionary :=
  releaseExtension .modesOfOperation .mode axis (releaseExtension .controlword .controlword axis od)

/-- The loop body of `CO_402_device_RTT_flushDiagnostics`. -/
def drainAxis (axis : Axis) : Axis × List EmcyCall :=
  let taken := takePendingEvent axis
  (taken.1, (taken.2.bind emcyCall).toList)

/-- What the dictionary answers to a bind. -/
structure BindAnswers where
  generated : LogicalDevice → ODImage := fun _ => {}
  writes : LogicalDevice → BindWrites := fun _ => {}
  written : LogicalDevice → Bool × Bool := fun _ => (true, true)

namespace DeviceRtt

/-- `CO_402_device_RTT_flushDiagnostics`. -/
def flushDiagnostics (runtime : DeviceRtt) : DeviceRtt × List EmcyCall :=
  match runtime.manager with
  | none => (runtime, [])
  | some manager =>
      ({ runtime with
          manager := some { manager with
            axes := manager.axes.map fun axis => (drainAxis axis).1 } },
        manager.axes.flatMap fun axis => (drainAxis axis).2)

def unbindOwnedExtensions (od : ObjectDictionary) (runtime : DeviceRtt) :
    DeviceRtt × ObjectDictionary :=
  match runtime.manager with
  | none => (runtime, od)
  | some manager =>
      let od := manager.axes.foldl unbindAxis od
      ({ runtime with manager := some { manager with od := od, odBound := false } }, od)

/-- `CO_402_device_RTT_processPassLocked`. `canNormal` says that the stack has a configured node-ID
and that its CAN module is in normal mode. -/
def processPassLocked (inputs : LogicalDevice → PassInputs) (stack canNormal : Bool)
    (runtime : DeviceRtt) : DeviceRtt × List EmcyCall :=
  if !runtime.communicationReady || !stack || !canNormal then (runtime, [])
  else
    match runtime.manager with
    | none => (runtime, [])
    | some manager =>
        { runtime with manager := some (process inputs manager) }.flushDiagnostics

def onCommunicationStop (runtime : DeviceRtt) : DeviceRtt :=
  { runtime with communicationReady := false }

def onCommunicationQuiesced (od : ObjectDictionary) (runtime : DeviceRtt) :
    DeviceRtt × ObjectDictionary :=
  runtime.unbindOwnedExtensions od

/-- `CO_402_device_RTT_onCommunicationBind`: a first bind initialises the manager, a later one keeps
the state of the drive. -/
def onCommunicationBind (answers : BindAnswers) (od : ObjectDictionary) (runtime : DeviceRtt) :
    DeviceRtt × ObjectDictionary × RtErr :=
  match runtime.manager with
  | none =>
      match managerInit od answers.generated runtime.config answers.writes answers.written with
      | (some manager, diag) =>
          if diag.error = .ok then ({ runtime with manager := some manager }, manager.od, .ok)
          else (runtime, manager.od, .error)
      | (none, _) => (runtime, od, .error)
  | some manager =>
      let bound := bindOD answers.writes { manager with od := od }
      if bound.2.error = .ok then
        ({ runtime with manager := some (onCommunicationReset bound.1) }, bound.1.od, .ok)
      else ({ runtime with manager := some bound.1 }, bound.1.od, .error)

/-- `CO_402_device_RTT_onCommunicationReady`: an active diagnostic is reported again. -/
def onCommunicationReady (runtime : DeviceRtt) : DeviceRtt × List EmcyCall :=
  { runtime with communicationReady := true }.flushDiagnostics

def onSynchronousProcess (inputs : LogicalDevice → SyncInputs) (runtime : DeviceRtt) :
    DeviceRtt :=
  match runtime.manager with
  | none => runtime
  | some manager =>
      if runtime.communicationReady && manager.odBound then
        { runtime with manager := some (processSyncLocked inputs manager).1 }
      else runtime

def onRuntimeDeinit (runtime : DeviceRtt) : DeviceRtt :=
  { runtime with communicationReady := false, manager := none }

end DeviceRtt

/-! ## What an Emergency object knows -/

def EmcyCall.errorBit : EmcyCall → BitVec 8
  | .errorReport errorBit _ _ => errorBit
  | .errorReset errorBit _ => errorBit

/-- The bit after a call: a report sets it, a reset clears it. -/
def EmcyCall.status (errorBit : BitVec 8) (set : Bool) (call : EmcyCall) : Bool :=
  if call.errorBit = errorBit then
    match call with
    | .errorReport .. => true
    | .errorReset .. => false
  else set

/-- An error-status bit of an Emergency object after some calls. -/
def errorStatus (errorBit : BitVec 8) (calls : List EmcyCall) : Bool :=
  Support.run (EmcyCall.status errorBit) false calls

end CanopenRtt.Cia402.Device
