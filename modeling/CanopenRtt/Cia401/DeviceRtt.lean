import CanopenRtt.Cia401.Calls
/-!
# The RT-Thread adapter of the CiA 401 Device

The lifecycle callbacks of `CO_401_device_RTT.c`. `onNmtStateChanged` and a
worker pass hold the lifecycle mutex, the lifecycle issues the others, so each
of them is one step. The stack of the current generation answers arbitrarily at
each step.
-/

namespace CanopenRtt.Cia401

open CanopenRtt.Support

/-- `CO_NMT_internalState_t`. -/
inductive NmtState where
  | unknown
  | initializing
  | preOperational
  | operational
  | stopped
  deriving DecidableEq, Repr

/-- What the adapter reads of `app->canOpenStack`. -/
structure Stack where
  canOpenStack : Bool := true
  canModule : Bool := true
  nmt : Bool := true
  nodeIdUnconfigured : Bool := false
  canNormal : Bool := true
  em : Bool := true
  txBusOff : Bool := false
  deriving DecidableEq, Repr

/-- The stack is complete, configured and in normal mode. -/
def Stack.usable (stack : Stack) : Bool :=
  stack.canOpenStack && stack.canModule && stack.nmt && !stack.nodeIdUnconfigured &&
    stack.canNormal

/-- `CO_401_device_RTT_t`; the defaults are those of a fresh attach. -/
structure DeviceRtt where
  device : Device := {}
  config : DeviceConfig
  outputSupervisionEstablished : Bool
  outputSupervisionFaultActive : Bool
  communicationReady : Bool := false
  deviceInitialized : Bool := false
  nmtState : NmtState := .initializing
  nmtStoppedApplyPending : Bool := false
  analogWarningReported : Bool := false

/-- The switches of one build of the adapter. -/
structure Build where
  features : Features
  emcyBridge : Bool

/-- A call of the emergency producer with the status bit of the adapter. -/
inductive EmcyCall where
  | errorReset
  | errorReport (errorCode : BitVec 16)
  deriving DecidableEq, Repr

/-- What one worker pass meets. -/
structure PassInput where
  access : OdAccess
  product : Product
  stack : Stack
  /-- The answer of the product's supervision callback. -/
  established : Bool
  /-- The answer of the product's peer fault classifier. -/
  faultActive : Bool

namespace DeviceRtt

/-- A generation is published and the Device is initialised. -/
def serves (runtime : DeviceRtt) (stack : Stack) : Bool :=
  runtime.communicationReady && runtime.deviceInitialized && stack.usable

def hasOutputCommunicationFault (runtime : DeviceRtt) (stack : Stack)
    (supervisionEstablished faultActive : Bool) : Bool :=
  if !stack.canOpenStack then false
  else if stack.em && stack.txBusOff then true
  else supervisionEstablished && runtime.outputSupervisionFaultActive && faultActive

def outputSupervisionEstablishedProbe (runtime : DeviceRtt) (stack : Stack)
    (established : Bool) : Bool :=
  runtime.communicationReady && runtime.deviceInitialized &&
    runtime.outputSupervisionEstablished && stack.usable && established

/-- Stopped is an obligation of its own, whatever state follows it. -/
def noteNmtState (features : Features) (state : NmtState) (runtime : DeviceRtt) : DeviceRtt :=
  if features.outputFailSafe then
    { runtime with
      nmtState := state
      nmtStoppedApplyPending := state = .stopped || runtime.nmtStoppedApplyPending }
  else runtime

/-- The emergency side of a state change. -/
def reportEmergency (state : NmtState) (event : Option (BitVec 16)) (runtime : DeviceRtt) :
    DeviceRtt × List EmcyCall :=
  let reset := state ≠ .operational && runtime.analogWarningReported
  let runtime := if reset then { runtime with analogWarningReported := false } else runtime
  let calls := if reset then [EmcyCall.errorReset] else []
  match event with
  | none => (runtime, calls)
  | some errorCode =>
      ({ runtime with analogWarningReported := true }, calls ++ [.errorReport errorCode])

def onNmtStateChanged (build : Build) (access : OdAccess) (stack : Stack) (state : NmtState)
    (memory : Memory) (runtime : DeviceRtt) : DeviceRtt × List EmcyCall :=
  if !runtime.serves stack then (runtime, [])
  else
    let runtime := runtime.noteNmtState build.features state
    let device := runtime.device.setNmtOperational access memory (state = .operational)
    if !build.emcyBridge || !stack.em then ({ runtime with device := device }, [])
    else
      let (device, event) := device.takeErrorEvent
      reportEmergency state event { runtime with device := device }

/-- The Device as the second locked phase of a pass hands it to the core. -/
def prepareDevice (features : Features) (input : PassInput) (runtime : DeviceRtt) : Device :=
  let device :=
    if !runtime.device.outputSupervisionReady &&
        runtime.outputSupervisionEstablishedProbe input.stack input.established then
      runtime.device.notifyOutputSupervision
    else runtime.device
  if features.outputFailSafe then
    let stopped := runtime.nmtState = .stopped || runtime.nmtStoppedApplyPending
    let communicationFault := runtime.hasOutputCommunicationFault input.stack
      device.outputSupervisionReady input.faultActive
    (device.setNmtStopped stopped).setCommunicationFault communicationFault
  else device

/-- A pass that applied every error value ends the Stopped obligation. -/
def finishPass (features : Features) (runtime : DeviceRtt) (device : Device) : DeviceRtt :=
  if features.outputFailSafe && runtime.nmtStoppedApplyPending &&
      device.failSafeOutputApplyComplete then
    { runtime with
      device := if runtime.nmtState = .stopped then device else device.setNmtStopped false
      nmtStoppedApplyPending := false }
  else { runtime with device := device }

def processPassLocked (features : Features) (input : PassInput) (memory : Memory)
    (runtime : DeviceRtt) : (DeviceRtt × Memory) × List Effect :=
  if !runtime.serves input.stack then ((runtime, memory), [])
  else
    let pass := (runtime.prepareDevice features input).process
      ⟨features, input.access, input.product⟩ memory
    ((runtime.finishPass features pass.device, pass.memory), pass.effects)

def onBind (features : Features) (access : OdAccess) (od : Option Nat) (memory : Memory)
    (runtime : DeviceRtt) : (DeviceRtt × Memory) × Bool :=
  let ((device, memory), diag) :=
    if !runtime.deviceInitialized then
      Device.init features access od (some runtime.config) memory
    else { runtime.device with od := od }.bindOD features access memory
  if diag.error = .ok then
    let device := device.setOutputSupervisionProbe runtime.outputSupervisionEstablished
    let device := if features.analogEvents then device.setSdoReadMatcher true else device
    (({ runtime with device := device, deviceInitialized := true }, memory), true)
  else (({ runtime with device := device }, memory), false)

/-- The Device side of `onStop`. -/
def stopDevice (features : Features) (device : Device) : Device :=
  let device := device.setOutputSupervisionProbe false
  let device := if features.analogEvents then device.setSdoReadMatcher false else device
  let device :=
    if features.outputFailSafe then (device.setNmtStopped false).setCommunicationFault false
    else device
  device.resetCommunicationState

def onStop (features : Features) (runtime : DeviceRtt) : DeviceRtt :=
  { runtime with
    communicationReady := false
    nmtState := if features.outputFailSafe then .unknown else runtime.nmtState
    nmtStoppedApplyPending := !features.outputFailSafe && runtime.nmtStoppedApplyPending
    device := stopDevice features runtime.device
    analogWarningReported := false }

/-- `unbindOwnedExtensions`. -/
def onQuiesced (features : Features) (memory : Memory) (runtime : DeviceRtt) :
    DeviceRtt × Memory :=
  if !runtime.deviceInitialized then (runtime, memory)
  else
    ({ runtime with device := { runtime.device with bound := {}, od := none, odBound := false } },
      Device.detachMemory features runtime.device.bound memory)

def onReady (features : Features) (stack : Stack) (state : NmtState) (runtime : DeviceRtt) :
    DeviceRtt :=
  if features.outputFailSafe then
    { runtime with
      nmtState := if stack.canOpenStack && stack.nmt then state else .unknown
      nmtStoppedApplyPending := false
      communicationReady := true }
  else { runtime with communicationReady := true }

def onRuntimeDeinit (runtime : DeviceRtt) : DeviceRtt :=
  { runtime with communicationReady := false, device := {}, deviceInitialized := false }

end DeviceRtt

/-- The adapter and the dictionaries it works on. -/
structure Adapter where
  runtime : DeviceRtt
  memory : Memory

/-- One step: a lifecycle callback, a worker pass, the product or the network. -/
inductive Event where
  | bind (access : OdAccess) (od : Option Nat)
  | ready (stack : Stack) (state : NmtState)
  | nmtStateChanged (access : OdAccess) (stack : Stack) (state : NmtState)
  | processPass (input : PassInput)
  | stop
  | quiesced
  | runtimeDeinit
  | notifyOutputSupervision
  | setDigitalOutputFault (active : Bool)
  | setAnalogOutputFault (active : Bool)
  | networkWrite (write : NetworkWrite)
  | networkRead (access : OdAccess) (read : NetworkRead)
  | canTxSuccess (access : OdAccess) (mapping : List MappedObject) (buffer : TxFrame)
  | otherExtension (entry : OdEntry) (owner : Option Nat)
  /-- The application writes a dictionary value itself. -/
  | applicationWrite (entry : OdEntry) (subIndex : Nat) (value : BitVec 32)

namespace Adapter

def world (adapter : Adapter) : World := ⟨adapter.runtime.device, adapter.memory⟩

def withWorld (adapter : Adapter) (world : World) : Adapter where
  runtime := { adapter.runtime with device := world.device }
  memory := world.memory

/-- A call of the Device core that needs nothing of the adapter. -/
def core (features : Features) (adapter : Adapter) (call : Call) : Adapter :=
  adapter.withWorld (adapter.world.step features call)

def ofPair (state : DeviceRtt × Memory) : Adapter := ⟨state.1, state.2⟩

/-- What one worker pass does. -/
def pass (features : Features) (input : PassInput) (adapter : Adapter) :
    (DeviceRtt × Memory) × List Effect :=
  adapter.runtime.processPassLocked features input adapter.memory

def step (build : Build) (adapter : Adapter) : Event → Adapter
  | .bind access od =>
      ofPair (adapter.runtime.onBind build.features access od adapter.memory).1
  | .ready stack state =>
      { adapter with runtime := adapter.runtime.onReady build.features stack state }
  | .nmtStateChanged access stack state =>
      { adapter with
        runtime := (adapter.runtime.onNmtStateChanged build access stack state adapter.memory).1 }
  | .processPass input => ofPair (adapter.pass build.features input).1
  | .stop => { adapter with runtime := adapter.runtime.onStop build.features }
  | .quiesced => ofPair (adapter.runtime.onQuiesced build.features adapter.memory)
  | .runtimeDeinit => { adapter with runtime := adapter.runtime.onRuntimeDeinit }
  | .notifyOutputSupervision => adapter.core build.features .notifyOutputSupervision
  | .setDigitalOutputFault active => adapter.core build.features (.setDigitalOutputFault active)
  | .setAnalogOutputFault active => adapter.core build.features (.setAnalogOutputFault active)
  | .networkWrite write => adapter.core build.features (.networkWrite write)
  | .networkRead access read => adapter.core build.features (.networkRead access read)
  | .canTxSuccess access mapping buffer =>
      -- `onCanTxSuccess` fails closed once its generation is stopped.
      if adapter.runtime.communicationReady && adapter.runtime.deviceInitialized then
        adapter.core build.features (.tpdoAccepted access mapping buffer)
      else adapter
  | .otherExtension entry owner => adapter.core build.features (.otherExtension entry owner)
  | .applicationWrite entry subIndex value =>
      { adapter with memory := adapter.memory.store entry subIndex value }

end Adapter

end CanopenRtt.Cia401
