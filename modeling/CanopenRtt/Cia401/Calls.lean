import CanopenRtt.Cia401.Binding
import CanopenRtt.Cia401.Network
import CanopenRtt.Cia401.PassFrame
/-!
# The calls a Device receives

One step is one call of the Device core or one access by the network. Every
answer of the surroundings is part of the call, so an arbitrary list of calls is
an arbitrary run.
-/

namespace CanopenRtt.Cia401

open CanopenRtt.Support

structure World where
  device : Device
  memory : Memory

inductive Call where
  | init (access : OdAccess) (od : Option Nat) (config : Option DeviceConfig)
  | bindOD (access : OdAccess)
  | notifyOutputSupervision
  | setOutputSupervisionProbe (probe : Bool)
  | setSdoReadMatcher (matcher : Bool)
  | setDigitalOutputFault (active : Bool)
  | setAnalogOutputFault (active : Bool)
  | setNmtStopped (stopped : Bool)
  | setCommunicationFault (active : Bool)
  | setNmtOperational (access : OdAccess) (operational : Bool)
  | takeErrorEvent
  | resetCommunicationState
  | process (access : OdAccess) (product : Product)
  | networkWrite (write : NetworkWrite)
  | networkRead (access : OdAccess) (read : NetworkRead)
  | tpdoAccepted (access : OdAccess) (mapping : List MappedObject) (buffer : TxFrame)
  /-- Another subsystem fills or empties an extension slot that is not the Device's. -/
  | otherExtension (entry : OdEntry) (owner : Option Nat)

namespace World

def withDevice (world : World) (device : Device) : World := { world with device := device }

/-- The pass of one `process` call. -/
def pass (features : Features) (access : OdAccess) (product : Product) (world : World) : Pass :=
  world.device.process ⟨features, access, product⟩ world.memory

def otherExtension (world : World) (entry : OdEntry) (owner : Option Nat) : World :=
  match world.memory.extension entry with
  | some (.own _) => world
  | _ =>
      { world with
        memory := world.memory.extensionInit (some entry) (owner.map ExtensionOwner.other) }

def ofPair (state : Device × Memory) : World := ⟨state.1, state.2⟩

def step (features : Features) (world : World) : Call → World
  | .init access od config => ofPair (Device.init features access od config world.memory).1
  | .bindOD access => ofPair (world.device.bindOD features access world.memory).1
  | .notifyOutputSupervision => world.withDevice world.device.notifyOutputSupervision
  | .setOutputSupervisionProbe probe =>
      world.withDevice (world.device.setOutputSupervisionProbe probe)
  | .setSdoReadMatcher matcher => world.withDevice (world.device.setSdoReadMatcher matcher)
  | .setDigitalOutputFault active => world.withDevice (world.device.setDigitalOutputFault active)
  | .setAnalogOutputFault active => world.withDevice (world.device.setAnalogOutputFault active)
  | .setNmtStopped stopped => world.withDevice (world.device.setNmtStopped stopped)
  | .setCommunicationFault active => world.withDevice (world.device.setCommunicationFault active)
  | .setNmtOperational access operational =>
      world.withDevice (world.device.setNmtOperational access world.memory operational)
  | .takeErrorEvent => world.withDevice world.device.takeErrorEvent.1
  | .resetCommunicationState => world.withDevice world.device.resetCommunicationState
  | .process access product =>
      let pass := world.pass features access product
      ⟨pass.device, pass.memory⟩
  | .networkWrite write => ofPair (world.device.networkWrite write world.memory).1
  | .networkRead access read => ofPair (world.device.networkRead access read world.memory)
  | .tpdoAccepted access mapping buffer =>
      ofPair (commitSuccessfulTpdo features access mapping buffer world.device world.memory)
  | .otherExtension entry owner => world.otherExtension entry owner

end World

end CanopenRtt.Cia401
