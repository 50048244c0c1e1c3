import CanopenRtt.Cia401.Calls
import CanopenRtt.Cia401.Hooks
/-!
# The bound Device stays hooked

Only `init` and `bindOD` touch the hooks; both leave a Device that is unbound or
completely hooked. Every other call, and every other subsystem, leaves the
hooks of a bound Device alone.
-/

namespace CanopenRtt.Cia401

open CanopenRtt.Support

namespace World

def Sound (features : Features) (world : World) : Prop :=
  Device.Sound features world.device world.memory

/-- The binding, the hooks and the supervision latch are the same. -/
structure Unmoved (before after : World) : Prop where
  od : after.device.od = before.device.od
  config : after.device.config = before.device.config
  logicalDevice : after.device.logicalDevice = before.device.logicalDevice
  bound : after.device.bound = before.device.bound
  odBound : after.device.odBound = before.device.odBound
  extensions : after.device.extensions = before.device.extensions
  outputSupervisionReady :
    after.device.outputSupervisionReady = before.device.outputSupervisionReady
  shape : after.memory.shape = before.memory.shape
  extension : after.memory.extension = before.memory.extension

theorem Unmoved.refl (world : World) : Unmoved world world :=
  ⟨rfl, rfl, rfl, rfl, rfl, rfl, rfl, rfl, rfl⟩

theorem Unmoved.trans {first second third : World} (h : Unmoved first second)
    (h' : Unmoved second third) : Unmoved first third where
  od := h'.od.trans h.od
  config := h'.config.trans h.config
  logicalDevice := h'.logicalDevice.trans h.logicalDevice
  bound := h'.bound.trans h.bound
  odBound := h'.odBound.trans h.odBound
  extensions := h'.extensions.trans h.extensions
  outputSupervisionReady := h'.outputSupervisionReady.trans h.outputSupervisionReady
  shape := h'.shape.trans h.shape
  extension := h'.extension.trans h.extension

theorem Sound.of_eq {features : Features} {before after : World} (h : before.Sound features)
    (hod : after.device.od = before.device.od)
    (hconfig : after.device.config = before.device.config)
    (hslot : after.device.logicalDevice = before.device.logicalDevice)
    (hbound : after.device.bound = before.device.bound)
    (hodBound : after.device.odBound = before.device.odBound)
    (hextensions : after.device.extensions = before.device.extensions)
    (hshape : after.memory.shape = before.memory.shape)
    (hextension : after.memory.extension = before.memory.extension) : after.Sound features := by
  refine ⟨by rw [hslot]; exact h.slot, ?_⟩
  intro hafter
  obtain ⟨od, hsome, hhooked⟩ := h.hooked (by rwa [hodBound] at hafter)
  exact ⟨od, by rw [hod, hsome],
    hhooked.of_eq hconfig hslot hbound hextensions hshape hextension⟩

theorem Sound.of_unmoved {features : Features} {before after : World} (h : before.Sound features)
    (hmoved : Unmoved before after) : after.Sound features :=
  h.of_eq hmoved.od hmoved.config hmoved.logicalDevice hmoved.bound hmoved.odBound
    hmoved.extensions hmoved.shape hmoved.extension

theorem process_unmoved (features : Features) (access : OdAccess) (product : Product)
    (world : World) : Unmoved world (world.step features (.process access product)) := by
  have hkept := Device.process_kept ⟨features, access, product⟩ world.device world.memory
  exact ⟨hkept.od, hkept.config, hkept.logicalDevice, hkept.bound, hkept.odBound,
    hkept.extensions, hkept.outputSupervisionReady, hkept.shape, hkept.extension⟩

theorem setNmtOperational_unmoved (access : OdAccess) (operational : Bool) (world : World) :
    Unmoved world
      (world.withDevice (world.device.setNmtOperational access world.memory operational)) := by
  unfold Device.setNmtOperational
  dsimp only
  split <;> exact ⟨rfl, rfl, rfl, rfl, rfl, rfl, rfl, rfl, rfl⟩

theorem takeErrorEvent_unmoved (world : World) :
    Unmoved world (world.withDevice world.device.takeErrorEvent.1) := by
  unfold Device.takeErrorEvent
  split <;> exact ⟨rfl, rfl, rfl, rfl, rfl, rfl, rfl, rfl, rfl⟩

theorem commitAnalogInputCommunication_unmoved (subIndex : Nat) (value : BitVec 16)
    (world : World) :
    Unmoved world
      (world.withDevice (world.device.commitAnalogInputCommunication subIndex value)) := by
  unfold Device.commitAnalogInputCommunication
  split <;> exact ⟨rfl, rfl, rfl, rfl, rfl, rfl, rfl, rfl, rfl⟩

theorem retireDigitalInputTpdoEvent_unmoved (subIndex : Nat) (world : World) :
    Unmoved world (world.withDevice (world.device.retireDigitalInputTpdoEvent subIndex)) := by
  unfold Device.retireDigitalInputTpdoEvent
  split <;> exact ⟨rfl, rfl, rfl, rfl, rfl, rfl, rfl, rfl, rfl⟩

theorem retireAnalogInputTpdoEvent_unmoved (subIndex : Nat) (world : World) :
    Unmoved world (world.withDevice (world.device.retireAnalogInputTpdoEvent subIndex)) := by
  unfold Device.retireAnalogInputTpdoEvent
  split <;> exact ⟨rfl, rfl, rfl, rfl, rfl, rfl, rfl, rfl, rfl⟩

theorem commitAnalogSourceCommunication_frame (access : OdAccess) (device : Device)
    (memory : Memory) (subIndex : Nat) (communicatedBits : BitVec 32) :
    (device.commitAnalogSourceCommunication access memory subIndex communicatedBits).shape =
        memory.shape ∧
      (device.commitAnalogSourceCommunication access memory subIndex communicatedBits).extension =
        memory.extension := by
  unfold Device.commitAnalogSourceCommunication
  split
  · exact ⟨rfl, rfl⟩
  · split
    · exact ⟨rfl, rfl⟩
    case h_2 current _ =>
        cases hset : memory.setU32 access device.bound.analogInterruptSource subIndex
            (current &&& ~~~communicatedBits) with
        | none => exact ⟨rfl, rfl⟩
        | some after => exact Memory.setU32_frame hset

theorem callReadHook_unmoved (hook : Option ReadHook) (object : Bool) (access : OdAccess)
    (read : NetworkRead) (world : World) :
    Unmoved world
      (ofPair (Device.callReadHook hook object access read world.device world.memory)) := by
  unfold Device.callReadHook
  dsimp only
  split
  · split
    · exact commitAnalogInputCommunication_unmoved ..
    · exact .refl world
  · split
    · obtain ⟨hshape, hextension⟩ := commitAnalogSourceCommunication_frame access world.device
        world.memory read.subIndex (world.memory.value read.entry read.subIndex)
      exact ⟨rfl, rfl, rfl, rfl, rfl, rfl, rfl, hshape, hextension⟩
    · exact .refl world
  · exact .refl world

theorem networkRead_unmoved (access : OdAccess) (read : NetworkRead) (world : World) :
    Unmoved world (ofPair (world.device.networkRead access read world.memory)) := by
  unfold Device.networkRead
  split
  · exact callReadHook_unmoved ..
  · exact .refl world

theorem commitMappedObject_unmoved (features : Features) (access : OdAccess) (buffer : TxFrame)
    (state : (Device × Memory) × Nat) (io : MappedObject) :
    Unmoved (ofPair state.1) (ofPair (commitMappedObject features access buffer state io).1) := by
  obtain ⟨⟨device, memory⟩, bitOffset⟩ := state
  unfold commitMappedObject
  dsimp only
  split
  · exact retireDigitalInputTpdoEvent_unmoved io.subIndex ⟨device, memory⟩
  · split
    · exact .refl _
    · split
      case h_1 =>
          split
          · exact (commitAnalogInputCommunication_unmoved io.subIndex _ ⟨device, memory⟩).trans
              (retireAnalogInputTpdoEvent_unmoved io.subIndex ⟨_, memory⟩)
          · exact retireAnalogInputTpdoEvent_unmoved io.subIndex ⟨device, memory⟩
      case h_2 communicated _ _ _ =>
          obtain ⟨hshape, hextension⟩ := commitAnalogSourceCommunication_frame access device
            memory io.subIndex communicated
          exact ⟨rfl, rfl, rfl, rfl, rfl, rfl, rfl, hshape, hextension⟩
      · exact .refl _

theorem tpdoAccepted_unmoved (features : Features) (access : OdAccess)
    (mapping : List MappedObject) (buffer : TxFrame) (world : World) :
    Unmoved world
      (ofPair (commitSuccessfulTpdo features access mapping buffer world.device world.memory)) :=
  @run_invariant _ _ (commitMappedObject features access buffer)
    (fun state : (Device × Memory) × Nat => Unmoved world (ofPair state.1))
    (fun state io h => h.trans (commitMappedObject_unmoved features access buffer state io))
    ((world.device, world.memory), 0) (.refl world) mapping

/-- A write hook leaves the binding and the hooks alone. -/
theorem callWriteHook_sound {features : Features} (hook : Option WriteHook) (object : Bool)
    (write : NetworkWrite) {world : World} (h : world.Sound features) :
    (ofPair (Device.callWriteHook hook object write world.device
      world.memory).1).Sound features := by
  unfold Device.callWriteHook
  split
  · exact h
  · exact h.of_eq rfl rfl rfl rfl rfl rfl rfl rfl
  · unfold Device.writeDigitalInputFilter
    split
    · exact h
    · dsimp only
      split <;> exact h.of_eq rfl rfl rfl rfl rfl rfl rfl rfl
  · have hprobe : (world.withDevice
        (Device.probeOutputSupervision write world.device).1).Sound features := by
      unfold Device.probeOutputSupervision Device.notifyOutputSupervision
      split
      · cases write.probe
        · exact h
        · exact h.of_eq rfl rfl rfl rfl rfl rfl rfl rfl
      · exact h
    unfold Device.writeOutputCommand
    dsimp only
    split
    · exact h
    · split
      · exact hprobe
      · exact hprobe.of_eq rfl rfl rfl rfl rfl rfl rfl rfl

theorem networkWrite_sound {features : Features} (write : NetworkWrite) {world : World}
    (h : world.Sound features) :
    (ofPair (world.device.networkWrite write world.memory).1).Sound features := by
  unfold Device.networkWrite
  split
  · exact h
  · split
    · exact h.of_eq rfl rfl rfl rfl rfl rfl rfl rfl
    · exact h.of_eq rfl rfl rfl rfl rfl rfl rfl rfl
    · exact callWriteHook_sound _ _ write h

/-- Another subsystem cannot reach a slot the Device has filled. -/
theorem otherExtension_sound {features : Features} (entry : OdEntry) (owner : Option Nat)
    {world : World} (h : world.Sound features) :
    (world.otherExtension entry owner).Sound features := by
  unfold otherExtension
  split
  · exact h
  case h_2 hfree =>
      refine ⟨h.slot, ?_⟩
      intro hbound
      obtain ⟨od, hod, hhooked⟩ := h.hooked hbound
      refine ⟨od, hod, hhooked.carrier, ?_, ?_, hhooked.parameters⟩
      · intro owned hinstalled
        have hplace := hhooked.installed owned hinstalled
        refine ⟨?_, hplace.hooks⟩
        rw [Memory.extension_extensionInit_of_ne]
        · exact hplace.extension
        · intro heq
          rw [Option.some.inj heq] at hfree
          exact hfree owned hplace.extension
      · intro owned houtput hcount
        rw [Memory.shape_extensionInit]
        exact hhooked.absent owned houtput hcount

/-- Every call keeps a bound Device hooked. -/
theorem step_sound {features : Features} {world : World} (h : world.Sound features)
    (call : Call) : (world.step features call).Sound features := by
  cases call with
  | init access od config => exact Device.init_sound ..
  | bindOD access => exact Device.bindOD_sound h.slot
  | notifyOutputSupervision => exact h.of_eq rfl rfl rfl rfl rfl rfl rfl rfl
  | setOutputSupervisionProbe probe => exact h.of_eq rfl rfl rfl rfl rfl rfl rfl rfl
  | setSdoReadMatcher matcher => exact h.of_eq rfl rfl rfl rfl rfl rfl rfl rfl
  | setDigitalOutputFault active => exact h.of_eq rfl rfl rfl rfl rfl rfl rfl rfl
  | setAnalogOutputFault active => exact h.of_eq rfl rfl rfl rfl rfl rfl rfl rfl
  | setNmtStopped stopped => exact h.of_eq rfl rfl rfl rfl rfl rfl rfl rfl
  | setCommunicationFault active => exact h.of_eq rfl rfl rfl rfl rfl rfl rfl rfl
  | setNmtOperational access operational =>
      exact h.of_unmoved (setNmtOperational_unmoved access operational world)
  | takeErrorEvent => exact h.of_unmoved (takeErrorEvent_unmoved world)
  | resetCommunicationState => exact h.of_eq rfl rfl rfl rfl rfl rfl rfl rfl
  | process access product => exact h.of_unmoved (process_unmoved features access product world)
  | networkWrite write => exact networkWrite_sound write h
  | networkRead access read => exact h.of_unmoved (networkRead_unmoved access read world)
  | tpdoAccepted access mapping buffer =>
      exact h.of_unmoved (tpdoAccepted_unmoved features access mapping buffer world)
  | otherExtension entry owner => exact otherExtension_sound entry owner h

end World

end CanopenRtt.Cia401
