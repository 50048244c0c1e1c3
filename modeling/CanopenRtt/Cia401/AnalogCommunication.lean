import CanopenRtt.Cia401.AnalogLaw
/-!
# The analogue event and interrupt-source law over whole runs

An observer keeps the last complete value of every channel that was communicated
since the last bind. Each reachable state promises when an event fires, which
source bits a pass sets, what clears one, and that the delta references are the
observer's values.
-/

namespace CanopenRtt.Cia401

open CanopenRtt.Profile CanopenRtt.Support

/-- One call; for an accepted TPDO also the dictionary its frame was packed from. -/
structure Exchange where
  call : Call
  snapshot : Memory

namespace World

variable {features : Features} {world : World} {od : Nat}

/-- A complete SDO read of one sub-index of an object of `size` bytes. -/
def CompleteRead (world : World) (read : NetworkRead) (entry : OdEntry) (size : Nat) : Prop :=
  read.entry = entry ∧ read.result = .ok ∧ read.subIndex ≠ 0 ∧ read.countRead = size ∧
    world.device.sdoReadMatch = true ∧ read.sdo = true

instance (world : World) (read : NetworkRead) (entry : OdEntry) (size : Nat) :
    Decidable (world.CompleteRead read entry size) := by
  unfold CompleteRead
  infer_instance

/-- A snapshot that holds the source bit as 1 is communicated. -/
def CommunicatesSource (world : World) (od bank bit : Nat) (exchange : Exchange) : Prop :=
  match exchange.call with
  | .networkRead _ read =>
      world.CompleteRead read (world.device.entry od indexAnalogInterruptSource) 4 ∧
        read.subIndex = bank + 1
  | .tpdoAccepted _ mapping _ =>
      ∃ io ∈ mapping, io.carriesSource world.device od exchange.snapshot bank bit
  | _ => False

/-- The last complete values communicated since the last bind, after one exchange. -/
def communicate (world : World) (references : Nat → Option (BitVec 16)) (exchange : Exchange) :
    Nat → Option (BitVec 16) :=
  match world.device.od, exchange.call with
  | _, .init _ _ _ => fun _ => none
  | _, .bindOD _ => fun _ => none
  | some od, .networkRead _ read =>
      if world.CompleteRead read (world.device.entry od indexAnalogInput16) 2 then
        Function.update references (read.subIndex - 1)
          (some ((world.memory.value read.entry read.subIndex).setWidth 16))
      else references
  | some od, .tpdoAccepted _ mapping _ =>
      run (communicateObject world.device od exchange.snapshot) references mapping
  | _, _ => references

/-- The Device is initialised once, the accesses of a pass succeed, an accepted frame
is packed from its snapshot, and no peer writes the interrupt sources: the binding
demands that 0x6422 is read-only. -/
def Permitted (world : World) (exchange : Exchange) : Prop :=
  match exchange.call with
  | .init _ _ _ => False
  | .process access _ => access = .always
  | .tpdoAccepted _ mapping buffer =>
      ∀ od, world.device.od = some od → Packed od exchange.snapshot mapping buffer
  | .networkWrite write =>
      ∀ od, world.device.od = some od →
        write.entry ≠ world.device.entry od indexAnalogInterruptSource
  | _ => True

/-! ### What is left alone -/

theorem networkWrite_value (write : NetworkWrite) (device : Device) (memory : Memory)
    {entry : OdEntry} (hne : write.entry ≠ entry) (subIndex : Nat) :
    (device.networkWrite write memory).1.2.value entry subIndex = memory.value entry subIndex := by
  have hstored : ∀ value, (memory.store write.entry write.subIndex value).value entry subIndex =
      memory.value entry subIndex :=
    fun value => memory.value_store_of_ne value fun heq => hne heq.1.symm
  unfold Device.networkWrite
  split
  · rfl
  · split
    · exact hstored _
    · exact hstored _
    · unfold Device.callWriteHook
      split
      · rfl
      · exact hstored _
      · unfold Device.writeDigitalInputFilter
        split
        · rfl
        · exact hstored _
      · unfold Device.writeOutputCommand
        dsimp only
        split
        · rfl
        · split
          · rfl
          · exact hstored _

theorem otherExtension_value (world : World) (entry : OdEntry) (owner : Option Nat) :
    (world.otherExtension entry owner).memory.value = world.memory.value := by
  unfold otherExtension
  split
  · rfl
  · exact Memory.value_extensionInit ..

theorem commitAnalogSourceCommunication_unbound {device : Device} (h : device.odBound = false)
    (access : OdAccess) (memory : Memory) (subIndex : Nat) (communicatedBits : BitVec 32) :
    device.commitAnalogSourceCommunication access memory subIndex communicatedBits = memory := by
  unfold Device.commitAnalogSourceCommunication
  rw [h, if_pos (by simp)]

theorem commitSuccessfulTpdo_unbound (hunbound : world.device.odBound = false)
    (access : OdAccess) (mapping : List MappedObject) (buffer : TxFrame) :
    (commitSuccessfulTpdo features access mapping buffer world.device world.memory).2 =
      world.memory := by
  refine (@run_invariant _ _ (commitMappedObject features access buffer)
    (fun state => state.1.1.odBound = false ∧ state.1.2 = world.memory) ?_
    ((world.device, world.memory), 0) ⟨hunbound, rfl⟩ mapping).2
  rintro state io ⟨hstate, hmemory⟩
  refine ⟨((commitMappedObject_unmoved features access buffer state io).odBound).trans hstate, ?_⟩
  obtain ⟨⟨device, memory⟩, bitOffset⟩ := state
  unfold commitMappedObject
  dsimp only
  split
  · exact hmemory
  · split
    · exact hmemory
    · split
      · split <;> exact hmemory
      · exact (commitAnalogSourceCommunication_unbound hstate ..).trans hmemory
      · exact hmemory

theorem networkRead_unbound (hunbound : world.device.odBound = false) (access : OdAccess)
    (read : NetworkRead) :
    (world.device.networkRead access read world.memory).2 = world.memory := by
  unfold Device.networkRead
  split
  · unfold Device.callReadHook
    dsimp only
    split
    · split <;> rfl
    · split
      · exact commitAnalogSourceCommunication_unbound hunbound ..
      · rfl
    · rfl
  · rfl

theorem process_unbound (hunbound : world.device.odBound = false) (access : OdAccess)
    (product : Product) :
    (world.step features (.process access product)).memory = world.memory := by
  change (world.device.process _ world.memory).memory = world.memory
  unfold Device.process Device.beginPass
  rw [hunbound, if_pos (by simp)]
  split <;> rfl

/-! ### What is communicated -/

theorem sdoReadCompletes_iff (world : World) (read : NetworkRead) (size : Nat) :
    Device.sdoReadCompletes read true world.device size = true ↔
      world.CompleteRead read read.entry size := by
  simp [Device.sdoReadCompletes, CompleteRead, and_assoc]

section Serving

variable (h : world.Reached features) (hserving : world.Serving features od)

include h hserving

theorem slot_analog {owned : OwnExtension} (hcompiled : owned.compiled features = true)
    (hcount : owned.count world.device.config ≠ 0) :
    world.memory.extension (world.device.entry od owned.canonicalIndex) = some (.own owned) ∧
      world.device.extensions owned = owned.hooks := by
  have hplace := (hookedTo h hserving).installed owned (by
    simp [OwnExtension.installed, hcompiled, hcount])
  exact ⟨hplace.extension, hplace.hooks⟩

theorem networkRead_eq (access : OdAccess) (read : NetworkRead) :
    world.device.networkRead access read world.memory =
      (if world.CompleteRead read (world.device.entry od indexAnalogInput16) 2 then
          world.device.commitAnalogInputCommunication read.subIndex
            ((world.memory.value read.entry read.subIndex).setWidth 16)
        else world.device,
        if world.CompleteRead read (world.device.entry od indexAnalogInterruptSource) 4 then
          world.device.commitAnalogSourceCommunication access world.memory read.subIndex
            (world.memory.value read.entry read.subIndex)
        else world.memory) := by
  have hobjects := eventObjects h hserving
  have hne : world.device.entry od indexAnalogInput16 ≠
      world.device.entry od indexAnalogInterruptSource := by
    intro heq
    have hsame : indexAnalogInput16 = indexAnalogInterruptSource :=
      entry_index_injective h.sound.slot rfl rfl (congrArg OdEntry.index heq)
    exact absurd hsame (by decide)
  obtain ⟨hinput, hinputHooks⟩ := @slot_analog _ _ _ h hserving .analogInput16 hserving.events
    hserving.channels
  obtain ⟨hsource, hsourceHooks⟩ := @slot_analog _ _ _ h hserving .analogInterruptSource
    hserving.events hserving.channels
  by_cases hreadsInput : read.entry = world.device.entry od indexAnalogInput16
  · have hreadsNoSource : ¬world.CompleteRead read
        (world.device.entry od indexAnalogInterruptSource) 4 :=
      fun hread => hne (hreadsInput.symm.trans hread.1)
    have hslot : world.memory.extension read.entry = some (.own .analogInput16) := by
      rw [hreadsInput]
      exact hinput
    rw [if_neg hreadsNoSource, ← hreadsInput, Device.networkRead, hslot]
    dsimp only
    rw [hinputHooks]
    simp only [Device.callReadHook, OwnExtension.hooks, sdoReadCompletes_iff]
    split <;> rfl
  · have hreadsNoInput : ¬world.CompleteRead read (world.device.entry od indexAnalogInput16) 2 :=
      fun hread => hreadsInput hread.1
    rw [if_neg hreadsNoInput]
    by_cases hreadsSource : read.entry = world.device.entry od indexAnalogInterruptSource
    · have hslot : world.memory.extension read.entry = some (.own .analogInterruptSource) := by
        rw [hreadsSource]
        exact hsource
      rw [← hreadsSource, Device.networkRead, hslot]
      dsimp only
      rw [hsourceHooks]
      simp only [Device.callReadHook, OwnExtension.hooks, sdoReadCompletes_iff]
      split <;> rfl
    · have hreadsNoSource : ¬world.CompleteRead read
          (world.device.entry od indexAnalogInterruptSource) 4 :=
        fun hread => hreadsSource hread.1
      rw [if_neg hreadsNoSource, Device.networkRead]
      split
      case h_1 owned hslot =>
          obtain ⟨hcarrier, -, hhooks⟩ := h.slots.slot read.entry owned hslot
          rw [hhooks]
          cases owned with
          | analogInput16 =>
              exact absurd (Option.some.inj (hcarrier.symm.trans hobjects.analogInput16))
                hreadsInput
          | analogInterruptSource =>
              exact absurd (Option.some.inj (hcarrier.symm.trans hobjects.analogInterruptSource))
                hreadsSource
          | _ => rfl
      case h_2 => rfl

/-! ### Source bits -/

/-- A bound Device loses a source bit only to a communication that held it as 1. -/
theorem cleared_serving {exchange : Exchange} (hpermitted : world.Permitted exchange)
    {bank bit : Nat}
    (hset : (world.memory.value (world.device.entry od indexAnalogInterruptSource)
      (bank + 1)).getLsbD bit = true)
    (hclear : ((world.step features exchange.call).memory.value
      (world.device.entry od indexAnalogInterruptSource) (bank + 1)).getLsbD bit = false) :
    world.CommunicatesSource od bank bit exchange := by
  have hobjects := eventObjects h hserving
  have hkept : ∀ {value : BitVec 32}, value = world.memory.value
      (world.device.entry od indexAnalogInterruptSource) (bank + 1) →
        ¬value.getLsbD bit = false := by
    intro value heq hfalse
    rw [heq, hset] at hfalse
    cases hfalse
  obtain ⟨call, snapshot⟩ := exchange
  cases call with
  | init access od' config => exact hpermitted.elim
  | bindOD access =>
      have hvalue := (Device.bindOD_same features access world.device world.memory).2.2
      exact absurd hclear (hkept (congrFun (congrFun hvalue _) _))
  | process access product =>
      obtain rfl : access = .always := hpermitted
      have hsource := @process_source features world od h hserving product bank bit
        (BitVec.lt_of_getLsbD hset)
      rw [hset, Bool.true_or] at hsource
      rw [hclear] at hsource
      cases hsource
  | networkWrite write =>
      exact absurd hclear (hkept (networkWrite_value write world.device world.memory
        (hpermitted od hserving.od) _))
  | networkRead access read =>
      change ((world.device.networkRead access read world.memory).2.value _ _).getLsbD bit = _
        at hclear
      rw [networkRead_eq h hserving] at hclear
      dsimp only at hclear
      split at hclear
      case isTrue hread =>
          obtain ⟨hsub, -⟩ := commitAnalogSourceCommunication_cleared
            hobjects.analogInterruptSource hset hclear
          exact ⟨hread, hsub⟩
      case isFalse => exact absurd hclear (hkept rfl)
  | tpdoAccepted access mapping buffer =>
      exact (commitSuccessfulTpdo_committed hserving.events h.sound.slot hobjects
        (hpermitted od hserving.od) (fun _ _ => rfl)).source bank bit hset hclear
  | otherExtension entry owner =>
      exact absurd hclear (hkept (congrFun (congrFun (otherExtension_value world entry owner) _) _))
  | _ => exact absurd hclear (hkept rfl)

end Serving

theorem source_unbound (hunbound : world.device.odBound = false) (hod : world.device.od = some od)
    {exchange : Exchange} (hpermitted : world.Permitted exchange) (subIndex : Nat) :
    (world.step features exchange.call).memory.value
        (world.device.entry od indexAnalogInterruptSource) subIndex =
      world.memory.value (world.device.entry od indexAnalogInterruptSource) subIndex := by
  have hkept : ∀ {memory : Memory}, memory = world.memory →
      memory.value (world.device.entry od indexAnalogInterruptSource) subIndex =
        world.memory.value (world.device.entry od indexAnalogInterruptSource) subIndex :=
    fun heq => by rw [heq]
  obtain ⟨call, snapshot⟩ := exchange
  cases call with
  | init access od' config => exact hpermitted.elim
  | bindOD access =>
      have hvalue := (Device.bindOD_same features access world.device world.memory).2.2
      exact congrFun (congrFun hvalue _) _
  | process access product => exact hkept (process_unbound hunbound access product)
  | networkWrite write =>
      exact networkWrite_value write world.device world.memory (hpermitted od hod) _
  | networkRead access read => exact hkept (networkRead_unbound hunbound access read)
  | tpdoAccepted access mapping buffer =>
      exact hkept (commitSuccessfulTpdo_unbound hunbound access mapping buffer)
  | otherExtension entry owner =>
      exact congrFun (congrFun (otherExtension_value world entry owner) _) _
  | _ => rfl

/-! ### Delta references -/

section Serving

variable (h : world.Reached features) (hserving : world.Serving features od)

include h hserving

theorem process_reference (access : OdAccess) (product : Product) (channel : Nat) :
    (world.step features (.process access product)).device.reference channel =
      world.device.reference channel := by
  let env : PassEnv := ⟨features, access, product⟩
  have hstart := (start_device env world).1
  have hdigital := Pass.digitalRefreshInputs_device env (world.start env)
  have hanalog := Pass.analogRefreshInputs_device (separate_of_sound h.sound env rfl)
  have houtputs := ((Pass.digitalApplyOutputs_outputs env (Pass.analogRefreshInputs env
    (Pass.digitalRefreshInputs env (world.start env)))).only.trans
      (Pass.analogApplyOutputs_outputs env _).only).device
  have hvalues : (world.device.process env world.memory).device.analogLastCommunicated =
        world.device.analogLastCommunicated := by
    rw [Device.process_busy (busy h hserving)]
    exact (congrArg Device.analogLastCommunicated houtputs :).trans
      ((congrArg Device.analogLastCommunicated hanalog :).trans
        ((congrArg Device.analogLastCommunicated hdigital :).trans
          (congrArg Device.analogLastCommunicated hstart :)))
  have hvalid : (world.device.process env world.memory).device.analogLastCommunicatedValid =
        world.device.analogLastCommunicatedValid := by
    rw [Device.process_busy (busy h hserving)]
    exact (congrArg Device.analogLastCommunicatedValid houtputs :).trans
      ((congrArg Device.analogLastCommunicatedValid hanalog :).trans
        ((congrArg Device.analogLastCommunicatedValid hdigital :).trans
          (congrArg Device.analogLastCommunicatedValid hstart :)))
  change (world.device.process env world.memory).device.reference channel = _
  unfold Device.reference
  rw [hvalues, hvalid]

theorem reference_serving {references : Nat → Option (BitVec 16)}
    (hreferences : ∀ channel, channel < world.device.config.analogInputChannels →
      world.device.reference channel = references channel)
    {exchange : Exchange} (hpermitted : world.Permitted exchange)
    (hkeeps : keepsBinding exchange.call = true) {channel : Nat}
    (hchannel : channel < world.device.config.analogInputChannels) :
    (world.step features exchange.call).device.reference channel =
      world.communicate references exchange channel := by
  have hbefore := hreferences channel hchannel
  obtain ⟨call, snapshot⟩ := exchange
  unfold communicate
  rw [hserving.od]
  cases call with
  | init access od' config => cases hkeeps
  | bindOD access => cases hkeeps
  | setNmtOperational access operational =>
      refine Eq.trans ?_ hbefore
      simp only [step, withDevice, Device.setNmtOperational]
      split <;> rfl
  | takeErrorEvent =>
      refine Eq.trans ?_ hbefore
      simp only [step, withDevice, Device.takeErrorEvent]
      split <;> rfl
  | process access product =>
      exact (process_reference h hserving access product channel).trans hbefore
  | networkWrite write =>
      have hdevice := networkWrite_device write world.device world.memory
      have hvalues := (congrArg Device.analogLastCommunicated hdevice :)
      have hvalid := (congrArg Device.analogLastCommunicatedValid hdevice :)
      refine Eq.trans ?_ hbefore
      unfold Device.reference
      exact congrArg₂ (fun valid values =>
        if valid channel = true then some (values channel) else none) hvalid hvalues
  | networkRead access read =>
      change (world.device.networkRead access read world.memory).1.reference channel = _
      rw [networkRead_eq h hserving]
      dsimp only
      split
      case isTrue hread =>
          rw [commitAnalogInputCommunication_reference world.device _ hchannel, hbefore]
          have hzero := hread.2.2.1
          by_cases hsub : read.subIndex = channel + 1
          · have heq : channel = read.subIndex - 1 := by omega
            rw [if_pos hsub, heq, Function.update_self]
          · rw [if_neg hsub, Function.update_of_ne (by omega)]
      case isFalse => exact hbefore
  | tpdoAccepted access mapping buffer =>
      exact (commitSuccessfulTpdo_committed hserving.events h.sound.slot
        (eventObjects h hserving) (hpermitted od hserving.od) hreferences).reference channel
          hchannel
  | otherExtension entry owner =>
      exact (congrArg (fun device : Device => device.reference channel)
        (otherExtension_device world entry owner)).trans hbefore
  | _ => exact hbefore

end Serving

end World

theorem Device.resetInputEvents_reference {features : Features} {device : Device}
    (hevents : features.analogEvents = true) (hchannels : device.config.analogInputChannels ≠ 0)
    (channel : Nat) : (resetInputEvents features device).reference channel = none := by
  unfold resetInputEvents clearAnalogInputEvents
  rw [if_pos (by simp [hevents, hchannels])]
  rfl

theorem Device.bindOD_reference {features : Features} (access : OdAccess) (device : Device)
    (memory : Memory) (hevents : features.analogEvents = true)
    (hbound : (bindOD features access device memory).1.1.odBound = true)
    (hchannels : (bindOD features access device memory).1.1.config.analogInputChannels ≠ 0)
    (channel : Nat) : (bindOD features access device memory).1.1.reference channel = none := by
  have hsame := (bindOD_same features access device memory).1
  have hfree := unbind_same features device
  rw [hsame.config] at hchannels
  rcases bindOD_cases features access device memory with h | ⟨od, candidate, -, -, h⟩
  · rw [h] at hbound
    cases hbound
  · rw [h]
    obtain ⟨hinstalled, -, -⟩ := run_install_frame features candidate
      ({ unbind features device with bound := candidate },
        detachMemory features device.bound memory) BindContext.slotOrder
    have hconfig : (run (install features candidate)
        ({ unbind features device with bound := candidate },
          detachMemory features device.bound memory)
            BindContext.slotOrder).1.config.analogInputChannels ≠ 0 := by
      rw [hinstalled]
      change (unbind features device).config.analogInputChannels ≠ 0
      rwa [hfree.config]
    exact resetInputEvents_reference hevents hconfig channel

/-- The Device with the observer's values beside it. -/
structure Observed where
  world : World
  references : Nat → Option (BitVec 16)

namespace Observed

open World

def step (features : Features) (observed : Observed) (exchange : Exchange) : Observed :=
  ⟨observed.world.step features exchange.call,
    observed.world.communicate observed.references exchange⟩

/-- The first `init`. -/
def init (features : Features) (access : OdAccess) (od : Option Nat)
    (config : Option DeviceConfig) (start : World) : Observed :=
  ⟨start.step features (.init access od config), fun _ => none⟩

/-- What one state promises about analogue events, interrupt sources and delta references. -/
structure Law (features : Features) (observed : Observed) : Prop where
  /-- When an event fires. -/
  fired : ∀ od, Serving features observed.world od → ∀ product channel,
    channel < observed.world.device.config.analogInputChannels →
      (observed.world.fires ⟨features, .always, product⟩ (.analog channel) = true ↔
        ∃ value,
          Pass.analogSample ⟨features, .always, product⟩ observed.world.entering channel =
            some value ∧
          value ≠ (observed.world.memory.value
            (observed.world.device.entry od indexAnalogInput16) (channel + 1)).setWidth 16 ∧
          observed.world.device.eventsEnabled od observed.world.memory = true ∧
          (observed.world.device.thresholds od observed.world.memory channel).Hold
            (observed.world.device.reference channel) value)
  /-- Which source bits a pass sets. -/
  latched : ∀ od, Serving features observed.world od → ∀ product bank bit, bit < 32 →
    ((observed.world.step features (.process .always product)).memory.value
        (observed.world.device.entry od indexAnalogInterruptSource) (bank + 1)).getLsbD bit =
      ((observed.world.memory.value
          (observed.world.device.entry od indexAnalogInterruptSource) (bank + 1)).getLsbD bit ||
        observed.world.fires ⟨features, .always, product⟩ (.analog (32 * bank + bit)))
  /-- What clears a source bit. -/
  cleared : ∀ od, observed.world.device.od = some od →
    observed.world.device.config.analogInputChannels ≠ 0 → features.analogEvents = true →
      ∀ exchange bank bit, observed.world.Permitted exchange →
        (observed.world.memory.value
          (observed.world.device.entry od indexAnalogInterruptSource)
            (bank + 1)).getLsbD bit = true →
        ((observed.world.step features exchange.call).memory.value
          (observed.world.device.entry od indexAnalogInterruptSource)
            (bank + 1)).getLsbD bit = false →
          observed.world.CommunicatesSource od bank bit exchange
  /-- What the deltas count from. -/
  reference : ∀ od, Serving features observed.world od → ∀ channel,
    channel < observed.world.device.config.analogInputChannels →
      observed.world.device.reference channel = observed.references channel

/-- The observer agrees with a bound Device. -/
structure Agrees (features : Features) (observed : Observed) : Prop where
  reached : observed.world.Reached features
  reference : features.analogEvents = true → observed.world.device.odBound = true →
    ∀ channel, channel < observed.world.device.config.analogInputChannels →
      observed.world.device.reference channel = observed.references channel

theorem law_of_agrees {features : Features} {observed : Observed} (h : observed.Agrees features) :
    observed.Law features where
  fired := fun _ hserving product _ hchannel =>
    fires_analog_iff h.reached hserving product hchannel
  latched := fun _ hserving product _ _ hbit => process_source h.reached hserving product hbit
  cleared := by
    intro od hod hchannels hevents exchange bank bit hpermitted hset hclear
    cases hbound : observed.world.device.odBound with
    | true =>
        exact cleared_serving h.reached ⟨hod, hbound, hchannels, hevents⟩ hpermitted hset hclear
    | false =>
        rw [source_unbound hbound hod hpermitted, hset] at hclear
        cases hclear
  reference := fun _ hserving _ hchannel =>
    h.reference hserving.events hserving.odBound _ hchannel

theorem init_agrees (features : Features) (access : OdAccess) (od : Option Nat)
    (config : Option DeviceConfig) {start : World} (hslots : Device.NoSlots start.memory) :
    (init features access od config start).Agrees features where
  reached :=
    ⟨Device.init_sound .., init_configured features access od config start,
      init_eventBound features access od config start.memory,
      Device.init_ownsSlots access od config hslots⟩
  reference := by
    intro hevents hbound channel hchannel
    change (Device.init features access od config start.memory).1.1.odBound = true at hbound
    change channel <
      (Device.init features access od config start.memory).1.1.config.analogInputChannels
      at hchannel
    change (Device.init features access od config start.memory).1.1.reference channel = none
    unfold Device.init at hbound hchannel ⊢
    split at hbound
    · dsimp only at hbound hchannel ⊢
      split at hbound
      · cases hbound
      case isFalse hvalid =>
          rw [if_neg hvalid] at hchannel ⊢
          exact Device.bindOD_reference access _ _ hevents hbound (by omega) channel
    · cases hbound

theorem step_agrees {features : Features} {observed : Observed} {exchange : Exchange}
    (h : observed.Agrees features) (hpermitted : observed.world.Permitted exchange) :
    (observed.step features exchange).Agrees features where
  reached := by
    refine ⟨step_sound h.reached.sound _, step_configured h.reached.configured _,
      step_eventBound h.reached.events _, step_ownsSlots h.reached.slots _ ?_⟩
    obtain ⟨call, snapshot⟩ := exchange
    rintro access od config (rfl : call = _)
    exact hpermitted
  reference := by
    intro hevents hbound channel hchannel
    cases hkeeps : keepsBinding exchange.call with
    | true =>
        have hsame := @step_sameBinding features observed.world exchange.call hkeeps
        change (observed.world.step features exchange.call).device.odBound = true at hbound
        change channel <
          (observed.world.step features exchange.call).device.config.analogInputChannels
          at hchannel
        rw [hsame.odBound] at hbound
        rw [hsame.config] at hchannel
        obtain ⟨od, hod, -⟩ := h.reached.sound.hooked hbound
        exact reference_serving h.reached ⟨hod, hbound, by omega, hevents⟩
          (h.reference hevents hbound) hpermitted hkeeps hchannel
    | false =>
        obtain ⟨call, snapshot⟩ := exchange
        cases call with
        | init access od config => exact hpermitted.elim
        | bindOD access =>
            have hnone : (observed.step features ⟨.bindOD access, snapshot⟩).references channel =
                none := by
              unfold step communicate
              cases observed.world.device.od <;> rfl
            rw [hnone]
            exact Device.bindOD_reference access observed.world.device observed.world.memory
              hevents hbound (Nat.ne_of_gt (Nat.zero_lt_of_lt hchannel)) channel
        | _ => cases hkeeps

/-- The law holds in every state a run of permitted exchanges reaches from the first `init`. -/
theorem analogLaw_of_run (features : Features) (access : OdAccess) (od : Option Nat)
    (config : Option DeviceConfig) (start : World) (hslots : Device.NoSlots start.memory)
    (exchanges : List Exchange)
    (h : EveryStep (step features) (fun observed exchange => observed.world.Permitted exchange)
      (init features access od config start) exchanges) :
    (run (step features) (init features access od config start) exchanges).Law features :=
  law_of_agrees (run_invariant_of_everyStep (fun _ _ => step_agrees)
    (init_agrees features access od config hslots) h)

/-! ### A transcript with one channel -/

/-- A dictionary with one analogue input whose event fires on every change. -/
def analogMemory : Memory where
  shape := fun entry =>
    if entry.index = indexDeviceType then some (.variable 4 (odaSdoR ||| odaMb))
    else if entry.index = indexAnalogInterruptEnable then some (.variable 1 odaSdoRW)
    else if entry.index = indexAnalogInput16 then
      some (.array 1 2 (odaSdoR ||| odaTpdo ||| odaMb))
    else if entry.index = indexAnalogInterruptTrigger then some (.array 1 1 odaSdoRW)
    else if entry.index = indexAnalogInterruptSource then
      some (.array 1 4 (odaSdoR ||| odaTpdo ||| odaMb))
    else if entry.index ∈ [indexAnalogInterruptUpper32, indexAnalogInterruptLower32,
        indexAnalogInterruptDeltaU32, indexAnalogInterruptNegDeltaU32,
        indexAnalogInterruptPosDeltaU32] then some (.array 1 4 (odaSdoRW ||| odaMb))
    else none
  extension := fun _ => none
  value := fun entry subIndex =>
    if entry.index = indexDeviceType then deviceTypeForCapabilities capAnalogInput
    else if entry.index = indexAnalogInterruptEnable then 1#32
    else if subIndex = 0 then 1#32
    else 0#32

def analogFeatures : Features := ⟨false, false, true, false, false, 32⟩

/-- A product whose channels all read `value`. -/
def analogProduct (value : BitVec 16) : Product where
  readDigital8 := fun _ => (.ok, 0#8)
  writeDigital8 := fun _ _ => .ok
  writeDigital8Masked := fun _ _ _ => .ok
  readAnalog16 := fun _ => (.ok, value)
  writeAnalog16 := fun _ _ => .ok
  setDigitalInputFilter8 := fun _ _ => .ok

def analogStart : Observed :=
  init analogFeatures .always (some 0) (some { io := some {}, analogInputChannels := 1 })
    ⟨{}, analogMemory⟩

/-- Two events, with an SDO read of the interrupt sources between them. -/
def transcript : List Exchange :=
  [⟨.setSdoReadMatcher true, analogMemory⟩, ⟨.process .always (analogProduct 100#16), analogMemory⟩,
    ⟨.networkRead .always ⟨⟨0, indexAnalogInterruptSource⟩, 1, .ok, 4, true⟩, analogMemory⟩,
    ⟨.process .always (analogProduct 200#16), analogMemory⟩]

/-- A TPDO of 48 bits that carries the interrupt sources and the input. -/
def analogTpdo : Exchange where
  call := .tpdoAccepted .always
    [⟨indexAnalogInterruptSource, 1, 32⟩, ⟨indexAnalogInput16, 1, 16⟩]
    ⟨6, fun byte => if byte = 0 then 1#8 else if byte = 4 then 200#8 else 0#8⟩
  snapshot := (run (step analogFeatures) analogStart transcript).world.memory

theorem analogTpdo_packed : Packed 0 analogTpdo.snapshot
    [⟨indexAnalogInterruptSource, 1, 32⟩, ⟨indexAnalogInput16, 1, 16⟩]
    ⟨6, fun byte => if byte = 0 then 1#8 else if byte = 4 then 200#8 else 0#8⟩ where
  dlc := by decide
  fits := by decide
  bits := by
    intro done io rest hsplit
    cases done with
    | nil =>
        obtain ⟨rfl, -⟩ := List.cons.inj hsplit
        decide +kernel
    | cons first done =>
        obtain ⟨rfl, hlast⟩ := List.cons.inj hsplit
        cases done with
        | nil =>
            obtain ⟨rfl, -⟩ := List.cons.inj hlast
            decide +kernel
        | cons second done => simp at hlast

theorem transcript_permitted :
    EveryStep (step analogFeatures) (fun observed exchange => observed.world.Permitted exchange)
      analogStart (transcript ++ [analogTpdo]) := by
  refine ⟨trivial, rfl, trivial, rfl, ?_, trivial⟩
  intro od hod
  obtain rfl : 0 = od := Option.some.inj (Eq.trans (by decide +kernel) hod)
  exact analogTpdo_packed

/-- Both communications consume the source bit, and the TPDO sets the reference. -/
theorem analogLaw_transcript :
    (run (step analogFeatures) analogStart (transcript ++ [analogTpdo])).Law analogFeatures ∧
      analogTpdo.snapshot.value ⟨0, indexAnalogInterruptSource⟩ 1 = 1#32 ∧
      (run (step analogFeatures) analogStart
        (transcript ++ [analogTpdo])).world.memory.value ⟨0, indexAnalogInterruptSource⟩ 1 = 0#32 ∧
      (run (step analogFeatures) analogStart (transcript ++ [analogTpdo])).references 0 =
        some 200#16 :=
  ⟨analogLaw_of_run analogFeatures .always (some 0) _ _
    (fun _ _ h => Option.some_ne_none _ h.symm) _
      transcript_permitted, by decide +kernel, by decide +kernel, by decide +kernel⟩

end Observed

end CanopenRtt.Cia401
