import CanopenRtt.Cia401.InputEvents
/-!
# Delivery of input events over whole runs

`Delivery` states what one reachable state promises about the marker of every
input; the run theorem follows one marker from the event that set it to the
transport success that retires it.
-/

namespace CanopenRtt.Cia401

open CanopenRtt.Profile CanopenRtt.Support

/-- A digital input bank or an analogue input channel. -/
inductive Input where
  | digital (bank : Nat)
  | analog (channel : Nat)
  deriving DecidableEq, Repr

namespace Input

/-- The object whose TPDO carries the input. -/
def carrier : Input → OwnExtension
  | digital _ => .digitalInput8
  | analog _ => .analogInput16

def subIndex : Input → Nat
  | digital bank => bank + 1
  | analog channel => channel + 1

/-- The input exists in this configuration and its events are compiled in. -/
def present (features : Features) (config : DeviceConfig) : Input → Bool
  | digital bank => features.digitalEvents && bank < config.digitalInputBanks
  | analog channel => features.analogEvents && channel < config.analogInputChannels

theorem installed_of_present {features : Features} {config : DeviceConfig} {input : Input}
    (h : input.present features config = true) :
    input.carrier.installed features config = true := by
  cases input with
  | digital bank =>
      rw [present, Bool.and_eq_true, decide_eq_true_eq] at h
      have hbanks : config.digitalInputBanks ≠ 0 := by omega
      simp [carrier, OwnExtension.installed, OwnExtension.compiled, OwnExtension.count, h.1, hbanks]
  | analog channel =>
      rw [present, Bool.and_eq_true, decide_eq_true_eq] at h
      have hchannels : config.analogInputChannels ≠ 0 := by omega
      simp [carrier, OwnExtension.installed, OwnExtension.compiled, OwnExtension.count, h.1,
        hchannels]

end Input

/-! ### The accepted configuration -/

/-- What `validateConfig` guarantees about the callbacks of enabled capabilities. -/
structure ValidConfig (features : Features) (config : DeviceConfig) : Prop where
  readDigital8 : config.digitalInputBanks ≠ 0 → (config.io.any (·.readDigital8)) = true
  setDigitalInputFilter8 : features.digitalEvents = true → config.digitalInputBanks ≠ 0 →
    (config.io.any (·.setDigitalInputFilter8)) = true
  writeDigital8 : config.digitalOutputBanks ≠ 0 → (config.io.any (·.writeDigital8)) = true
  readAnalog16 : config.analogInputChannels ≠ 0 → (config.io.any (·.readAnalog16)) = true
  writeAnalog16 : config.analogOutputChannels ≠ 0 → (config.io.any (·.writeAnalog16)) = true

theorem passed_of_ok {condition : Prop} [Decidable condition] {error rest : InitError}
    (h : (if condition then error else rest) = .ok) (herror : error ≠ .ok) :
    ¬condition ∧ rest = .ok := by
  split at h
  · exact absurd h herror
  case isFalse hcondition => exact ⟨hcondition, h⟩

theorem validConfig_of_ok {features : Features} {config : DeviceConfig}
    {capabilities : BitVec 8} (h : validateConfig features config capabilities = .ok) :
    ValidConfig features config := by
  unfold validateConfig at h
  split at h
  · cases h
  case h_2 io hio =>
      obtain ⟨-, h⟩ := passed_of_ok h (by decide)
      obtain ⟨-, h⟩ := passed_of_ok h (by decide)
      obtain ⟨hreadDigital, h⟩ := passed_of_ok h (by decide)
      obtain ⟨-, h⟩ := passed_of_ok h (by decide)
      obtain ⟨hfilter, h⟩ := passed_of_ok h (by decide)
      obtain ⟨hwriteDigital, h⟩ := passed_of_ok h (by decide)
      obtain ⟨-, h⟩ := passed_of_ok h (by decide)
      obtain ⟨hreadAnalog, h⟩ := passed_of_ok h (by decide)
      obtain ⟨-, h⟩ := passed_of_ok h (by decide)
      obtain ⟨hwriteAnalog, -⟩ := passed_of_ok h (by decide)
      constructor
      · intro hbanks
        simpa [hio, hbanks] using hreadDigital
      · intro hevents hbanks
        simpa [hio, hbanks, hevents] using hfilter
      · intro hbanks
        simpa [hio, hbanks] using hwriteDigital
      · intro hchannels
        simpa [hio, hchannels] using hreadAnalog
      · intro hchannels
        simpa [hio, hchannels] using hwriteAnalog

namespace World

/-- A Device with a dictionary runs a configuration that was accepted. -/
def Configured (features : Features) (world : World) : Prop :=
  world.device.od.isSome = true → ValidConfig features world.device.config

theorem init_configured (features : Features) (access : OdAccess) (od : Option Nat)
    (config : Option DeviceConfig) (world : World) :
    (world.step features (.init access od config)).Configured features := by
  unfold Configured
  change (Device.init features access od config world.memory).1.1.od.isSome = true →
    ValidConfig features (Device.init features access od config world.memory).1.1.config
  unfold Device.init
  split
  case h_2 => exact fun h => nomatch h
  case h_1 od config =>
      dsimp only
      split
      · exact fun h => nomatch h
      case isFalse hvalid =>
          rw [not_not] at hvalid
          intro _
          rw [(Device.bindOD_same ..).1.config]
          exact validConfig_of_ok hvalid

/-- A write hook changes the filter flag and the supervision latch only. -/
theorem callWriteHook_device (hook : Option WriteHook) (object : Bool) (write : NetworkWrite)
    (device : Device) (memory : Memory) :
    { (Device.callWriteHook hook object write device memory).1.1 with
      digitalInputFilterDirty := true
      outputSupervisionReady := true } =
    { device with digitalInputFilterDirty := true, outputSupervisionReady := true } := by
  unfold Device.callWriteHook
  split
  · rfl
  · rfl
  · unfold Device.writeDigitalInputFilter Device.writeOriginal
    split
    · rfl
    · dsimp only
      split <;> rfl
  · have hprobe : { (Device.probeOutputSupervision write device).1 with
          digitalInputFilterDirty := true
          outputSupervisionReady := true } =
        { device with digitalInputFilterDirty := true, outputSupervisionReady := true } := by
      unfold Device.probeOutputSupervision Device.notifyOutputSupervision
      split
      · cases write.probe <;> rfl
      · rfl
    unfold Device.writeOutputCommand
    dsimp only
    split
    · rfl
    · split <;> exact hprobe

theorem networkWrite_device (write : NetworkWrite) (device : Device) (memory : Memory) :
    { (device.networkWrite write memory).1.1 with
      digitalInputFilterDirty := true
      outputSupervisionReady := true } =
    { device with digitalInputFilterDirty := true, outputSupervisionReady := true } := by
  unfold Device.networkWrite
  split
  · rfl
  · split
    · rfl
    · rfl
    · exact callWriteHook_device ..

theorem otherExtension_device (world : World) (entry : OdEntry) (owner : Option Nat) :
    (world.otherExtension entry owner).device = world.device := by
  unfold otherExtension
  split <;> rfl

/-- Only `init` changes the dictionary and the configuration. -/
theorem step_config {features : Features} (world : World) (call : Call)
    (hcall : ∀ access od config, call ≠ .init access od config) :
    (world.step features call).device.od = world.device.od ∧
      (world.step features call).device.config = world.device.config := by
  cases call with
  | init access od config => exact absurd rfl (hcall access od config)
  | bindOD access =>
      have hsame := (Device.bindOD_same features access world.device world.memory).1
      exact ⟨hsame.od, hsame.config⟩
  | setNmtOperational access operational =>
      have hsame := setNmtOperational_unmoved access operational world
      exact ⟨hsame.od, hsame.config⟩
  | takeErrorEvent =>
      exact ⟨(takeErrorEvent_unmoved world).od, (takeErrorEvent_unmoved world).config⟩
  | process access product =>
      have hsame := process_unmoved features access product world
      exact ⟨hsame.od, hsame.config⟩
  | networkWrite write =>
      have hsame := networkWrite_device write world.device world.memory
      exact ⟨(congrArg Device.od hsame :), (congrArg Device.config hsame :)⟩
  | networkRead access read =>
      have hsame := networkRead_unmoved access read world
      exact ⟨hsame.od, hsame.config⟩
  | tpdoAccepted access mapping buffer =>
      have hsame := tpdoAccepted_unmoved features access mapping buffer world
      exact ⟨hsame.od, hsame.config⟩
  | otherExtension entry owner =>
      have hsame := otherExtension_device world entry owner
      exact ⟨congrArg Device.od hsame, congrArg Device.config hsame⟩
  | _ => exact ⟨rfl, rfl⟩

theorem step_configured {features : Features} {world : World} (h : world.Configured features)
    (call : Call) : (world.step features call).Configured features := by
  have hkept : (∀ access od config, call ≠ .init access od config) →
      (world.step features call).Configured features := by
    intro hcall
    obtain ⟨hod, hconfig⟩ := @step_config features world call hcall
    unfold Configured
    rw [hod, hconfig]
    exact h
  cases call with
  | init access od config => exact init_configured features access od config world
  | _ => exact hkept fun _ _ _ heq => nomatch heq

/-! ### Markers -/

/-- The marker of one input is set. -/
def marked (world : World) : Input → Bool
  | .digital bank => world.device.digitalInputEventTpdoPending.test bank
  | .analog channel => world.device.analogInputEventTpdoPending.test channel

/-- The state the loops of a bound pass start from. -/
def start (env : PassEnv) (world : World) : Pass := world.device.beginPass env world.memory true

/-- An event of the input fires in the pass that starts here. -/
def fires (env : PassEnv) (world : World) : Input → Bool
  | .digital bank => Pass.digitalEvent env (world.start env) bank
  | .analog channel =>
      Pass.analogEvent env (Pass.digitalRefreshInputs env (world.start env)) channel

/-- For a digital input, the waiting filter configuration is forwarded in this pass. -/
def forwarded (env : PassEnv) (world : World) : Input → Bool
  | .digital _ => Pass.forwards env (world.start env)
  | .analog _ => true

/-- A call that may take the marker of an input away. -/
def Retires (world : World) (input : Input) : Call → Prop
  | .init _ _ _ => True
  | .bindOD _ => True
  | .tpdoAccepted _ mapping _ =>
      ∃ io ∈ mapping, io.index = entryIndex (world.device.bound.carrier input.carrier) ∧
        io.subIndex = input.subIndex
  | _ => False

/-! ### What takes a marker away -/

theorem test_retireDigital {device : Device} {subIndex bank : Nat} (hsub : subIndex ≠ bank + 1) :
    (device.retireDigitalInputTpdoEvent subIndex).digitalInputEventTpdoPending.test bank =
      device.digitalInputEventTpdoPending.test bank := by
  unfold Device.retireDigitalInputTpdoEvent
  split
  · rfl
  case isFalse hrange =>
      rw [Bool.or_eq_true, decide_eq_true_eq, not_or] at hrange
      have hne : subIndex - 1 ≠ bank := by omega
      simp [hne]

theorem test_retireAnalog {device : Device} {subIndex channel : Nat}
    (hsub : subIndex ≠ channel + 1) :
    (device.retireAnalogInputTpdoEvent subIndex).analogInputEventTpdoPending.test channel =
      device.analogInputEventTpdoPending.test channel := by
  unfold Device.retireAnalogInputTpdoEvent
  split
  · rfl
  case isFalse hrange =>
      rw [Bool.or_eq_true, decide_eq_true_eq, not_or] at hrange
      have hne : subIndex - 1 ≠ channel := by omega
      simp [hne]

theorem retireDigital_analog (device : Device) (subIndex : Nat) :
    (device.retireDigitalInputTpdoEvent subIndex).analogInputEventTpdoPending =
      device.analogInputEventTpdoPending := by
  unfold Device.retireDigitalInputTpdoEvent
  split <;> rfl

theorem retireAnalog_digital (device : Device) (subIndex : Nat) :
    (device.retireAnalogInputTpdoEvent subIndex).digitalInputEventTpdoPending =
      device.digitalInputEventTpdoPending := by
  unfold Device.retireAnalogInputTpdoEvent
  split <;> rfl

theorem commitAnalogInput_markers (device : Device) (subIndex : Nat) (value : BitVec 16) :
    (device.commitAnalogInputCommunication subIndex value).digitalInputEventTpdoPending =
        device.digitalInputEventTpdoPending ∧
      (device.commitAnalogInputCommunication subIndex value).analogInputEventTpdoPending =
        device.analogInputEventTpdoPending := by
  unfold Device.commitAnalogInputCommunication
  split <;> exact ⟨rfl, rfl⟩

theorem commitMappedObject_marked {features : Features} {access : OdAccess} {buffer : TxFrame}
    {state : (Device × Memory) × Nat} {io : MappedObject} {input : Input}
    (hio : ¬(io.index = entryIndex (state.1.1.bound.carrier input.carrier) ∧
      io.subIndex = input.subIndex)) :
    (ofPair (commitMappedObject features access buffer state io).1).marked input =
      (ofPair state.1).marked input := by
  obtain ⟨⟨device, memory⟩, bitOffset⟩ := state
  have hmapped : ∀ {owned : OwnExtension} {limit : Nat},
      (decide (entryIndex (device.bound.carrier owned) ≠ 0) &&
          decide (io.index = entryIndex (device.bound.carrier owned)) &&
          decide (0 < io.mappedBits) && decide (io.mappedBits ≤ limit)) = true →
        input.carrier = owned → io.subIndex ≠ input.subIndex := by
    intro owned limit hmaps howned hsub
    simp only [Bool.and_eq_true, decide_eq_true_eq] at hmaps
    exact hio ⟨by rw [howned]; exact hmaps.1.1.2, hsub⟩
  unfold commitMappedObject
  dsimp only
  split
  case isTrue hdigital =>
      rw [Bool.and_eq_true] at hdigital
      cases input with
      | digital bank =>
          exact test_retireDigital (@hmapped .digitalInput8 8 hdigital.2 rfl)
      | analog channel =>
          exact congrArg (Bitmap.test · channel) (retireDigital_analog device io.subIndex)
  case isFalse =>
      split
      · rfl
      · split
        case h_1 communicated _ hmaps =>
            have hretire : ∀ device' : Device,
                (ofPair (device'.retireAnalogInputTpdoEvent io.subIndex, memory)).marked input =
                  (ofPair (device', memory)).marked input := by
              intro device'
              cases input with
              | digital bank =>
                  exact congrArg (Bitmap.test · bank) (retireAnalog_digital device' io.subIndex)
              | analog channel =>
                  exact test_retireAnalog (@hmapped .analogInput16 16 hmaps rfl)
            split
            · refine (hretire _).trans ?_
              obtain ⟨hdigital, hanalog⟩ := commitAnalogInput_markers device io.subIndex
                (communicated.setWidth 16)
              cases input with
              | digital bank => exact congrArg (Bitmap.test · bank) hdigital
              | analog channel => exact congrArg (Bitmap.test · channel) hanalog
            · exact hretire device
        · cases input <;> rfl
        · rfl

theorem tpdoAccepted_marked {features : Features} {access : OdAccess}
    {mapping : List MappedObject} {buffer : TxFrame} {world : World} {input : Input}
    (hretires : ¬world.Retires input (.tpdoAccepted access mapping buffer)) :
    (ofPair (commitSuccessfulTpdo features access mapping buffer world.device
      world.memory)).marked input = world.marked input := by
  have hrun := @run_invariant_of_everyStep _ _ (commitMappedObject features access buffer)
    (fun state => Unmoved world (ofPair state.1) ∧
      (ofPair state.1).marked input = world.marked input)
    (fun _ io => ¬(io.index = entryIndex (world.device.bound.carrier input.carrier) ∧
      io.subIndex = input.subIndex))
    (fun state io h hio => ⟨h.1.trans (commitMappedObject_unmoved features access buffer state io),
      (commitMappedObject_marked (by
        have hbound : state.1.1.bound = world.device.bound := h.1.bound
        rwa [hbound])).trans h.2⟩)
    ((world.device, world.memory), 0) mapping ⟨.refl world, rfl⟩
    ((everyStep_inputs _ mapping).mpr fun io hmem hio => hretires ⟨io, hmem, hio⟩)
  exact hrun.2

/-! ### One pass -/

theorem start_kept (env : PassEnv) (world : World) :
    Pass.Kept ⟨world.device, world.memory, []⟩ (world.start env) :=
  Device.beginPass_kept env world.device world.memory true

theorem start_device (env : PassEnv) (world : World) :
    { (world.start env).device with failSafeOutputApplyComplete := true } =
        { world.device with failSafeOutputApplyComplete := true } ∧
      (world.start env).memory = world.memory := by
  unfold start Device.beginPass
  split <;> exact ⟨rfl, rfl⟩

/-- The entries of the analogue stage of a hooked Device are distinct. -/
theorem separate_of_hooked {features : Features} {device : Device} {memory : Memory} {od : Nat}
    (hslot : logicalDeviceValid device.logicalDevice = true)
    (h : Device.Hooked features device memory od) (hevents : features.analogEvents = true)
    (hchannels : device.config.analogInputChannels ≠ 0) : Pass.Separate device.bound := by
  have hinput : device.bound.analogInput16 = some (device.object od .analogInput16) :=
    h.carrier .analogInput16 (by
      simp [OwnExtension.installed, OwnExtension.compiled, OwnExtension.count, hevents, hchannels])
  have hsource : device.bound.analogInterruptSource =
      some (device.object od .analogInterruptSource) :=
    h.carrier .analogInterruptSource (by
      simp [OwnExtension.installed, OwnExtension.compiled, OwnExtension.count, hevents, hchannels])
  have hcanonical : ∀ p ∈ device.bound.analogParameters, canonicalIndexValid p.2 = true ∧
      p.2 ≠ indexAnalogInput16 ∧ p.2 ≠ indexAnalogInterruptSource := by
    intro p hp
    simp only [BoundOd.analogParameters, List.mem_cons, List.not_mem_nil, or_false] at hp
    rcases hp with rfl | rfl | rfl | rfl | rfl | rfl | rfl | rfl <;>
      exact ⟨rfl, by dsimp only; decide, by dsimp only; decide⟩
  constructor
  · intro p hp entry hentry
    obtain ⟨hvalid, hneInput, hneSource⟩ := hcanonical p hp
    have hplace := (h.parameters p hp).resolve_left (by rw [hentry]; exact Option.some_ne_none _)
    obtain rfl : entry = ⟨od, profileIndex device.logicalDevice p.2⟩ :=
      Option.some.inj (hentry.symm.trans hplace)
    rw [hinput, hsource]
    refine ⟨fun heq => hneInput ?_, fun heq => hneSource ?_⟩
    · exact (profileIndex_injective hslot (Device.canonicalIndex_valid .analogInput16) hvalid
        (congrArg OdEntry.index (Option.some.inj heq))).symm
    · exact (profileIndex_injective hslot (Device.canonicalIndex_valid .analogInterruptSource)
        hvalid (congrArg OdEntry.index (Option.some.inj heq))).symm
  · intro entry hentry heq
    have hsame : device.object od .analogInput16 = device.object od .analogInterruptSource :=
      Option.some.inj ((hinput.symm.trans hentry).trans (heq.symm.trans hsource))
    exact absurd (Device.object_injective hslot hsame) (by decide)

theorem separate_of_sound {features : Features} {world : World} (h : world.Sound features)
    (env : PassEnv) (henv : env.features = features) :
    env.features.analogEvents = true →
      Pass.analogStage (Pass.digitalRefreshInputs env (world.start env)) = true →
        Pass.Separate (Pass.digitalRefreshInputs env (world.start env)).device.bound := by
  intro hevents hstage
  have hkept := (start_kept env world).trans
    (Pass.digitalRefreshInputs_inputs env (world.start env)).kept
  simp only [Pass.analogStage, Bool.and_eq_true, decide_eq_true_eq] at hstage
  have hbound : world.device.odBound = true := by
    have := hstage.1.1.1
    rwa [hkept.odBound] at this
  have hchannels : world.device.config.analogInputChannels ≠ 0 := by
    have := hstage.2
    rwa [hkept.config] at this
  obtain ⟨od, -, hhooked⟩ := h.hooked hbound
  rw [hkept.bound]
  exact separate_of_hooked h.slot hhooked (by rw [← henv]; exact hevents) hchannels

theorem fires_idle (env : PassEnv) (world : World)
    (hidle : (!world.device.odBound || world.device.config.io.isNone) = true) (input : Input) :
    world.fires env input = false := by
  have hstage : ∀ pass : Pass, pass.device.odBound = world.device.odBound →
      pass.device.config = world.device.config →
        (pass.device.odBound && pass.io.readDigital8) = false ∧
          (pass.device.odBound && pass.io.readAnalog16) = false := by
    intro pass hodBound hconfig
    rw [Pass.io, hodBound, hconfig]
    rw [Bool.or_eq_true, Bool.not_eq_true'] at hidle
    rcases hidle with hunbound | hnoIo
    · simp [hunbound]
    · rw [Option.isNone_iff_eq_none] at hnoIo
      simp [hnoIo]
  have hstart := start_kept env world
  have hrefreshed := hstart.trans (Pass.digitalRefreshInputs_inputs env (world.start env)).kept
  cases input with
  | digital bank =>
      simp [fires, Pass.digitalEvent, Pass.digitalStage,
        (hstage (world.start env) hstart.odBound hstart.config).1]
  | analog channel =>
      simp [fires, Pass.analogEvent, Pass.analogStage,
        (hstage (Pass.digitalRefreshInputs env (world.start env)) hrefreshed.odBound
          hrefreshed.config).2]

section Process

variable {features : Features} {world : World} (h : world.Sound features) (access : OdAccess)
  (product : Product)

include h

/-- A pass sets the markers of the events that fire in it, and clears none. -/
theorem process_marked (input : Input) :
    (world.step features (.process access product)).marked input =
      (world.marked input || world.fires ⟨features, access, product⟩ input) := by
  let env : PassEnv := ⟨features, access, product⟩
  have hstart := (start_device env world).1
  have hdigital := Pass.digitalRefreshInputs_device env (world.start env)
  have hanalog := Pass.analogRefreshInputs_device (separate_of_sound h env rfl)
  change (ofPair ((world.device.process env world.memory).device,
    (world.device.process env world.memory).memory)).marked input = _
  unfold Device.process
  split
  case isTrue hidle =>
      have hbegin : (ofPair ((world.device.beginPass env world.memory false).device,
          (world.device.beginPass env world.memory false).memory)).marked input =
            world.marked input := by
        unfold Device.beginPass
        split <;> cases input <;> rfl
      rw [fires_idle env world hidle input, Bool.or_false]
      exact hbegin
  case isFalse =>
      have houtputs := (Pass.digitalApplyOutputs_outputs env (Pass.analogRefreshInputs env
        (Pass.digitalRefreshInputs env (world.start env)))).only.trans
          (Pass.analogApplyOutputs_outputs env _).only
      cases input with
      | digital bank =>
          have hlast := (congrArg Device.digitalInputEventTpdoPending houtputs.device :).trans
            (congrArg Device.digitalInputEventTpdoPending hanalog :)
          have hmarks := Pass.digitalRefreshInputs_marked env (world.start env) bank
          rw [(congrArg Device.digitalInputEventTpdoPending hstart :)] at hmarks
          exact (congrArg (Bitmap.test · bank) hlast).trans hmarks
      | analog channel =>
          have hlast := (congrArg Device.analogInputEventTpdoPending houtputs.device :)
          have hmarks := Pass.analogRefreshInputs_marked (separate_of_sound h env rfl) channel
          have hfirst := (congrArg Device.analogInputEventTpdoPending hdigital :).trans
            (congrArg Device.analogInputEventTpdoPending hstart :)
          rw [hfirst] at hmarks
          exact (congrArg (Bitmap.test · channel) hlast).trans hmarks

end Process

theorem io_of_any {config : DeviceConfig} {callback : IoIf → Bool} {none : IoIf}
    (h : config.io.any callback = true) : callback (config.io.getD none) = true := by
  cases hio : config.io with
  | none =>
      rw [hio] at h
      cases h
  | some io =>
      rw [hio] at h
      exact h

/-- A bound pass that starts with a marker requests the TPDO of its input again. -/
theorem process_requests {features : Features} {world : World} (h : world.Sound features)
    (hconfigured : world.Configured features) (access : OdAccess) (product : Product)
    {input : Input} (hbound : world.device.odBound = true)
    (hpresent : input.present features world.device.config = true)
    (hmarked : world.marked input = true)
    (hforwarded : world.forwarded ⟨features, access, product⟩ input = true) :
    ∃ od, world.device.od = some od ∧
      Effect.requestTPDO (world.device.object od input.carrier) input.subIndex ∈
        (world.pass features access product).effects := by
  let env : PassEnv := ⟨features, access, product⟩
  obtain ⟨od, hod, hhooked⟩ := h.hooked hbound
  have hvalid := hconfigured (by rw [hod]; rfl)
  have hinstalled := Input.installed_of_present hpresent
  have hcarrier := hhooked.carrier input.carrier hinstalled
  have hextension := (hhooked.installed input.carrier hinstalled).extension
  have hstart := start_kept env world
  have hmarks := (start_device env world).1
  have hio : (world.start env).io = world.device.config.io.getD
      ⟨false, false, false, false, false, false⟩ := by
    rw [Pass.io, hstart.config]
  have hslot : ((world.start env).memory.extension
      (world.device.object od input.carrier)).isSome = true := by
    rw [hstart.extension, hextension]
    rfl
  refine ⟨od, hod, ?_⟩
  have hactive : ¬(!world.device.odBound || world.device.config.io.isNone) = true →
      Effect.requestTPDO (world.device.object od input.carrier) input.subIndex ∈
        (Pass.analogRefreshInputs env (Pass.digitalRefreshInputs env (world.start env))).effects →
        Effect.requestTPDO (world.device.object od input.carrier) input.subIndex ∈
          (world.pass features access product).effects := by
    intro hnot hmem
    unfold pass Device.process
    rw [if_neg hnot]
    exact ((Pass.digitalApplyOutputs_outputs ..).only.trans
      (Pass.analogApplyOutputs_outputs ..).only).effects.subset hmem
  cases input with
  | digital bank =>
      rw [Input.present, Bool.and_eq_true, decide_eq_true_eq] at hpresent
      obtain ⟨hevents, hbank⟩ := hpresent
      have hbanks : world.device.config.digitalInputBanks ≠ 0 := by omega
      have hread := hvalid.readDigital8 hbanks
      have hset := hvalid.setDigitalInputFilter8 hevents hbanks
      have hfilter := hhooked.carrier .digitalInputFilter8 (by
        simp [OwnExtension.installed, OwnExtension.compiled, OwnExtension.count, hevents, hbanks])
      have hinput : (world.start env).device.bound.digitalInput8 =
          some (world.device.object od .digitalInput8) := by
        rw [hstart.bound]
        exact hcarrier
      apply hactive
      · cases hnone : world.device.config.io with
        | none =>
            rw [hnone] at hread
            cases hread
        | some io => simp [hbound]
      · apply (Pass.analogRefreshInputs_inputs ..).kept.effects.subset
        refine Pass.digitalRefreshInputs_requests env hevents ?_ ?_ hinput hslot ?_ ?_
        · rw [Pass.digitalStage, hstart.odBound, hbound, hio, io_of_any hread, hinput,
            hstart.config]
          simp [hbanks]
        · have hforward := (Pass.forwardInputFilterConfiguration_spec env (world.start env)).2.2
          rw [hforward]
          · exact hforwarded
          · rw [hstart.bound]
            exact Option.isSome_iff_exists.mpr ⟨_, hfilter⟩
          · rw [hio]
            exact io_of_any hset
        · rwa [hstart.config]
        · rw [(congrArg Device.digitalInputEventTpdoPending hmarks :)]
          exact hmarked
  | analog channel =>
      rw [Input.present, Bool.and_eq_true, decide_eq_true_eq] at hpresent
      obtain ⟨hevents, hchannel⟩ := hpresent
      have hchannels : world.device.config.analogInputChannels ≠ 0 := by omega
      have hread := hvalid.readAnalog16 hchannels
      have hkept := hstart.trans (Pass.digitalRefreshInputs_inputs env (world.start env)).kept
      have hdigital := Pass.digitalRefreshInputs_device env (world.start env)
      have hinput : (Pass.digitalRefreshInputs env (world.start env)).device.bound.analogInput16 =
          some (world.device.object od .analogInput16) := by
        rw [hkept.bound]
        exact hcarrier
      apply hactive
      · cases hnone : world.device.config.io with
        | none =>
            rw [hnone] at hread
            cases hread
        | some io => simp [hbound]
      · refine Pass.analogRefreshInputs_requests (separate_of_sound h env rfl) hevents ?_ hinput
          ?_ ?_ ?_
        · rw [Pass.analogStage, hkept.odBound, hbound, Pass.io, hkept.config, io_of_any hread,
            hinput]
          simp [hchannels]
        · rw [hkept.extension, hextension]
          rfl
        · rwa [hkept.config]
        · rw [(congrArg Device.analogInputEventTpdoPending hdigital :),
            (congrArg Device.analogInputEventTpdoPending hmarks :)]
          exact hmarked

theorem networkRead_markers (access : OdAccess) (read : NetworkRead) (world : World) :
    (ofPair (world.device.networkRead access read
        world.memory)).device.digitalInputEventTpdoPending =
        world.device.digitalInputEventTpdoPending ∧
      (ofPair (world.device.networkRead access read
        world.memory)).device.analogInputEventTpdoPending =
        world.device.analogInputEventTpdoPending := by
  unfold Device.networkRead
  split
  · unfold Device.callReadHook
    dsimp only
    split
    · split
      · exact commitAnalogInput_markers ..
      · exact ⟨rfl, rfl⟩
    · split <;> exact ⟨rfl, rfl⟩
    · exact ⟨rfl, rfl⟩
  · exact ⟨rfl, rfl⟩

theorem step_marked {features : Features} {world : World} (h : world.Sound features)
    {input : Input} {call : Call} (hmarked : world.marked input = true)
    (hretires : ¬world.Retires input call) : (world.step features call).marked input = true := by
  have hsame : ∀ after : World, after.device.digitalInputEventTpdoPending =
      world.device.digitalInputEventTpdoPending →
        after.device.analogInputEventTpdoPending = world.device.analogInputEventTpdoPending →
          after.marked input = true := by
    intro after hdigital hanalog
    rw [← hmarked]
    cases input with
    | digital bank => exact congrArg (Bitmap.test · bank) hdigital
    | analog channel => exact congrArg (Bitmap.test · channel) hanalog
  cases call with
  | init access od config => exact absurd trivial hretires
  | bindOD access => exact absurd trivial hretires
  | process access product =>
      rw [process_marked h access product, hmarked, Bool.true_or]
  | tpdoAccepted access mapping buffer => exact (tpdoAccepted_marked hretires).trans hmarked
  | networkWrite write =>
      have hdevice := networkWrite_device write world.device world.memory
      exact hsame _ (congrArg Device.digitalInputEventTpdoPending hdevice :)
        (congrArg Device.analogInputEventTpdoPending hdevice :)
  | networkRead access read =>
      have hdevice := networkRead_markers access read world
      exact hsame _ hdevice.1 hdevice.2
  | otherExtension entry owner =>
      have hdevice := otherExtension_device world entry owner
      exact hsame _ (congrArg Device.digitalInputEventTpdoPending hdevice)
        (congrArg Device.analogInputEventTpdoPending hdevice)
  | setNmtOperational access operational =>
      refine hsame _ ?_ ?_ <;>
        (simp only [step, withDevice, Device.setNmtOperational]; split <;> rfl)
  | takeErrorEvent =>
      refine hsame _ ?_ ?_ <;> (simp only [step, withDevice, Device.takeErrorEvent]; split <;> rfl)
  | _ => exact hsame _ rfl rfl

/-- What one state promises about the events of every input. -/
structure Delivery (features : Features) (world : World) : Prop where
  fired : ∀ access product input, world.fires ⟨features, access, product⟩ input = true →
    (world.step features (.process access product)).marked input = true
  kept : ∀ call input, world.marked input = true → ¬world.Retires input call →
    (world.step features call).marked input = true
  requested : ∀ access product input, world.device.odBound = true →
    input.present features world.device.config = true → world.marked input = true →
      world.forwarded ⟨features, access, product⟩ input = true →
        ∃ od, world.device.od = some od ∧
          Effect.requestTPDO (world.device.object od input.carrier) input.subIndex ∈
            (world.pass features access product).effects

theorem delivery_of_sound {features : Features} {world : World} (h : world.Sound features)
    (hconfigured : world.Configured features) : world.Delivery features where
  fired := fun access product input hfires => by
    rw [process_marked h access product, hfires, Bool.or_true]
  kept := fun _ _ hmarked hretires => step_marked h hmarked hretires
  requested := fun access product _ hbound hpresent hmarked hforwarded =>
    process_requests h hconfigured access product hbound hpresent hmarked hforwarded

/-- A run in which no call retires the input. -/
def Undelivered (features : Features) (input : Input) : World → List Call → Prop :=
  EveryStep (World.step features) fun world call => ¬world.Retires input call

/-- After the event of an input, its marker lasts and its TPDO is requested again. -/
def Followed (features : Features) (world : World) : Prop :=
  ∀ access product input later, world.fires ⟨features, access, product⟩ input = true →
    Undelivered features input (world.step features (.process access product)) later →
      (run (World.step features) (world.step features (.process access product)) later).marked
        input = true

/-- From the first `init` on, an event that fired is kept until its TPDO is accepted,
and every bound pass requests it again whose filter configuration is forwarded. -/
theorem inputEvents_of_run (features : Features) (start : World) (access : OdAccess)
    (od : Option Nat) (config : Option DeviceConfig) (calls : List Call) :
    (run (World.step features) start (.init access od config :: calls)).Delivery features ∧
      (run (World.step features) start (.init access od config :: calls)).Followed features := by
  have hreachable := @run_invariant _ _ (World.step features)
    (fun world => world.Sound features ∧ world.Configured features)
    (fun world call h => ⟨step_sound h.1 call, step_configured h.2 call⟩)
    (start.step features (.init access od config))
    ⟨Device.init_sound .., init_configured features access od config start⟩ calls
  refine ⟨delivery_of_sound hreachable.1 hreachable.2, ?_⟩
  intro access product input later hfires hlater
  have hdelivery := delivery_of_sound hreachable.1 hreachable.2
  exact (@run_invariant_of_everyStep _ _ (World.step features)
    (fun world => world.Sound features ∧ world.marked input = true)
    (fun world call => ¬world.Retires input call)
    (fun world call h hretires =>
      ⟨step_sound h.1 call, step_marked h.1 h.2 hretires⟩)
    _ later ⟨step_sound hreachable.1 _, hdelivery.fired access product input hfires⟩ hlater).2

/-! ### A filter change that the product is too busy to take -/

/-- A dictionary with one bank of digital inputs and every event enabled. -/
def inputMemory : Memory where
  shape := fun entry =>
    if entry.index = indexDeviceType then some (.variable 4 (odaSdoR ||| odaMb))
    else if entry.index = indexDigitalInterruptEnable then some (.variable 1 odaSdoRW)
    else if entry.index = indexDigitalInput8 then some (.array 1 1 (odaSdoR ||| odaTpdo))
    else if entry.index ∈ [indexDigitalInputPolarity8, indexDigitalInputFilter8,
        indexDigitalInterruptAny8, indexDigitalInterruptRising8,
        indexDigitalInterruptFalling8] then some (.array 1 1 odaSdoRW)
    else none
  extension := fun _ => none
  value := fun entry subIndex =>
    if entry.index = indexDeviceType then deviceTypeForCapabilities capDigitalInput
    else if entry.index = indexDigitalInterruptEnable then 1#32
    else if subIndex = 0 then 1#32
    else if entry.index = indexDigitalInterruptAny8 then 0xFF#32
    else 0#32

/-- A product whose inputs read `value` and whose filter setter answers `filter`. -/
def inputProduct (value : BitVec 8) (filter : IoResult) : Product where
  readDigital8 := fun _ => (.ok, value)
  writeDigital8 := fun _ _ => .ok
  writeDigital8Masked := fun _ _ _ => .ok
  readAnalog16 := fun _ => (.ok, 0#16)
  writeAnalog16 := fun _ _ => .ok
  setDigitalInputFilter8 := fun _ _ => filter

def inputFeatures : Features := ⟨true, false, false, false, false, 32⟩

/-- A peer changes the 0x6003 mask of bank one. -/
def filterWrite : NetworkWrite where
  entry := ⟨0, indexDigitalInputFilter8⟩
  subIndex := 1
  original := ⟨.ok, 1, 0xFF#32⟩
  other := ⟨.ok, 1, 0xFF#32⟩
  probe := false

/-- An event fires in the second pass, then the filter configuration changes. -/
def filterChanged : World :=
  run (World.step inputFeatures) ⟨{}, inputMemory⟩
    [.init .always (some 0) (some { io := some {}, digitalInputBanks := 1 }),
      .process .always (inputProduct 0x00#8 .ok), .process .always (inputProduct 0x01#8 .ok),
      .networkWrite filterWrite]

/-- The next pass starts bound and marked, and does not request the TPDO again. -/
theorem inputEvents_filterBusy :
    filterChanged.device.odBound = true ∧ filterChanged.marked (.digital 0) = true ∧
      (Input.digital 0).present inputFeatures filterChanged.device.config = true ∧
      (filterChanged.pass inputFeatures .always (inputProduct 0x01#8 .busy)).effects =
        [.setDigitalInputFilter8 0 0xFF#8] := by
  decide +kernel

end World

end CanopenRtt.Cia401
