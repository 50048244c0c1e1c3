import CanopenRtt.Cia401.DeviceRtt
import CanopenRtt.Cia401.EventDelivery
import CanopenRtt.Cia401.OutputWrites
/-!
# The Stopped obligation over whole runs

An observer notes when a transition to Stopped was accepted and when a pass has
brought every output into its error state. In between, and whenever a fail-safe
source is active, a pass writes error values only.
-/

namespace CanopenRtt.Cia401

open CanopenRtt.Support

/-- The fault the product reports for a class. -/
def Device.productFault (device : Device) : OutputClass → Bool
  | .digital => device.digitalOutputFaultActive
  | .analog => device.analogOutputFaultActive

namespace Adapter

/-- The dictionary after a pass, which is the one its output phases have read. -/
def memoryAfter (features : Features) (input : PassInput) (adapter : Adapter) : Memory :=
  (adapter.pass features input).1.2

/-- The output writes of one class in a pass. -/
def passWrites (features : Features) (input : PassInput) (output : OutputClass)
    (adapter : Adapter) : List Effect :=
  (adapter.pass features input).2.filter fun effect => effect.outputClass = some output

/-- The pass reaches a bound Device. -/
def passRuns (input : PassInput) (adapter : Adapter) : Bool :=
  adapter.runtime.serves input.stack && adapter.runtime.device.odBound

/-- The writes of a pass that only applies the error values of a class. -/
def passErrorWrites (features : Features) (input : PassInput) (output : OutputClass)
    (adapter : Adapter) : List Effect :=
  if adapter.passRuns input then
    adapter.runtime.device.errorWrites input.access (adapter.memoryAfter features input) output
  else []

/-- The pass left every bank and every channel in its error state. -/
def passApplies (features : Features) (input : PassInput) (adapter : Adapter) : Bool :=
  adapter.passRuns input &&
    adapter.runtime.device.errorApplied ⟨features, input.access, input.product⟩
      (adapter.memoryAfter features input)

/-- A source of the class is active in a pass: NMT Stopped, the fault of the product,
or the communication fault the pass finds. -/
def sourceActive (features : Features) (input : PassInput) (output : OutputClass)
    (adapter : Adapter) : Bool :=
  adapter.runtime.nmtState = .stopped || adapter.runtime.device.productFault output ||
    (adapter.runtime.prepareDevice features input).communicationFaultActive

/-- A transition to Stopped that the adapter accepts. -/
def accepts (adapter : Adapter) : Event → Bool
  | .nmtStateChanged _ stack state => adapter.runtime.serves stack && state = .stopped
  | _ => false

/-- The event ends the obligation: a pass that applied it, or the end of the
communication generation. -/
def discharges (features : Features) (adapter : Adapter) : Event → Bool
  | .processPass input => adapter.passApplies features input
  | .stop | .ready _ _ | .runtimeDeinit => true
  | _ => false

end Adapter

/-- The adapter, and whether an accepted Stopped transition is still to be applied. -/
structure Obliged where
  adapter : Adapter
  owed : Bool

namespace Obliged

def step (build : Build) (before : Obliged) (event : Event) : Obliged where
  adapter := before.adapter.step build event
  owed := before.adapter.accepts event ||
    (before.owed && !before.adapter.discharges build.features event)

/-- What one state promises about the next pass, whatever the pass meets. -/
structure FailSafeLaw (features : Features) (state : Obliged) : Prop where
  owed : state.owed = true → ∀ input output,
    state.adapter.passWrites features input output =
      state.adapter.passErrorWrites features input output
  active : ∀ input output, state.adapter.sourceActive features input output = true →
    state.adapter.passWrites features input output =
      state.adapter.passErrorWrites features input output

end Obliged

/-! ### The adapter keeps a sound Device -/

namespace Adapter

/-- The bound Device is hooked and an initialised one has an accepted configuration. -/
structure Sound (features : Features) (adapter : Adapter) : Prop where
  world : adapter.world.Sound features
  valid : adapter.runtime.deviceInitialized = true →
    ValidConfig features adapter.runtime.device.config

theorem core_sound {features : Features} {adapter : Adapter} (h : adapter.Sound features)
    (call : Call) (hcall : ∀ access od config, call ≠ .init access od config) :
    (adapter.core features call).Sound features := by
  refine ⟨World.step_sound h.world call, ?_⟩
  intro hinitialized
  have hconfig := (@World.step_config features adapter.world call hcall).2
  change ValidConfig features (adapter.world.step features call).device.config
  rw [hconfig]
  exact h.valid hinitialized

theorem sound_of_eq {features : Features} {before : Adapter} (h : before.Sound features)
    {after : Adapter} (hod : after.runtime.device.od = before.runtime.device.od)
    (hconfig : after.runtime.device.config = before.runtime.device.config)
    (hslot : after.runtime.device.logicalDevice = before.runtime.device.logicalDevice)
    (hbound : after.runtime.device.bound = before.runtime.device.bound)
    (hodBound : after.runtime.device.odBound = before.runtime.device.odBound)
    (hextensions : after.runtime.device.extensions = before.runtime.device.extensions)
    (hinitialized : after.runtime.deviceInitialized = before.runtime.deviceInitialized)
    (hshape : after.memory.shape = before.memory.shape)
    (hextension : after.memory.extension = before.memory.extension) : after.Sound features := by
  refine ⟨h.world.of_eq hod hconfig hslot hbound hodBound hextensions hshape hextension, ?_⟩
  intro hset
  rw [hconfig]
  exact h.valid (hinitialized ▸ hset)

/-- What a pass prepares is the fail-safe input of the Device and the latch. -/
theorem prepareDevice_frame (features : Features) (input : PassInput) (runtime : DeviceRtt) :
    runtime.prepareDevice features input =
      { runtime.device with
        outputSupervisionReady := (runtime.prepareDevice features input).outputSupervisionReady
        nmtStopped := (runtime.prepareDevice features input).nmtStopped
        communicationFaultActive :=
          (runtime.prepareDevice features input).communicationFaultActive } := by
  unfold DeviceRtt.prepareDevice Device.notifyOutputSupervision Device.setNmtStopped
    Device.setCommunicationFault
  dsimp only
  split
  · split <;> rfl
  · split <;> rfl

theorem finishPass_frame (features : Features) (runtime : DeviceRtt) (device : Device) :
    (runtime.finishPass features device).device =
        { device with nmtStopped := (runtime.finishPass features device).device.nmtStopped } ∧
      (runtime.finishPass features device).deviceInitialized = runtime.deviceInitialized := by
  unfold DeviceRtt.finishPass Device.setNmtStopped
  split
  · dsimp only
    split <;> exact ⟨rfl, rfl⟩
  · exact ⟨rfl, rfl⟩

theorem pass_sound {features : Features} {adapter : Adapter} (h : adapter.Sound features)
    (input : PassInput) : (ofPair (adapter.pass features input).1).Sound features := by
  unfold pass DeviceRtt.processPassLocked
  split
  · exact h
  · dsimp only
    have hprepared := prepareDevice_frame features input adapter.runtime
    have hkept := Device.process_kept ⟨features, input.access, input.product⟩
      (adapter.runtime.prepareDevice features input) adapter.memory
    obtain ⟨hfinished, hinitialized⟩ := finishPass_frame features adapter.runtime
      ((adapter.runtime.prepareDevice features input).process
        ⟨features, input.access, input.product⟩ adapter.memory).device
    have hsame : ∀ {α : Type} (field : Device → α),
        (∀ device stopped, field { device with nmtStopped := stopped } = field device) →
        field ((adapter.runtime.prepareDevice features input).process
            ⟨features, input.access, input.product⟩ adapter.memory).device =
          field (adapter.runtime.prepareDevice features input) →
        field (adapter.runtime.prepareDevice features input) = field adapter.runtime.device →
        field (adapter.runtime.finishPass features
            ((adapter.runtime.prepareDevice features input).process
              ⟨features, input.access, input.product⟩ adapter.memory).device).device =
          field adapter.runtime.device := by
      intro α field hstopped hpass hprepare
      rw [hfinished, hstopped, hpass, hprepare]
    refine sound_of_eq h ?_ ?_ ?_ ?_ ?_ ?_ hinitialized hkept.shape hkept.extension
    · exact hsame Device.od (fun _ _ => rfl) hkept.od (by rw [hprepared])
    · exact hsame Device.config (fun _ _ => rfl) hkept.config (by rw [hprepared])
    · exact hsame Device.logicalDevice (fun _ _ => rfl) hkept.logicalDevice (by rw [hprepared])
    · exact hsame Device.bound (fun _ _ => rfl) hkept.bound (by rw [hprepared])
    · exact hsame Device.odBound (fun _ _ => rfl) hkept.odBound (by rw [hprepared])
    · exact hsame Device.extensions (fun _ _ => rfl) hkept.extensions (by rw [hprepared])

theorem init_valid {features : Features} {access : OdAccess} {od : Option Nat}
    {config : Option DeviceConfig} {memory : Memory}
    (h : (Device.init features access od config memory).2.error = .ok) :
    ValidConfig features (Device.init features access od config memory).1.1.config := by
  apply World.init_configured features access od config ⟨{}, memory⟩
  change (Device.init features access od config memory).1.1.od.isSome = true
  cases od with
  | none => cases h
  | some od =>
  cases config with
  | none => cases h
  | some config =>
  unfold Device.init at h ⊢
  dsimp only at h ⊢
  split
  case isTrue hinvalid =>
      rw [if_pos hinvalid] at h
      exact absurd h hinvalid
  case isFalse =>
      rw [(Device.bindOD_same ..).1.od]
      rfl

theorem onBind_pending (features : Features) (access : OdAccess) (od : Option Nat)
    (memory : Memory) (runtime : DeviceRtt) :
    (runtime.onBind features access od memory).1.1.nmtStoppedApplyPending =
      runtime.nmtStoppedApplyPending := by
  unfold DeviceRtt.onBind
  dsimp only
  split
  · split <;> rfl
  · split <;> rfl

theorem bind_sound {features : Features} {adapter : Adapter} (h : adapter.Sound features)
    (access : OdAccess) (od : Option Nat) :
    (ofPair (adapter.runtime.onBind features access od adapter.memory).1).Sound features := by
  have hpublish : ∀ {device : Device} {memory : Memory} (initialized : Bool),
      Device.Sound features device memory →
      (initialized = true → ValidConfig features device.config) →
      Sound features ⟨{ adapter.runtime with
        device := if features.analogEvents = true then
            (device.setOutputSupervisionProbe
              adapter.runtime.outputSupervisionEstablished).setSdoReadMatcher true
          else device.setOutputSupervisionProbe adapter.runtime.outputSupervisionEstablished
        deviceInitialized := initialized }, memory⟩ := by
    intro device memory initialized hsound hvalid
    have hcore : Sound features
        ⟨{ adapter.runtime with device := device, deviceInitialized := initialized }, memory⟩ :=
      ⟨hsound, hvalid⟩
    split
    · exact sound_of_eq hcore rfl rfl rfl rfl rfl rfl rfl rfl rfl
    · exact sound_of_eq hcore rfl rfl rfl rfl rfl rfl rfl rfl rfl
  unfold DeviceRtt.onBind
  cases hinitialized : adapter.runtime.deviceInitialized with
  | false =>
      simp only [Bool.not_false, if_true]
      have hsound := Device.init_sound features access od (some adapter.runtime.config)
        adapter.memory
      split
      case isTrue hok => exact hpublish true hsound fun _ => init_valid hok
      case isFalse => exact ⟨hsound, fun hset => nomatch hset⟩
  | true =>
      simp only [Bool.not_true, Bool.false_eq_true, if_false]
      have hsame := (Device.bindOD_same features access { adapter.runtime.device with od := od }
        adapter.memory).1
      have hsound := @Device.bindOD_sound features access
        { adapter.runtime.device with od := od } adapter.memory h.world.slot
      have hvalid : ValidConfig features
          ({ adapter.runtime.device with od := od }.bindOD features access
            adapter.memory).1.1.config := by
        rw [hsame.config]
        exact h.valid hinitialized
      split
      · exact hpublish true hsound fun _ => hvalid
      · exact ⟨hsound, fun _ => hvalid⟩

theorem noteNmtState_frame (features : Features) (state : NmtState) (runtime : DeviceRtt) :
    (runtime.noteNmtState features state).device = runtime.device ∧
      (runtime.noteNmtState features state).deviceInitialized = runtime.deviceInitialized := by
  unfold DeviceRtt.noteNmtState
  split <;> exact ⟨rfl, rfl⟩

theorem reportEmergency_frame (state : NmtState) (event : Option (BitVec 16))
    (runtime : DeviceRtt) :
    (DeviceRtt.reportEmergency state event runtime).1 =
      { runtime with
        analogWarningReported :=
          (DeviceRtt.reportEmergency state event runtime).1.analogWarningReported } := by
  unfold DeviceRtt.reportEmergency
  dsimp only
  split
  · split <;> rfl
  · split <;> rfl

theorem onNmtStateChanged_unmoved (build : Build) (access : OdAccess) (stack : Stack)
    (state : NmtState) (memory : Memory) (runtime : DeviceRtt) :
    World.Unmoved ⟨runtime.device, memory⟩
        ⟨(runtime.onNmtStateChanged build access stack state memory).1.device, memory⟩ ∧
      (runtime.onNmtStateChanged build access stack state memory).1.deviceInitialized =
        runtime.deviceInitialized := by
  obtain ⟨hdevice, hinitialized⟩ := noteNmtState_frame build.features state runtime
  unfold DeviceRtt.onNmtStateChanged
  split
  · exact ⟨.refl _, rfl⟩
  · dsimp only
    rw [hdevice]
    have hoperational := World.setNmtOperational_unmoved access (decide (state = .operational))
      ⟨runtime.device, memory⟩
    split
    · exact ⟨hoperational, hinitialized⟩
    · rw [reportEmergency_frame]
      exact ⟨hoperational.trans (World.takeErrorEvent_unmoved _), hinitialized⟩

/-- While the generation is served, Stopped sets the obligation and nothing takes it. -/
theorem onNmtStateChanged_pending {build : Build} (hbuilt : build.features.outputFailSafe = true)
    (access : OdAccess) (stack : Stack) (state : NmtState) (memory : Memory)
    (runtime : DeviceRtt) :
    (runtime.onNmtStateChanged build access stack state memory).1.nmtStoppedApplyPending =
      (runtime.serves stack && decide (state = .stopped) || runtime.nmtStoppedApplyPending) := by
  have hnoted : (runtime.noteNmtState build.features state).nmtStoppedApplyPending =
      (decide (state = .stopped) || runtime.nmtStoppedApplyPending) := by
    rw [DeviceRtt.noteNmtState, if_pos hbuilt]
  unfold DeviceRtt.onNmtStateChanged
  cases hserves : runtime.serves stack with
  | false => simp
  | true =>
      rw [Bool.not_true, if_neg Bool.false_ne_true, Bool.true_and]
      dsimp only
      split
      · exact hnoted
      · rw [reportEmergency_frame]
        exact hnoted

theorem stopDevice_unmoved (features : Features) (device : Device) (memory : Memory) :
    World.Unmoved ⟨device, memory⟩ ⟨DeviceRtt.stopDevice features device, memory⟩ := by
  have hprobe : World.Unmoved ⟨device, memory⟩
      ⟨device.setOutputSupervisionProbe false, memory⟩ :=
    ⟨rfl, rfl, rfl, rfl, rfl, rfl, rfl, rfl, rfl⟩
  have hmatcher : ∀ d : Device, World.Unmoved ⟨d, memory⟩
      ⟨if features.analogEvents = true then d.setSdoReadMatcher false else d, memory⟩ := by
    intro d
    split <;> exact ⟨rfl, rfl, rfl, rfl, rfl, rfl, rfl, rfl, rfl⟩
  have hfailSafe : ∀ d : Device, World.Unmoved ⟨d, memory⟩
      ⟨if features.outputFailSafe = true then
          (d.setNmtStopped false).setCommunicationFault false
        else d, memory⟩ := by
    intro d
    split <;> exact ⟨rfl, rfl, rfl, rfl, rfl, rfl, rfl, rfl, rfl⟩
  have hreset : ∀ d : Device, World.Unmoved ⟨d, memory⟩ ⟨d.resetCommunicationState, memory⟩ :=
    fun _ => ⟨rfl, rfl, rfl, rfl, rfl, rfl, rfl, rfl, rfl⟩
  exact ((hprobe.trans (hmatcher _)).trans (hfailSafe _)).trans (hreset _)

theorem stop_sound {features : Features} {adapter : Adapter} (h : adapter.Sound features) :
    Sound features { adapter with runtime := adapter.runtime.onStop features } := by
  have hmoved := stopDevice_unmoved features adapter.runtime.device adapter.memory
  exact sound_of_eq h hmoved.od hmoved.config hmoved.logicalDevice hmoved.bound hmoved.odBound
    hmoved.extensions rfl rfl rfl

theorem quiesced_sound {features : Features} {adapter : Adapter} (h : adapter.Sound features) :
    (ofPair (adapter.runtime.onQuiesced features adapter.memory)).Sound features := by
  unfold DeviceRtt.onQuiesced
  split
  · exact h
  · exact ⟨⟨h.world.slot, fun hbound => nomatch hbound⟩, h.valid⟩

/-- Every event keeps a bound Device hooked and its configuration accepted. -/
theorem step_sound {build : Build} {adapter : Adapter} (h : adapter.Sound build.features)
    (event : Event) : (adapter.step build event).Sound build.features := by
  cases event with
  | bind access od => exact bind_sound h access od
  | ready stack state =>
      simp only [step, DeviceRtt.onReady]
      split <;> exact sound_of_eq h rfl rfl rfl rfl rfl rfl rfl rfl rfl
  | nmtStateChanged access stack state =>
      obtain ⟨hmoved, hinitialized⟩ := onNmtStateChanged_unmoved build access stack state
        adapter.memory adapter.runtime
      exact sound_of_eq h hmoved.od hmoved.config hmoved.logicalDevice hmoved.bound hmoved.odBound
        hmoved.extensions hinitialized rfl rfl
  | processPass input => exact pass_sound h input
  | stop => exact stop_sound h
  | quiesced => exact quiesced_sound h
  | runtimeDeinit => exact ⟨Device.sound_cleared .., fun hset => nomatch hset⟩
  | canTxSuccess access mapping buffer =>
      simp only [step]
      split
      · exact core_sound h _ fun _ _ _ heq => nomatch heq
      · exact h
  | applicationWrite entry subIndex value =>
      exact sound_of_eq h rfl rfl rfl rfl rfl rfl rfl rfl rfl
  | _ => exact core_sound h _ fun _ _ _ heq => nomatch heq

theorem writable_of_sound {features : Features} {adapter : Adapter} (h : adapter.Sound features)
    (hinitialized : adapter.runtime.deviceInitialized = true)
    (hbound : adapter.runtime.device.odBound = true) : adapter.runtime.device.Writable := by
  have hvalid := h.valid hinitialized
  obtain ⟨od, -, hhooked⟩ := h.world.hooked hbound
  constructor
  · intro hbanks
    have hcarrier := hhooked.carrier .digitalOutput8
      (by simp [OwnExtension.installed, OwnExtension.compiled, OwnExtension.count, world, hbanks])
    exact ⟨hvalid.writeDigital8 hbanks, Option.isSome_iff_exists.mpr ⟨_, hcarrier⟩⟩
  · intro hchannels
    have hcarrier := hhooked.carrier .analogOutput16
      (by simp [OwnExtension.installed, OwnExtension.compiled, OwnExtension.count, world,
        hchannels])
    exact ⟨hvalid.writeAnalog16 hchannels, Option.isSome_iff_exists.mpr ⟨_, hcarrier⟩⟩

/-! ### One pass -/

theorem passWrites_closed {features : Features} {input : PassInput} {adapter : Adapter}
    (h : adapter.runtime.serves input.stack = false) (output : OutputClass) :
    adapter.passWrites features input output = [] := by
  simp [passWrites, pass, DeviceRtt.processPassLocked, h]

theorem pass_served {features : Features} {input : PassInput} {adapter : Adapter}
    (h : adapter.runtime.serves input.stack = true) (output : OutputClass) :
    adapter.passWrites features input output =
        ((adapter.runtime.prepareDevice features input).process
          ⟨features, input.access, input.product⟩ adapter.memory).writes output ∧
      adapter.memoryAfter features input =
        ((adapter.runtime.prepareDevice features input).process
          ⟨features, input.access, input.product⟩ adapter.memory).memory := by
  simp [passWrites, memoryAfter, pass, DeviceRtt.processPassLocked, h, Pass.writes]

/-- A source of the class is active in the Device a pass prepares. -/
def preparedActive (features : Features) (input : PassInput) (output : OutputClass)
    (adapter : Adapter) : Bool :=
  (adapter.runtime.prepareDevice features input).failSafeActive output

theorem passWrites_active {features : Features} {input : PassInput} {adapter : Adapter}
    (h : adapter.Sound features) {output : OutputClass}
    (hbuilt : features.failSafeBuilt output = true)
    (hactive : adapter.preparedActive features input output = true) :
    adapter.passWrites features input output =
      adapter.passErrorWrites features input output := by
  have hprepared := prepareDevice_frame features input adapter.runtime
  have hodBound : (adapter.runtime.prepareDevice features input).odBound =
      adapter.runtime.device.odBound := by rw [hprepared]
  unfold passErrorWrites passRuns
  cases hserves : adapter.runtime.serves input.stack with
  | false => exact passWrites_closed hserves output
  | true =>
      obtain ⟨hwrites, hmemory⟩ := @pass_served features input adapter hserves output
      rw [hwrites, hmemory, Bool.true_and]
      cases hbound : adapter.runtime.device.odBound with
      | false =>
          rw [if_neg Bool.false_ne_true]
          exact Device.process_idle (by rw [hodBound, hbound]; rfl) output
      | true =>
          have hinitialized : adapter.runtime.deviceInitialized = true := by
            simp only [DeviceRtt.serves, Bool.and_eq_true] at hserves
            exact hserves.1.2
          have hwritable : (adapter.runtime.prepareDevice features input).Writable :=
            (writable_of_sound h hinitialized hbound).of_eq (by rw [hprepared]) (by rw [hprepared])
          rw [if_pos rfl, Device.process_writes (hodBound.trans hbound) hwritable hbuilt hactive]
          cases output with
          | digital => simp only [Device.errorWrites, Device.digitalErrorWrites]; rw [hprepared]
          | analog => simp only [Device.errorWrites, Device.analogErrorWrites]; rw [hprepared]

/-- NMT Stopped, now or since an obligation, reaches the Device in every pass. -/
theorem prepareDevice_nmtStopped {features : Features} (hbuilt : features.outputFailSafe = true)
    (input : PassInput) (runtime : DeviceRtt) :
    (runtime.prepareDevice features input).nmtStopped =
      (decide (runtime.nmtState = .stopped) || runtime.nmtStoppedApplyPending) := by
  unfold DeviceRtt.prepareDevice
  dsimp only
  rw [if_pos hbuilt]
  rfl

theorem preparedActive_of_pending {features : Features} (hbuilt : features.outputFailSafe = true)
    {adapter : Adapter} (hpending : adapter.runtime.nmtStoppedApplyPending = true)
    (input : PassInput) (output : OutputClass) :
    adapter.preparedActive features input output = true := by
  have hstopped := prepareDevice_nmtStopped hbuilt input adapter.runtime
  rw [hpending, Bool.or_true] at hstopped
  cases output with
  | digital => simp [preparedActive, Device.failSafeActive, Pass.digitalFailSafeActive, hstopped]
  | analog => simp [preparedActive, Device.failSafeActive, Pass.analogFailSafeActive, hstopped]

theorem preparedActive_of_source {features : Features} (hbuilt : features.outputFailSafe = true)
    {adapter : Adapter} {input : PassInput} {output : OutputClass}
    (h : adapter.sourceActive features input output = true) :
    adapter.preparedActive features input output = true := by
  have hprepared := prepareDevice_frame features input adapter.runtime
  have hstopped := prepareDevice_nmtStopped hbuilt input adapter.runtime
  rw [sourceActive, Bool.or_eq_true, Bool.or_eq_true] at h
  cases output with
  | digital =>
      have hfault : (adapter.runtime.prepareDevice features input).digitalOutputFaultActive =
          adapter.runtime.device.productFault .digital := by
        rw [hprepared]
        rfl
      rw [preparedActive, Device.failSafeActive, Pass.digitalFailSafeActive, hstopped, hfault]
      rcases h with (h | h) | h <;> simp [h]
  | analog =>
      have hfault : (adapter.runtime.prepareDevice features input).analogOutputFaultActive =
          adapter.runtime.device.productFault .analog := by
        rw [hprepared]
        rfl
      rw [preparedActive, Device.failSafeActive, Pass.analogFailSafeActive, hstopped, hfault]
      rcases h with (h | h) | h <;> simp [h]

/-- A pass takes the obligation only after it applied every error value. -/
theorem pass_pending {features : Features} {adapter : Adapter} (h : adapter.Sound features)
    (hbuilt : ∀ output, features.failSafeBuilt output = true)
    (hpending : adapter.runtime.nmtStoppedApplyPending = true) (input : PassInput)
    (happlies : adapter.passApplies features input = false) :
    (adapter.pass features input).1.1.nmtStoppedApplyPending = true := by
  have hfeature : features.outputFailSafe = true := by
    rw [Features.outputFailSafe, Bool.or_eq_true]
    exact Or.inl (hbuilt .digital)
  cases hserves : adapter.runtime.serves input.stack with
  | false =>
      rw [pass, DeviceRtt.processPassLocked, hserves, Bool.not_false, if_pos rfl]
      exact hpending
  | true =>
      have hmemory := (@pass_served features input adapter hserves .digital).2
      rw [pass, DeviceRtt.processPassLocked, hserves, Bool.not_true, if_neg Bool.false_ne_true]
      dsimp only
      unfold DeviceRtt.finishPass
      split
      case isFalse => exact hpending
      case isTrue hdone =>
          exfalso
          rw [Bool.and_eq_true] at hdone
          have hprepared := prepareDevice_frame features input adapter.runtime
          have hinitialized : adapter.runtime.deviceInitialized = true := by
            simp only [DeviceRtt.serves, Bool.and_eq_true] at hserves
            exact hserves.1.2
          have hodBound : (adapter.runtime.prepareDevice features input).odBound =
              adapter.runtime.device.odBound := by rw [hprepared]
          have hbound : adapter.runtime.device.odBound = true := by
            by_contra hunbound
            have hidle := hdone.2
            rw [Device.process, if_pos (by rw [hodBound, eq_false_of_ne_true hunbound]; rfl),
              Device.beginPass, if_pos hfeature] at hidle
            cases hidle
          have hwritable : (adapter.runtime.prepareDevice features input).Writable :=
            (writable_of_sound h hinitialized hbound).of_eq (by rw [hprepared]) (by rw [hprepared])
          have hcomplete := (Device.process_complete hwritable hbuilt
            (preparedActive_of_pending hfeature hpending input) hdone.2).2
          have herror : ∀ env memory,
              (adapter.runtime.prepareDevice features input).errorApplied env memory =
                adapter.runtime.device.errorApplied env memory := by
            intro env memory
            unfold Device.errorApplied
            rw [hprepared]
          rw [herror, ← hmemory] at hcomplete
          rw [passApplies, passRuns, hserves, hbound, hcomplete] at happlies
          cases happlies

end Adapter

namespace Obliged

/-- An obligation of the observer is an obligation of the adapter. -/
structure Carried (features : Features) (state : Obliged) : Prop where
  sound : state.adapter.Sound features
  pending : state.owed = true → state.adapter.runtime.nmtStoppedApplyPending = true

theorem step_carried {build : Build}
    (hbuilt : ∀ output, build.features.failSafeBuilt output = true) {state : Obliged}
    (h : Carried build.features state) (event : Event) :
    Carried build.features (state.step build event) := by
  have hfeature : build.features.outputFailSafe = true := by
    rw [Features.outputFailSafe, Bool.or_eq_true]
    exact Or.inl (hbuilt .digital)
  refine ⟨Adapter.step_sound h.sound event, ?_⟩
  intro howed
  rw [step, Bool.or_eq_true, Bool.and_eq_true] at howed
  cases event with
  | nmtStateChanged access stack nmtState =>
      change (state.adapter.runtime.onNmtStateChanged build access stack nmtState
        state.adapter.memory).1.nmtStoppedApplyPending = true
      rw [Adapter.onNmtStateChanged_pending hfeature, Bool.or_eq_true]
      exact howed.imp id fun hkept => h.pending hkept.1
  | processPass input =>
      obtain haccepts | ⟨howed, hdischarges⟩ := howed
      · cases haccepts
      · exact Adapter.pass_pending h.sound hbuilt (h.pending howed) input
          (by simpa [Adapter.discharges] using hdischarges)
  | ready stack nmtState =>
      obtain haccepts | ⟨-, hdischarges⟩ := howed
      · cases haccepts
      · cases hdischarges
  | stop =>
      obtain haccepts | ⟨-, hdischarges⟩ := howed
      · cases haccepts
      · cases hdischarges
  | runtimeDeinit =>
      obtain haccepts | ⟨-, hdischarges⟩ := howed
      · cases haccepts
      · cases hdischarges
  | bind access od =>
      have hpending := h.pending (howed.resolve_left Bool.false_ne_true).1
      exact (Adapter.onBind_pending ..).trans hpending
  | quiesced =>
      have hpending := h.pending (howed.resolve_left Bool.false_ne_true).1
      simp only [step, Adapter.step, DeviceRtt.onQuiesced, Adapter.ofPair]
      split <;> exact hpending
  | canTxSuccess access mapping buffer =>
      have hpending := h.pending (howed.resolve_left Bool.false_ne_true).1
      simp only [step, Adapter.step]
      split <;> exact hpending
  | _ => exact h.pending (howed.resolve_left Bool.false_ne_true).1

theorem law_of_carried {features : Features}
    (hbuilt : ∀ output, features.failSafeBuilt output = true) {state : Obliged}
    (h : Carried features state) : FailSafeLaw features state := by
  have hfeature : features.outputFailSafe = true := by
    rw [Features.outputFailSafe, Bool.or_eq_true]
    exact Or.inl (hbuilt .digital)
  constructor
  case owed =>
      intro howed input output
      exact Adapter.passWrites_active h.sound (hbuilt output)
        (Adapter.preparedActive_of_pending hfeature (h.pending howed) input output)
  case active =>
      intro input output hactive
      exact Adapter.passWrites_active h.sound (hbuilt output)
        (Adapter.preparedActive_of_source hfeature hactive)

/-- The adapter after its attach. -/
def attached (config : DeviceConfig) (established faultActive : Bool) (memory : Memory) :
    Obliged where
  adapter :=
    { runtime :=
        { config := config
          outputSupervisionEstablished := established
          outputSupervisionFaultActive := faultActive }
      memory := memory }
  owed := false

/-- In every run of an attached adapter, a pass writes nothing but error values while a
Stopped transition is owed or a fail-safe source of the class is active. -/
theorem stoppedFailSafe_of_run (build : Build)
    (hdigital : build.features.digitalOutputFailSafe = true)
    (hanalog : build.features.analogOutputFailSafe = true) (config : DeviceConfig)
    (established faultActive : Bool) (memory : Memory) (events : List Event) :
    FailSafeLaw build.features
      (run (step build) (attached config established faultActive memory) events) := by
  have hbuilt : ∀ output, build.features.failSafeBuilt output = true := by
    intro output
    cases output
    · exact hdigital
    · exact hanalog
  apply law_of_carried hbuilt
  refine @run_invariant _ _ (step build) (Carried build.features)
    (fun _ event h => step_carried hbuilt h event) _ ⟨⟨?_, ?_⟩, ?_⟩ events
  · exact Device.sound_cleared build.features memory
  · exact fun hset => nomatch hset
  · exact fun howed => nomatch howed

/-- A dictionary with one digital output bank whose error value is 0x0F. -/
def failSafeMemory : Memory where
  shape := fun entry =>
    if entry.index = indexDeviceType then some (.variable 4 (odaSdoR ||| odaMb))
    else if entry.index = indexDigitalOutput8 then some (.array 1 1 (odaSdoRW ||| odaRpdo))
    else if entry.index ∈ [indexDigitalOutputPolarity8, indexDigitalOutputErrorMode8,
        indexDigitalOutputErrorValue8, indexDigitalOutputFilter8] then some (.array 1 1 odaSdoRW)
    else none
  extension := fun _ => none
  value := fun entry subIndex =>
    if entry.index = indexDeviceType then deviceTypeForCapabilities capDigitalOutput
    else if subIndex = 0 then 1#32
    else if entry.index = indexDigitalOutput8 then 0xAA#32
    else if entry.index = indexDigitalOutputErrorValue8 then 0x0F#32
    else if entry.index = indexDigitalOutputPolarity8 then 0#32
    else 0xFF#32

/-- A pass whose masked digital writes answer `result`. -/
def passAnswering (result : IoResult) : PassInput where
  access := .always
  product :=
    { readDigital8 := fun _ => (.ok, 0#8)
      writeDigital8 := fun _ _ => .ok
      writeDigital8Masked := fun _ _ _ => result
      readAnalog16 := fun _ => (.ok, 0#16)
      writeAnalog16 := fun _ _ => .ok
      setDigitalInputFilter8 := fun _ _ => .ok }
  stack := {}
  established := true
  faultActive := false

def failSafeBuild : Build := ⟨⟨false, true, false, true, false, 32⟩, false⟩

/-- Stopped is followed by Operational, and the backend is busy in the next pass. -/
def shortStop : List Event :=
  [.bind .always (some 0), .ready {} .operational, .nmtStateChanged .always {} .stopped,
    .nmtStateChanged .always {} .operational, .processPass (passAnswering .busy)]

def shortStopped (events : List Event) : Obliged :=
  run (step failSafeBuild)
    (attached { io := some {}, digitalOutputBanks := 1 } true true failSafeMemory)
    (shortStop ++ events)

/-- After the busy pass the error value is still owed; it is written once more. -/
theorem stoppedFailSafe_busyBackend :
    (shortStopped []).owed = true ∧
      (shortStopped []).adapter.passWrites failSafeBuild.features (passAnswering .ok) .digital =
        [.writeDigital8Masked 0 0x0F#8 0xFF#8] ∧
      FailSafeLaw failSafeBuild.features (shortStopped []) :=
  ⟨by decide +kernel, by decide +kernel, stoppedFailSafe_of_run failSafeBuild rfl rfl _ _ _ _ _⟩

/-- Once the error value was written, the command image drives the output again. -/
example :
    (shortStopped [.processPass (passAnswering .ok)]).owed = false ∧
      (shortStopped [.processPass (passAnswering .ok)]).adapter.passWrites failSafeBuild.features
        (passAnswering .ok) .digital = [.writeDigital8 0 0xAA#8] := by
  decide +kernel

end Obliged

end CanopenRtt.Cia401
