import CanopenRtt.Cia401.BindContract
/-!
# The objects that a pass accesses

The pass of a bound Device reads and writes the objects of its enabled capabilities, each at the
sub-indices of its banks, channels and source groups, and no other place of the dictionary.
-/

namespace CanopenRtt.Cia401

open CanopenRtt.Support

/-! ## The accesses -/

/-- The sub-indices of an object that hold process values or parameters. -/
def ProfileObject.subIndices (config : DeviceConfig) (object : ProfileObject) : List Nat :=
  match object.contract config with
  | .array count _ _ _ => (List.range count).map (· + 1)
  | .variable8 _ _ => [0]

/-- The objects of the build that the Device uses. -/
def ProfileObject.used (features : Features) (config : DeviceConfig) (object : ProfileObject) :
    Bool :=
  object.compiled features && object.capability config ≠ 0 && !object.optional

def ProfileObject.all : List ProfileObject :=
  [.digitalInput8, .digitalInputPolarity8, .digitalInputFilter8, .digitalInterruptEnable,
    .digitalInterruptAny8, .digitalInterruptRising8, .digitalInterruptFalling8, .digitalOutput8,
    .digitalOutputPolarity8, .digitalOutputErrorMode8, .digitalOutputErrorValue8,
    .digitalOutputFilter8, .analogInput16, .analogInterruptEnable, .analogInterruptTrigger,
    .analogInterruptSource, .analogInterruptUpper32, .analogInterruptLower32,
    .analogInterruptDeltaU32, .analogInterruptNegDeltaU32, .analogInterruptPosDeltaU32,
    .analogInputSiUnit, .analogInputOffset32, .analogInputPrescaling32, .analogOutput16,
    .analogOutputErrorMode, .analogOutputErrorValue32, .analogOutputOffset32,
    .analogOutputScaling32, .analogOutputSiUnit]

theorem ProfileObject.mem_all (object : ProfileObject) : object ∈ ProfileObject.all := by
  cases object <;> decide

/-- The places that a pass of this Device accesses. -/
def Device.accesses (features : Features) (device : Device) : List (Option OdEntry × Nat) :=
  (ProfileObject.all.filter (·.used features device.config)).flatMap fun object =>
    (object.subIndices device.config).map fun subIndex => (device.bound.get object, subIndex)

theorem Device.mem_accesses {features : Features} {device : Device}
    {place : Option OdEntry × Nat} :
    place ∈ device.accesses features ↔ ∃ object : ProfileObject,
      object.used features device.config = true ∧ place.1 = device.bound.get object ∧
        place.2 ∈ object.subIndices device.config := by
  unfold Device.accesses
  simp only [List.mem_flatMap, List.mem_filter, List.mem_map]
  constructor
  · rintro ⟨object, ⟨-, hused⟩, subIndex, hsub, rfl⟩
    exact ⟨object, hused, rfl, hsub⟩
  · rintro ⟨object, hused, hentry, hsub⟩
    exact ⟨object, ⟨object.mem_all, hused⟩, place.2, hsub, by rw [← hentry]⟩

/-- Accesses to these places only; any other one fails. -/
def OdAccess.within (allowed : List (Option OdEntry × Nat)) (access : OdAccess) : OdAccess where
  readable := fun entry subIndex =>
    decide ((some entry, subIndex) ∈ allowed) && access.readable entry subIndex
  writable := fun entry subIndex =>
    decide ((some entry, subIndex) ∈ allowed) && access.writable entry subIndex

def PassEnv.within (allowed : List (Option OdEntry × Nat)) (env : PassEnv) : PassEnv :=
  { env with access := env.access.within allowed }

section

variable {allowed : List (Option OdEntry × Nat)} {access : OdAccess} {entry : Option OdEntry}
  {subIndex : Nat}

namespace Memory

theorem getU32_within (memory : Memory) (h : (entry, subIndex) ∈ allowed) :
    memory.getU32 (access.within allowed) entry subIndex =
      memory.getU32 access entry subIndex := by
  unfold getU32 OdAccess.within
  cases entry with
  | none => rfl
  | some entry =>
      dsimp only
      simp only [decide_eq_true h, Bool.true_and]

theorem getU8_within (memory : Memory) (h : (entry, subIndex) ∈ allowed) :
    memory.getU8 (access.within allowed) entry subIndex = memory.getU8 access entry subIndex :=
  congrArg (Option.map (BitVec.setWidth 8)) (memory.getU32_within h)

theorem getI16_within (memory : Memory) (h : (entry, subIndex) ∈ allowed) :
    memory.getI16 (access.within allowed) entry subIndex = memory.getI16 access entry subIndex :=
  congrArg (Option.map (BitVec.setWidth 16)) (memory.getU32_within h)

theorem setU32_within (memory : Memory) (h : (entry, subIndex) ∈ allowed) (value : BitVec 32) :
    memory.setU32 (access.within allowed) entry subIndex value =
      memory.setU32 access entry subIndex value := by
  unfold setU32 OdAccess.within
  cases entry with
  | none => rfl
  | some entry =>
      dsimp only
      simp only [decide_eq_true h, Bool.true_and]

theorem setU8_within (memory : Memory) (h : (entry, subIndex) ∈ allowed) (value : BitVec 8) :
    memory.setU8 (access.within allowed) entry subIndex value =
      memory.setU8 access entry subIndex value :=
  memory.setU32_within h _

theorem setI16_within (memory : Memory) (h : (entry, subIndex) ∈ allowed) (value : BitVec 16) :
    memory.setI16 (access.within allowed) entry subIndex value =
      memory.setI16 access entry subIndex value :=
  memory.setU32_within h _

end Memory

end

/-- The places allow everything that the Device uses. -/
def Covers (allowed : List (Option OdEntry × Nat)) (features : Features) (device : Device) :
    Prop :=
  ∀ object : ProfileObject, object.used features device.config = true →
    ∀ subIndex ∈ object.subIndices device.config, (device.bound.get object, subIndex) ∈ allowed

theorem covers_accesses (features : Features) (device : Device) :
    Covers (device.accesses features) features device :=
  fun object hused _ hsub => Device.mem_accesses.mpr ⟨object, hused, rfl, hsub⟩

section

variable {allowed : List (Option OdEntry × Nat)} {features : Features} {device : Device}

theorem Covers.of_eq {after : Device} (h : Covers allowed features device)
    (hbound : after.bound = device.bound) (hconfig : after.config = device.config) :
    Covers allowed features after := by
  unfold Covers
  rw [hbound, hconfig]
  exact h

/-- One element of a used array. -/
theorem Covers.element (h : Covers allowed features device) (object : ProfileObject)
    {count length : Nat} {required allowed' : BitVec 8} {channel : Nat}
    (hcontract : object.contract device.config = .array count length required allowed')
    (hcompiled : object.compiled features = true)
    (hcapability : object.capability device.config ≠ 0) (hoptional : object.optional = false)
    (hlt : channel < count) : (device.bound.get object, channel + 1) ∈ allowed := by
  refine h object ?_ _ ?_
  · unfold ProfileObject.used
    rw [hcompiled, hoptional, decide_eq_true hcapability]
    rfl
  · unfold ProfileObject.subIndices
    rw [hcontract]
    exact List.mem_map.mpr ⟨channel, List.mem_range.mpr hlt, rfl⟩

/-- The value of a used VAR. -/
theorem Covers.variable8 (h : Covers allowed features device) (object : ProfileObject)
    {required allowed' : BitVec 8}
    (hcontract : object.contract device.config = .variable8 required allowed')
    (hcompiled : object.compiled features = true)
    (hcapability : object.capability device.config ≠ 0) (hoptional : object.optional = false) :
    (device.bound.get object, 0) ∈ allowed := by
  refine h object ?_ _ ?_
  · unfold ProfileObject.used
    rw [hcompiled, hoptional, decide_eq_true hcapability]
    rfl
  · unfold ProfileObject.subIndices
    rw [hcontract]
    exact List.mem_singleton.mpr rfl

/-- One group of the source object. -/
theorem Covers.source (h : Covers allowed features device)
    (hfeature : features.analogEvents = true) {bank : Nat}
    (hbank : bank < device.config.sourceBanks) :
    (device.bound.analogInterruptSource, bank + 1) ∈ allowed := by
  refine h.element .analogInterruptSource rfl hfeature ?_ rfl hbank
  intro hnone
  unfold DeviceConfig.sourceBanks at hbank
  have hnone : device.config.analogInputChannels = 0 := hnone
  omega

end

@[simp] theorem PassEnv.within_access (allowed : List (Option OdEntry × Nat)) (env : PassEnv) :
    (env.within allowed).access = env.access.within allowed := rfl

@[simp] theorem PassEnv.within_features (allowed : List (Option OdEntry × Nat)) (env : PassEnv) :
    (env.within allowed).features = env.features := rfl

@[simp] theorem PassEnv.within_product (allowed : List (Option OdEntry × Nat)) (env : PassEnv) :
    (env.within allowed).product = env.product := rfl

/-! ## The pass -/

namespace Pass

variable {env : PassEnv} {allowed : List (Option OdEntry × Nat)} {pass : Pass}

/-- The Device of a pass is one whose objects are covered, with this configuration. -/
def Served (allowed : List (Option OdEntry × Nat)) (features : Features) (config : DeviceConfig)
    (pass : Pass) : Prop :=
  Covers allowed features pass.device ∧ pass.device.config = config

theorem Served.of_kept {config : DeviceConfig} {features : Features} {after : Pass}
    (h : pass.Served allowed features config) (hkept : Kept pass after) :
    after.Served allowed features config :=
  ⟨h.1.of_eq hkept.bound hkept.config, hkept.config.trans h.2⟩

/-! ### Digital inputs -/

section

variable (hfeature : env.features.digitalEvents = true)

include hfeature

theorem forwardInputFilterBank_within {state : Pass × Bool}
    (h : Covers allowed env.features state.1.device) {bank : Nat}
    (hbank : bank < state.1.device.config.digitalInputBanks) :
    forwardInputFilterBank (env.within allowed) state bank =
      forwardInputFilterBank env state bank := by
  obtain ⟨pass, allApplied⟩ := state
  have hfilter : (pass.device.bound.digitalInputFilter8, bank + 1) ∈ allowed :=
    h.element .digitalInputFilter8 rfl hfeature (Nat.ne_zero_of_lt hbank) rfl hbank
  unfold forwardInputFilterBank
  simp only [PassEnv.within_access, PassEnv.within_product, Memory.getU8_within _ hfilter]
  rfl

theorem forwardInputFilterConfiguration_within (h : Covers allowed env.features pass.device) :
    forwardInputFilterConfiguration (env.within allowed) pass =
      forwardInputFilterConfiguration env pass := by
  have hloop : run (forwardInputFilterBank (env.within allowed)) (pass, true)
      (List.range pass.device.config.digitalInputBanks) =
        run (forwardInputFilterBank env) (pass, true)
          (List.range pass.device.config.digitalInputBanks) := by
    refine @run_range_congr _ _ _
      (fun state => state.1.Served allowed env.features pass.device.config) _ ?_ ?_ _ ⟨h, rfl⟩
    · rintro state bank hbank ⟨hcovers, hconfig⟩
      rw [← hconfig] at hbank
      exact forwardInputFilterBank_within hfeature hcovers hbank
    · exact fun state bank hserved =>
        hserved.of_kept (forwardInputFilterBank_inputs env state bank).kept
  unfold forwardInputFilterConfiguration
  rw [hloop]

theorem storeDigitalInput_within (h : Covers allowed env.features pass.device)
    (interruptEnable raw : BitVec 8) {bank : Nat}
    (hbank : bank < pass.device.config.digitalInputBanks) :
    storeDigitalInput (env.within allowed) interruptEnable pass bank raw =
      storeDigitalInput env interruptEnable pass bank raw := by
  have hbanks := Nat.ne_zero_of_lt hbank
  have hinput : (pass.device.bound.digitalInput8, bank + 1) ∈ allowed :=
    h.element .digitalInput8 rfl rfl hbanks rfl hbank
  have hpolarity : (pass.device.bound.digitalInputPolarity8, bank + 1) ∈ allowed :=
    h.element .digitalInputPolarity8 rfl hfeature hbanks rfl hbank
  have hany : (pass.device.bound.digitalInterruptAny8, bank + 1) ∈ allowed :=
    h.element .digitalInterruptAny8 rfl hfeature hbanks rfl hbank
  have hrising : (pass.device.bound.digitalInterruptRising8, bank + 1) ∈ allowed :=
    h.element .digitalInterruptRising8 rfl hfeature hbanks rfl hbank
  have hfalling : (pass.device.bound.digitalInterruptFalling8, bank + 1) ∈ allowed :=
    h.element .digitalInterruptFalling8 rfl hfeature hbanks rfl hbank
  have hconfiguration : getInputEventConfiguration (env.within allowed) pass (bank + 1) =
      getInputEventConfiguration env pass (bank + 1) := by
    unfold getInputEventConfiguration
    simp only [PassEnv.within_access, Memory.getU8_within _ hpolarity, Memory.getU8_within _ hany,
      Memory.getU8_within _ hrising, Memory.getU8_within _ hfalling]
  unfold storeDigitalInput
  simp only [PassEnv.within_access, hconfiguration, Memory.getU8_within _ hinput,
    Memory.setU8_within _ hinput]

end

theorem refreshDigitalInput_within (h : Covers allowed env.features pass.device)
    (interruptEnable : BitVec 8) {bank : Nat}
    (hbank : bank < pass.device.config.digitalInputBanks) :
    refreshDigitalInput (env.within allowed) interruptEnable pass bank =
      refreshDigitalInput env interruptEnable pass bank := by
  unfold refreshDigitalInput
  rw [PassEnv.within_features, PassEnv.within_product, PassEnv.within_access]
  cases hfeature : env.features.digitalEvents with
  | false =>
      have hinput : (pass.device.bound.digitalInput8, bank + 1) ∈ allowed :=
        h.element .digitalInput8 rfl rfl (Nat.ne_zero_of_lt hbank) rfl hbank
      simp only [Bool.false_eq_true, if_false, Memory.setU8_within _ hinput]
  | true =>
      have hkept := (requestPendingDigitalInputTpdo_inputs pass bank).kept
      have hcovers := h.of_eq hkept.bound hkept.config
      rw [← hkept.config] at hbank
      simp only [if_true, storeDigitalInput_within hfeature hcovers _ _ hbank]

theorem refreshDigitalInputs_within (h : Covers allowed env.features pass.device)
    (interruptEnable : BitVec 8) :
    refreshDigitalInputs (env.within allowed) interruptEnable pass =
      refreshDigitalInputs env interruptEnable pass := by
  unfold refreshDigitalInputs
  refine @run_range_congr _ _ _
    (fun state => state.Served allowed env.features pass.device.config) _ ?_ ?_ _ ⟨h, rfl⟩
  · rintro state bank hbank ⟨hcovers, hconfig⟩
    rw [← hconfig] at hbank
    exact refreshDigitalInput_within hcovers interruptEnable hbank
  · exact fun state bank hserved =>
      hserved.of_kept (refreshDigitalInput_inputs env interruptEnable state bank).kept

theorem digitalRefreshInputs_within (h : Covers allowed env.features pass.device) :
    digitalRefreshInputs (env.within allowed) pass = digitalRefreshInputs env pass := by
  unfold digitalRefreshInputs
  by_cases hskip : (!pass.device.odBound || !pass.io.readDigital8 ||
      pass.device.bound.digitalInput8.isNone || pass.device.config.digitalInputBanks = 0) = true
  · rw [if_pos hskip, if_pos hskip]
  rw [if_neg hskip, if_neg hskip, PassEnv.within_features]
  have hbanks : pass.device.config.digitalInputBanks ≠ 0 := by
    simp only [Bool.or_eq_true, decide_eq_true_eq, not_or] at hskip
    exact hskip.2
  cases hfeature : env.features.digitalEvents with
  | false =>
      simp only [Bool.false_eq_true, if_false]
      exact refreshDigitalInputs_within h _
  | true =>
      simp only [if_true, forwardInputFilterConfiguration_within hfeature h]
      have hkept := (forwardInputFilterConfiguration_inputs env pass).kept
      cases hforward : forwardInputFilterConfiguration env pass with
      | mk after applied =>
        rw [hforward] at hkept
        cases applied with
        | false => rfl
        | true =>
            have hcovers := h.of_eq hkept.bound hkept.config
            have hbanks' : after.device.config.digitalInputBanks ≠ 0 := by
              rw [hkept.config]
              exact hbanks
            have henable : (after.device.bound.digitalInterruptEnable, 0) ∈ allowed :=
              hcovers.variable8 .digitalInterruptEnable rfl hfeature hbanks' rfl
            simp only [PassEnv.within_access, Memory.getU8_within _ henable,
              refreshDigitalInputs_within hcovers]

/-! ### Analogue inputs -/

theorem applyConditioning_within (memory : Memory) {offsetEntry scalingEntry : Option OdEntry}
    {subIndex : Nat} (value : BitVec 16)
    (hoffset : env.features.analogConditioning = true → (offsetEntry, subIndex) ∈ allowed)
    (hscaling : env.features.analogConditioning = true → (scalingEntry, subIndex) ∈ allowed) :
    applyConditioning (env.within allowed) memory offsetEntry scalingEntry subIndex value =
      applyConditioning env memory offsetEntry scalingEntry subIndex value := by
  unfold applyConditioning
  rw [PassEnv.within_features]
  cases hfeature : env.features.analogConditioning with
  | false => rfl
  | true =>
      simp only [if_true, PassEnv.within_access, Memory.getU32_within _ (hoffset hfeature),
        Memory.getU32_within _ (hscaling hfeature)]

theorem analogSample_within (h : Covers allowed env.features pass.device) {channel : Nat}
    (hchannel : channel < pass.device.config.analogInputChannels) :
    analogSample (env.within allowed) pass channel = analogSample env pass channel := by
  unfold analogSample
  congr 1
  funext raw
  have hchannels := Nat.ne_zero_of_lt hchannel
  exact applyConditioning_within _ raw
    (fun hfeature => h.element .analogInputOffset32 rfl hfeature hchannels rfl hchannel)
    (fun hfeature => h.element .analogInputPrescaling32 rfl hfeature hchannels rfl hchannel)

section

variable (hfeature : env.features.analogEvents = true)

include hfeature

theorem analogEventFires_within (h : Covers allowed env.features pass.device) {channel : Nat}
    (hchannel : channel < pass.device.config.analogInputChannels) (trigger : BitVec 8)
    (value : BitVec 16) :
    analogEventFires (env.within allowed) pass channel trigger value =
      analogEventFires env pass channel trigger value := by
  have hchannels := Nat.ne_zero_of_lt hchannel
  have hupper : (pass.device.bound.analogInterruptUpper32, channel + 1) ∈ allowed :=
    h.element .analogInterruptUpper32 rfl hfeature hchannels rfl hchannel
  have hlower : (pass.device.bound.analogInterruptLower32, channel + 1) ∈ allowed :=
    h.element .analogInterruptLower32 rfl hfeature hchannels rfl hchannel
  have hdelta : (pass.device.bound.analogInterruptDeltaU32, channel + 1) ∈ allowed :=
    h.element .analogInterruptDeltaU32 rfl hfeature hchannels rfl hchannel
  have hnegative : (pass.device.bound.analogInterruptNegDeltaU32, channel + 1) ∈ allowed :=
    h.element .analogInterruptNegDeltaU32 rfl hfeature hchannels rfl hchannel
  have hpositive : (pass.device.bound.analogInterruptPosDeltaU32, channel + 1) ∈ allowed :=
    h.element .analogInterruptPosDeltaU32 rfl hfeature hchannels rfl hchannel
  unfold analogEventFires
  simp only [PassEnv.within_access, Memory.getU32_within _ hupper, Memory.getU32_within _ hlower,
    Memory.getU32_within _ hdelta, Memory.getU32_within _ hnegative,
    Memory.getU32_within _ hpositive]

theorem fireAnalogEvent_within (h : Covers allowed env.features pass.device) {channel : Nat}
    (hchannel : channel < pass.device.config.analogInputChannels) :
    fireAnalogEvent (env.within allowed) pass channel = fireAnalogEvent env pass channel := by
  have hsource : (pass.device.bound.analogInterruptSource, channel / 32 + 1) ∈ allowed := by
    refine h.source hfeature ?_
    unfold DeviceConfig.sourceBanks
    omega
  unfold fireAnalogEvent
  simp only [PassEnv.within_access, Memory.getU32_within _ hsource,
    Memory.setU32_within _ hsource]

theorem latchAnalogEvent_within (h : Covers allowed env.features pass.device) {channel : Nat}
    (hchannel : channel < pass.device.config.analogInputChannels) (value : BitVec 16) :
    latchAnalogEvent (env.within allowed) pass channel value =
      latchAnalogEvent env pass channel value := by
  have hchannels := Nat.ne_zero_of_lt hchannel
  have henable : (pass.device.bound.analogInterruptEnable, 0) ∈ allowed :=
    h.variable8 .analogInterruptEnable rfl rfl hchannels rfl
  have htrigger : (pass.device.bound.analogInterruptTrigger, channel + 1) ∈ allowed :=
    h.element .analogInterruptTrigger rfl hfeature hchannels rfl hchannel
  unfold latchAnalogEvent
  simp only [PassEnv.within_access, Memory.getU8_within _ henable,
    Memory.getU8_within _ htrigger, analogEventFires_within hfeature h hchannel,
    fireAnalogEvent_within hfeature h hchannel]

theorem requestPendingAnalogSourceTpdo_within (h : Covers allowed env.features pass.device)
    {bank : Nat} (hbank : bank < pass.device.config.sourceBanks) :
    requestPendingAnalogSourceTpdo (env.within allowed) pass bank =
      requestPendingAnalogSourceTpdo env pass bank := by
  unfold requestPendingAnalogSourceTpdo
  simp only [PassEnv.within_access, Memory.getU32_within _ (h.source hfeature hbank)]

end

theorem storeAnalogInput_within (h : Covers allowed env.features pass.device) {channel : Nat}
    (hchannel : channel < pass.device.config.analogInputChannels) (value : BitVec 16) :
    storeAnalogInput (env.within allowed) pass channel value =
      storeAnalogInput env pass channel value := by
  have hinput : (pass.device.bound.analogInput16, channel + 1) ∈ allowed :=
    h.element .analogInput16 rfl rfl (Nat.ne_zero_of_lt hchannel) rfl hchannel
  unfold storeAnalogInput
  simp only [PassEnv.within_access, PassEnv.within_features, Memory.getI16_within _ hinput,
    Memory.setI16_within _ hinput]
  cases hfeature : env.features.analogEvents with
  | false => rfl
  | true =>
      have hlatch := @latchAnalogEvent_within env allowed (pass.put (pass.memory.setI16 env.access
        pass.device.bound.analogInput16 (channel + 1) value)) hfeature h channel hchannel value
      rw [hlatch]

theorem refreshAnalogInput_within (h : Covers allowed env.features pass.device) {channel : Nat}
    (hchannel : channel < pass.device.config.analogInputChannels) :
    refreshAnalogInput (env.within allowed) pass channel = refreshAnalogInput env pass channel := by
  unfold refreshAnalogInput
  simp only [analogSample_within h hchannel, storeAnalogInput_within h hchannel,
    PassEnv.within_features]

theorem analogRefreshInputs_within (h : Covers allowed env.features pass.device) :
    analogRefreshInputs (env.within allowed) pass = analogRefreshInputs env pass := by
  have hchannels : run (refreshAnalogInput (env.within allowed)) pass
      (List.range pass.device.config.analogInputChannels) =
        run (refreshAnalogInput env) pass
          (List.range pass.device.config.analogInputChannels) := by
    refine @run_range_congr _ _ _
      (fun state => state.Served allowed env.features pass.device.config) _ ?_ ?_ _ ⟨h, rfl⟩
    · rintro state channel hchannel ⟨hcovers, hconfig⟩
      rw [← hconfig] at hchannel
      exact refreshAnalogInput_within hcovers hchannel
    · exact fun state channel hserved =>
        hserved.of_kept (refreshAnalogInput_inputs env state channel).kept
  have hkept := (@run_inputs _ (refreshAnalogInput env)
    (fun state channel => refreshAnalogInput_inputs env state channel) pass
    (List.range pass.device.config.analogInputChannels)).kept
  unfold analogRefreshInputs
  simp only [hchannels, PassEnv.within_features]
  split_ifs with hskip hfeature
  · rfl
  · refine @run_range_congr _ _ _
      (fun state => state.Served allowed env.features (run (refreshAnalogInput env) pass
        (List.range pass.device.config.analogInputChannels)).device.config) _ ?_ ?_ _
        ⟨h.of_eq hkept.bound hkept.config, rfl⟩
    · rintro state bank hbank ⟨hcovers, hconfig⟩
      rw [← hconfig] at hbank
      exact requestPendingAnalogSourceTpdo_within hfeature hcovers hbank
    · exact fun state bank hserved =>
        hserved.of_kept (requestPendingAnalogSourceTpdo_inputs env state bank).kept
  · rfl

/-! ### Outputs -/

theorem applyDigitalOutput_within (h : Covers allowed env.features pass.device) {bank : Nat}
    (hbank : bank < pass.device.config.digitalOutputBanks) :
    applyDigitalOutput (env.within allowed) pass bank = applyDigitalOutput env pass bank := by
  have hbanks := Nat.ne_zero_of_lt hbank
  have houtput : (pass.device.bound.digitalOutput8, bank + 1) ∈ allowed :=
    h.element .digitalOutput8 rfl rfl hbanks rfl hbank
  unfold applyDigitalOutput
  simp only [PassEnv.within_access, PassEnv.within_features, Memory.getU8_within _ houtput]
  cases hfeature : env.features.digitalOutputFailSafe with
  | false => rfl
  | true =>
      have hpolarity : (pass.device.bound.digitalOutputPolarity8, bank + 1) ∈ allowed :=
        h.element .digitalOutputPolarity8 rfl hfeature hbanks rfl hbank
      have hfilter : (pass.device.bound.digitalOutputFilter8, bank + 1) ∈ allowed :=
        h.element .digitalOutputFilter8 rfl hfeature hbanks rfl hbank
      have hmode : (pass.device.bound.digitalOutputErrorMode8, bank + 1) ∈ allowed :=
        h.element .digitalOutputErrorMode8 rfl hfeature hbanks rfl hbank
      have hvalue : (pass.device.bound.digitalOutputErrorValue8, bank + 1) ∈ allowed :=
        h.element .digitalOutputErrorValue8 rfl hfeature hbanks rfl hbank
      have herror : ∀ polarity filterMask,
          applyDigitalErrorValue (env.within allowed) pass bank polarity filterMask =
            applyDigitalErrorValue env pass bank polarity filterMask := by
        intro polarity filterMask
        unfold applyDigitalErrorValue
        simp only [PassEnv.within_access, PassEnv.within_product, Memory.getU8_within _ hmode,
          Memory.getU8_within _ hvalue]
        rfl
      simp only [if_true, Memory.getU8_within _ hpolarity, Memory.getU8_within _ hfilter, herror]

theorem digitalApplyOutputs_within (h : Covers allowed env.features pass.device) :
    digitalApplyOutputs (env.within allowed) pass = digitalApplyOutputs env pass := by
  unfold digitalApplyOutputs
  congr 1
  refine @run_range_congr _ _ _
    (fun state => state.Served allowed env.features pass.device.config) _ ?_ ?_ _ ⟨h, rfl⟩
  · rintro state bank hbank ⟨hcovers, hconfig⟩
    rw [← hconfig] at hbank
    exact applyDigitalOutput_within hcovers hbank
  · exact fun state bank hserved =>
      hserved.of_kept (applyDigitalOutput_outputs env state bank).only.kept

theorem applyAnalogOutput_within (h : Covers allowed env.features pass.device) {channel : Nat}
    (hchannel : channel < pass.device.config.analogOutputChannels) :
    applyAnalogOutput (env.within allowed) pass channel = applyAnalogOutput env pass channel := by
  have hchannels := Nat.ne_zero_of_lt hchannel
  have houtput : (pass.device.bound.analogOutput16, channel + 1) ∈ allowed :=
    h.element .analogOutput16 rfl rfl hchannels rfl hchannel
  have hconditioning : ∀ command,
      applyOutputConditioning (env.within allowed) pass (channel + 1) command =
        applyOutputConditioning env pass (channel + 1) command := by
    intro command
    exact applyConditioning_within _ command
      (fun hfeature => h.element .analogOutputOffset32 rfl hfeature hchannels rfl hchannel)
      (fun hfeature => h.element .analogOutputScaling32 rfl hfeature hchannels rfl hchannel)
  have hwrite : ∀ failSafeActive physical,
      writeAnalogOutput (env.within allowed) failSafeActive pass channel physical =
        writeAnalogOutput env failSafeActive pass channel physical :=
    fun _ _ => rfl
  unfold applyAnalogOutput
  simp only [PassEnv.within_access, PassEnv.within_features, Memory.getI16_within _ houtput,
    hconditioning, hwrite]
  have herror : env.features.analogOutputFailSafe = true →
      applyAnalogErrorValue (env.within allowed) pass channel =
        applyAnalogErrorValue env pass channel := by
    intro hfeature
    have hmode : (pass.device.bound.analogOutputErrorMode, channel + 1) ∈ allowed :=
      h.element .analogOutputErrorMode rfl hfeature hchannels rfl hchannel
    have hvalue : (pass.device.bound.analogOutputErrorValue32, channel + 1) ∈ allowed :=
      h.element .analogOutputErrorValue32 rfl hfeature hchannels rfl hchannel
    unfold applyAnalogErrorValue
    simp only [PassEnv.within_access, Memory.getU8_within _ hmode, Memory.getU32_within _ hvalue,
      hwrite]
  cases pass.memory.getI16 env.access pass.device.bound.analogOutput16 (channel + 1) with
  | none => rfl
  | some command =>
      dsimp only
      split_ifs with hactive
      · exact herror (Bool.and_eq_true_iff.mp hactive).1
      · rfl

theorem analogApplyOutputs_within (h : Covers allowed env.features pass.device) :
    analogApplyOutputs (env.within allowed) pass = analogApplyOutputs env pass := by
  unfold analogApplyOutputs
  congr 1
  refine @run_range_congr _ _ _
    (fun state => state.Served allowed env.features pass.device.config) _ ?_ ?_ _ ⟨h, rfl⟩
  · rintro state channel hchannel ⟨hcovers, hconfig⟩
    rw [← hconfig] at hchannel
    exact applyAnalogOutput_within hcovers hchannel
  · exact fun state channel hserved =>
      hserved.of_kept (applyAnalogOutput_outputs env state channel).only.kept

end Pass

/-- A pass accesses the places of its Device and no other. -/
theorem Device.process_within (env : PassEnv) (device : Device) (memory : Memory) :
    device.process (env.within (device.accesses env.features)) memory =
      device.process env memory := by
  have hcovers := covers_accesses env.features device
  unfold Device.process
  have hbegin : ∀ complete, device.beginPass (env.within (device.accesses env.features)) memory
      complete = device.beginPass env memory complete := fun _ => rfl
  by_cases hidle : (!device.odBound || device.config.io.isNone) = true
  · rw [if_pos hidle, if_pos hidle, hbegin]
  have hstart := Device.beginPass_kept env device memory true
  have hdigital := (Pass.digitalRefreshInputs_inputs env (device.beginPass env memory true)).kept
  have hanalog := (Pass.analogRefreshInputs_inputs env
    (Pass.digitalRefreshInputs env (device.beginPass env memory true))).kept
  have houtputs := (Pass.digitalApplyOutputs_outputs env (Pass.analogRefreshInputs env
    (Pass.digitalRefreshInputs env (device.beginPass env memory true)))).only.kept
  have hafter : ∀ {after : Pass}, Pass.Kept ⟨device, memory, []⟩ after →
      Covers (device.accesses env.features) env.features after.device :=
    fun hkept => hcovers.of_eq hkept.bound hkept.config
  rw [if_neg hidle, if_neg hidle, hbegin, Pass.digitalRefreshInputs_within (hafter hstart),
    Pass.analogRefreshInputs_within (hafter (hstart.trans hdigital)),
    Pass.digitalApplyOutputs_within (hafter ((hstart.trans hdigital).trans hanalog)),
    Pass.analogApplyOutputs_within
      (hafter (((hstart.trans hdigital).trans hanalog).trans houtputs))]

/-! ## The commits -/

theorem commitAnalogSourceCommunication_within {allowed : List (Option OdEntry × Nat)}
    {features : Features} {device : Device} (h : Covers allowed features device)
    (hfeature : features.analogEvents = true) (access : OdAccess) (memory : Memory)
    {subIndex : Nat} (hgroup : subIndex ≤ device.config.sourceBanks) (bits : BitVec 32) :
    device.commitAnalogSourceCommunication (access.within allowed) memory subIndex bits =
      device.commitAnalogSourceCommunication access memory subIndex bits := by
  unfold Device.commitAnalogSourceCommunication
  split
  · rfl
  case isFalse hskip =>
      have hsub : subIndex ≠ 0 := by
        simp only [Bool.or_eq_true, decide_eq_true_eq, not_or] at hskip
        exact hskip.1.2
      have hplace : (device.bound.analogInterruptSource, subIndex) ∈ allowed := by
        obtain ⟨bank, rfl⟩ := Nat.exists_eq_succ_of_ne_zero hsub
        exact h.source hfeature (Nat.lt_of_succ_le hgroup)
      simp only [Memory.getU32_within _ hplace, Memory.setU32_within _ hplace]

theorem commitMappedObject_within {allowed : List (Option OdEntry × Nat)} {features : Features}
    {state : (Device × Memory) × Nat} (h : Covers allowed features state.1.1)
    (access : OdAccess) (buffer : TxFrame) {io : MappedObject}
    (hgroup : io.index = entryIndex state.1.1.bound.analogInterruptSource →
      io.subIndex ≤ state.1.1.config.sourceBanks) :
    commitMappedObject features (access.within allowed) buffer state io =
      commitMappedObject features access buffer state io := by
  obtain ⟨⟨device, memory⟩, bitOffset⟩ := state
  unfold commitMappedObject
  dsimp only
  split
  · rfl
  split
  · rfl
  case isFalse hfeature =>
      rw [Bool.not_eq_true', Bool.not_eq_false] at hfeature
      split
      · rfl
      case h_2 communicated _ _ hmaps =>
          have hindex : io.index = entryIndex device.bound.analogInterruptSource := by
            simp only [Bool.and_eq_true, decide_eq_true_eq] at hmaps
            exact hmaps.1.1.2
          rw [commitAnalogSourceCommunication_within h hfeature access memory (hgroup hindex)]
      · rfl

/-- An accepted TPDO touches the source groups of its mapping only. -/
theorem commitSuccessfulTpdo_within {features : Features} (device : Device) (access : OdAccess)
    {mapping : List MappedObject} (buffer : TxFrame) (memory : Memory)
    (hgroup : ∀ io ∈ mapping, io.index = entryIndex device.bound.analogInterruptSource →
      io.subIndex ≤ device.config.sourceBanks) :
    commitSuccessfulTpdo features (access.within (device.accesses features)) mapping buffer device
      memory = commitSuccessfulTpdo features access mapping buffer device memory := by
  have hloop : ∀ (items : List MappedObject) (state : (Device × Memory) × Nat),
      (∀ io ∈ items, io ∈ mapping) → state.1.1.bound = device.bound →
        state.1.1.config = device.config →
          items.foldl (commitMappedObject features (access.within (device.accesses features))
            buffer) state = items.foldl (commitMappedObject features access buffer) state := by
    intro items
    induction items with
    | nil => exact fun _ _ _ _ => rfl
    | cons io rest ih =>
        intro state hmem hbound hconfig
        have hsame := World.commitMappedObject_unmoved features access buffer state io
        rw [List.foldl_cons, List.foldl_cons, commitMappedObject_within
          ((covers_accesses features device).of_eq hbound hconfig) access buffer ?_]
        · exact ih _ (fun other hother => hmem other (List.mem_cons_of_mem _ hother))
            (hsame.bound.trans hbound) (hsame.config.trans hconfig)
        · rw [hbound, hconfig]
          exact hgroup io (hmem io List.mem_cons_self)
  unfold commitSuccessfulTpdo
  rw [hloop mapping ((device, memory), 0) (fun _ h => h) rfl rfl]

/-- An SDO read touches the group that it reads only. -/
theorem networkRead_within {features : Features} (hfeature : features.analogEvents = true)
    (device : Device) (access : OdAccess) (read : NetworkRead) (memory : Memory)
    (hgroup : read.subIndex ≤ device.config.sourceBanks) :
    device.networkRead (access.within (device.accesses features)) read memory =
      device.networkRead access read memory := by
  unfold Device.networkRead
  split
  · unfold Device.callReadHook
    dsimp only
    split
    · rfl
    · rw [commitAnalogSourceCommunication_within (covers_accesses features device) hfeature access
        memory hgroup]
    · rfl
  · rfl

end CanopenRtt.Cia401
