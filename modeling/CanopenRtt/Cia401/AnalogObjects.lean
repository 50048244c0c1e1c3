import CanopenRtt.Cia401.EventDelivery
/-!
# The objects of analogue events

A bound Device with analogue inputs and events has every object an event is
decided and latched with at its canonical place in the Device's own block.
-/

namespace CanopenRtt.Cia401

open CanopenRtt.Profile CanopenRtt.Support

namespace BindContext

variable {context : BindContext}

theorem eq_of_validateVariable8 {canonicalIndex : Nat} {required allowed : BitVec 8}
    {found : Option OdEntry}
    (h : context.validateVariable8 canonicalIndex required allowed = .ok found) :
    found = some (context.entry canonicalIndex) := by
  unfold validateVariable8 at h
  obtain ⟨⟨entry, shape⟩, hrequire, h⟩ := exists_of_bind_ok h
  obtain rfl := eq_of_require hrequire
  dsimp only at h
  split at h
  · exact absurd h fail_ne_ok
  obtain ⟨sub, -, h⟩ := exists_of_bind_ok h
  split at h
  · exact absurd h fail_ne_ok
  exact (Except.ok.inj h).symm

theorem validateBase_interruptEnable {candidate validated : BoundOd}
    (henabled : context.analogInputEnabled = true)
    (h : context.validateBase candidate = .ok validated) :
    validated.analogInterruptEnable = some (context.entry indexAnalogInterruptEnable) := by
  unfold validateBase at h
  obtain ⟨deviceType, -, h⟩ := exists_of_bind_ok h
  obtain ⟨digitalInput8, -, h⟩ := exists_of_bind_ok h
  obtain ⟨digitalOutput8, -, h⟩ := exists_of_bind_ok h
  obtain ⟨analogInput16, -, h⟩ := exists_of_bind_ok h
  obtain ⟨analogInterruptEnable, henable, h⟩ := exists_of_bind_ok h
  obtain ⟨analogOutput16, -, h⟩ := exists_of_bind_ok h
  obtain rfl := Except.ok.inj h
  exact (validateEnabled_ok (fun _ => eq_of_validateVariable8) henable).1 henabled

/-- Every object of an analogue event is bound to its canonical place. -/
def EventObjectsAt (context : BindContext) (bound : BoundOd) : Prop :=
  ∀ p ∈ bound.analogEventObjects, p.1 = some (context.entry p.2)

theorem validateAnalogEvents_objects {candidate validated : BoundOd}
    (henabled : context.analogInputEnabled = true)
    (hinput : candidate.analogInput16 = some (context.entry indexAnalogInput16))
    (henable : candidate.analogInterruptEnable = some (context.entry indexAnalogInterruptEnable))
    (h : context.validateAnalogEvents candidate = .ok validated) :
    context.EventObjectsAt validated := by
  have hchecked : ∀ {canonicalIndex expectedCount elementLength required allowed found},
      context.validateOptionalArraySized context.analogInputEnabled canonicalIndex expectedCount
        elementLength required allowed = .ok found →
          found = some (context.entry canonicalIndex) :=
    fun hok => (validateEnabled_ok (fun _ => eq_of_validateArrayContract) hok).1 henabled
  unfold validateAnalogEvents at h
  obtain ⟨analogInterruptTrigger, htrigger, h⟩ := exists_of_bind_ok h
  obtain ⟨analogInterruptSource, hsource, h⟩ := exists_of_bind_ok h
  obtain ⟨analogInterruptUpper32, hupper, h⟩ := exists_of_bind_ok h
  obtain ⟨analogInterruptLower32, hlower, h⟩ := exists_of_bind_ok h
  obtain ⟨analogInterruptDeltaU32, hdelta, h⟩ := exists_of_bind_ok h
  obtain ⟨analogInterruptNegDeltaU32, hnegative, h⟩ := exists_of_bind_ok h
  obtain ⟨analogInterruptPosDeltaU32, hpositive, h⟩ := exists_of_bind_ok h
  obtain rfl := Except.ok.inj h
  intro p hp
  simp only [BoundOd.analogEventObjects, List.mem_cons, List.not_mem_nil, or_false] at hp
  rcases hp with rfl | rfl | rfl | rfl | rfl | rfl | rfl | rfl | rfl
  · exact hinput
  · exact henable
  · exact hchecked htrigger
  · exact hchecked hsource
  · exact hchecked hupper
  · exact hchecked hlower
  · exact hchecked hdelta
  · exact hchecked hnegative
  · exact hchecked hpositive

theorem validate_eventObjects {candidate : BoundOd}
    (hfeature : context.features.analogEvents = true)
    (henabled : context.analogInputEnabled = true) (h : context.validate = .ok candidate) :
    context.EventObjectsAt candidate := by
  unfold validate at h
  obtain ⟨base, hbase, h⟩ := exists_of_bind_ok h
  obtain ⟨digitalEvents, hdigitalEvents, h⟩ := exists_of_bind_ok h
  obtain ⟨digitalFailSafe, hdigitalFailSafe, h⟩ := exists_of_bind_ok h
  obtain ⟨analogEvents, hanalogEvents, h⟩ := exists_of_bind_ok h
  obtain ⟨analogFailSafe, hanalogFailSafe, h⟩ := exists_of_bind_ok h
  obtain ⟨conditioned, hconditioned, h⟩ := exists_of_bind_ok h
  obtain ⟨-, -, h⟩ := exists_of_bind_ok h
  obtain rfl := Except.ok.inj h
  have hdigital := validateFeature_ok
    (P := fun c => c.analogEventObjects = base.analogEventObjects) hdigitalEvents
    (fun _ hv => (validateDigitalEvents_ok hv).2.2.1) (fun _ => rfl)
  have hfailSafe := validateFeature_ok
    (P := fun c => c.analogEventObjects = digitalEvents.analogEventObjects) hdigitalFailSafe
    (fun _ hv => (validateDigitalFailSafe_carrier hv).2.2) (fun _ => rfl)
  have hsame := hfailSafe.trans hdigital
  have hinput : digitalFailSafe.analogInput16 = some (context.entry indexAnalogInput16) := by
    have hobjects := congrArg (fun objects => objects.map Prod.fst) hsame
    simp only [BoundOd.analogEventObjects, List.map_cons, List.cons.injEq] at hobjects
    exact hobjects.1.trans ((validateBase_ok hbase).analogInput16 henabled)
  have henable : digitalFailSafe.analogInterruptEnable =
      some (context.entry indexAnalogInterruptEnable) := by
    have hobjects := congrArg (fun objects => objects.map Prod.fst) hsame
    simp only [BoundOd.analogEventObjects, List.map_cons, List.cons.injEq] at hobjects
    exact hobjects.2.1.trans (validateBase_interruptEnable henabled hbase)
  have hevents : context.EventObjectsAt analogEvents := by
    rw [validateFeature, if_pos hfeature] at hanalogEvents
    exact validateAnalogEvents_objects henabled hinput henable hanalogEvents
  have hanalogFailSafe' := validateFeature_ok
    (P := fun c => c.analogEventObjects = analogEvents.analogEventObjects) hanalogFailSafe
    (fun _ hv => (validateAnalogFailSafe_carrier hv).2.2) (fun _ => rfl)
  have hconditioned' := validateFeature_ok
    (P := fun c => c.analogEventObjects = analogFailSafe.analogEventObjects) hconditioned
    (fun _ hv => (validateConditioning_ok hv).2.1) (fun _ => rfl)
  unfold EventObjectsAt
  rw [hconditioned', hanalogFailSafe']
  exact hevents

/-- 0x6000 is bound to its canonical place or not at all. -/
theorem validate_digitalInput8 {candidate : BoundOd} (h : context.validate = .ok candidate) :
    candidate.digitalInput8 = none ∨
      candidate.digitalInput8 = some (context.entry indexDigitalInput8) := by
  unfold validate at h
  obtain ⟨base, hbase, h⟩ := exists_of_bind_ok h
  obtain ⟨digitalEvents, hdigitalEvents, h⟩ := exists_of_bind_ok h
  obtain ⟨digitalFailSafe, hdigitalFailSafe, h⟩ := exists_of_bind_ok h
  obtain ⟨analogEvents, hanalogEvents, h⟩ := exists_of_bind_ok h
  obtain ⟨analogFailSafe, hanalogFailSafe, h⟩ := exists_of_bind_ok h
  obtain ⟨conditioned, hconditioned, h⟩ := exists_of_bind_ok h
  obtain ⟨-, -, h⟩ := exists_of_bind_ok h
  obtain rfl := Except.ok.inj h
  have hbaseInput : base.digitalInput8 = none ∨
      base.digitalInput8 = some (context.entry indexDigitalInput8) := by
    unfold validateBase at hbase
    obtain ⟨deviceType, -, hbase⟩ := exists_of_bind_ok hbase
    obtain ⟨digitalInput8, hdigitalInput, hbase⟩ := exists_of_bind_ok hbase
    obtain ⟨digitalOutput8, -, hbase⟩ := exists_of_bind_ok hbase
    obtain ⟨analogInput16, -, hbase⟩ := exists_of_bind_ok hbase
    obtain ⟨analogInterruptEnable, -, hbase⟩ := exists_of_bind_ok hbase
    obtain ⟨analogOutput16, -, hbase⟩ := exists_of_bind_ok hbase
    obtain rfl := Except.ok.inj hbase
    exact (validateEnabled_ok (fun _ => eq_of_validateArrayContract) hdigitalInput).2.2
  have hdigital := validateFeature_ok
    (P := fun c => c.carrier .digitalInput8 = base.carrier .digitalInput8) hdigitalEvents
    (fun _ hv => (validateDigitalEvents_ok hv).2.2.2 _ (by decide)) (fun _ => rfl)
  have hfailSafe := validateFeature_ok
    (P := fun c => c.carrier .digitalInput8 = digitalEvents.carrier .digitalInput8)
    hdigitalFailSafe
    (fun _ hv => congrFun (validateDigitalFailSafe_carrier hv).1 _) (fun _ => rfl)
  have hanalog := validateFeature_ok
    (P := fun c => c.carrier .digitalInput8 = digitalFailSafe.carrier .digitalInput8)
    hanalogEvents (fun _ hv => (validateAnalogEvents_ok hv).2.2 _ (by decide)) (fun _ => rfl)
  have hanalogFailSafe' := validateFeature_ok
    (P := fun c => c.carrier .digitalInput8 = analogEvents.carrier .digitalInput8)
    hanalogFailSafe
    (fun _ hv => congrFun (validateAnalogFailSafe_carrier hv).1 _) (fun _ => rfl)
  have hconditioned' := validateFeature_ok
    (P := fun c => c.carrier .digitalInput8 = analogFailSafe.carrier .digitalInput8)
    hconditioned (fun _ hv => congrFun (validateConditioning_ok hv).1 _) (fun _ => rfl)
  change conditioned.carrier .digitalInput8 = none ∨ conditioned.carrier .digitalInput8 = _
  rw [hconditioned', hanalogFailSafe', hanalog, hfailSafe, hdigital]
  exact hbaseInput

end BindContext

namespace Device

/-- The entry of a canonical object in the Device's own block. -/
def entry (device : Device) (od canonicalIndex : Nat) : OdEntry :=
  ⟨od, profileIndex device.logicalDevice canonicalIndex⟩

/-- The objects analogue events depend on are in place in one dictionary. -/
structure EventObjects (device : Device) (od : Nat) : Prop where
  objects : ∀ p ∈ device.bound.analogEventObjects, p.1 = some (device.entry od p.2)
  digitalInput8 : device.bound.digitalInput8 = none ∨
    device.bound.digitalInput8 = some (device.entry od indexDigitalInput8)

section Objects

variable {device : Device} {od : Nat} (h : device.EventObjects od)

include h

theorem EventObjects.analogInput16 :
    device.bound.analogInput16 = some (device.entry od indexAnalogInput16) :=
  h.objects (device.bound.analogInput16, indexAnalogInput16)
    (by simp [BoundOd.analogEventObjects])

theorem EventObjects.analogInterruptEnable :
    device.bound.analogInterruptEnable = some (device.entry od indexAnalogInterruptEnable) :=
  h.objects (device.bound.analogInterruptEnable, indexAnalogInterruptEnable)
    (by simp [BoundOd.analogEventObjects])

theorem EventObjects.analogInterruptTrigger :
    device.bound.analogInterruptTrigger = some (device.entry od indexAnalogInterruptTrigger) :=
  h.objects (device.bound.analogInterruptTrigger, indexAnalogInterruptTrigger)
    (by simp [BoundOd.analogEventObjects])

theorem EventObjects.analogInterruptSource :
    device.bound.analogInterruptSource = some (device.entry od indexAnalogInterruptSource) :=
  h.objects (device.bound.analogInterruptSource, indexAnalogInterruptSource)
    (by simp [BoundOd.analogEventObjects])

end Objects

/-- A bound Device has its analogue event objects in place. -/
def EventBound (features : Features) (device : Device) : Prop :=
  device.odBound = true → device.config.analogInputChannels ≠ 0 → features.analogEvents = true →
    ∃ od, device.od = some od ∧ device.EventObjects od

theorem publish_bound (features : Features) (candidate : BoundOd) (device : Device)
    (memory : Memory) : (publish features candidate device memory).1.bound = candidate := by
  obtain ⟨hdevice, -, -⟩ := run_install_frame features candidate
    ({ device with bound := candidate }, memory) BindContext.slotOrder
  obtain ⟨-, hbound, -⟩ := resetInputEvents_same features
    (run (install features candidate) ({ device with bound := candidate }, memory)
      BindContext.slotOrder).1
  refine Eq.trans hbound ?_
  rw [hdevice]

theorem bindOD_eventBound (features : Features) (access : OdAccess) (device : Device)
    (memory : Memory) : EventBound features (bindOD features access device memory).1.1 := by
  have hsame := (bindOD_same features access device memory).1
  have hfree := unbind_same features device
  intro hbound hchannels hfeature
  rw [hsame.config] at hchannels
  rw [hsame.od]
  rcases bindOD_cases features access device memory with h | ⟨od, candidate, hod, hvalid, h⟩
  · rw [h] at hbound
    cases hbound
  · have hobjects := BindContext.validate_eventObjects hfeature
      (by simpa [BindContext.analogInputEnabled, bindContext, hfree.config] using hchannels) hvalid
    have hdigital := BindContext.validate_digitalInput8 hvalid
    have hslot : (bindOD features access device memory).1.1.logicalDevice =
        (unbind features device).logicalDevice := hsame.logicalDevice.trans hfree.logicalDevice.symm
    refine ⟨od, hfree.od.symm.trans hod, ?_, ?_⟩
    · unfold entry
      rw [hslot, h, publish_bound]
      exact hobjects
    · unfold entry
      rw [hslot, h, publish_bound]
      exact hdigital

end Device

namespace World

/-- The Device is bound to the same dictionary through the same objects. -/
structure SameBinding (before after : Device) : Prop where
  od : after.od = before.od
  config : after.config = before.config
  logicalDevice : after.logicalDevice = before.logicalDevice
  bound : after.bound = before.bound
  odBound : after.odBound = before.odBound

theorem SameBinding.trans {first second third : Device} (h : SameBinding first second)
    (h' : SameBinding second third) : SameBinding first third :=
  ⟨h'.od.trans h.od, h'.config.trans h.config, h'.logicalDevice.trans h.logicalDevice,
    h'.bound.trans h.bound, h'.odBound.trans h.odBound⟩

theorem sameBinding_of_unmoved {before after : World} (h : Unmoved before after) :
    SameBinding before.device after.device :=
  ⟨h.od, h.config, h.logicalDevice, h.bound, h.odBound⟩

/-- A call that neither initialises nor binds. -/
def keepsBinding : Call → Bool
  | .init _ _ _ => false
  | .bindOD _ => false
  | _ => true

theorem step_sameBinding {features : Features} (world : World) (call : Call)
    (hcall : keepsBinding call = true) :
    SameBinding world.device (world.step features call).device := by
  cases call with
  | init access od config => cases hcall
  | bindOD access => cases hcall
  | setNmtOperational access operational =>
      exact sameBinding_of_unmoved (setNmtOperational_unmoved access operational world)
  | takeErrorEvent => exact sameBinding_of_unmoved (takeErrorEvent_unmoved world)
  | process access product =>
      exact sameBinding_of_unmoved (process_unmoved features access product world)
  | networkWrite write =>
      have hsame := networkWrite_device write world.device world.memory
      exact ⟨(congrArg Device.od hsame :), (congrArg Device.config hsame :),
        (congrArg Device.logicalDevice hsame :), (congrArg Device.bound hsame :),
        (congrArg Device.odBound hsame :)⟩
  | networkRead access read =>
      exact sameBinding_of_unmoved (networkRead_unmoved access read world)
  | tpdoAccepted access mapping buffer =>
      exact sameBinding_of_unmoved (tpdoAccepted_unmoved features access mapping buffer world)
  | otherExtension entry owner =>
      have hsame := otherExtension_device world entry owner
      exact ⟨congrArg Device.od hsame, congrArg Device.config hsame,
        congrArg Device.logicalDevice hsame, congrArg Device.bound hsame,
        congrArg Device.odBound hsame⟩
  | _ => exact ⟨rfl, rfl, rfl, rfl, rfl⟩

def EventBound (features : Features) (world : World) : Prop :=
  world.device.EventBound features

theorem eventBound_of_sameBinding {features : Features} {before after : Device}
    (h : before.EventBound features) (hsame : SameBinding before after) :
    after.EventBound features := by
  intro hbound hchannels hfeature
  rw [hsame.odBound] at hbound
  rw [hsame.config] at hchannels
  obtain ⟨od, hod, hobjects, hdigital⟩ := h hbound hchannels hfeature
  refine ⟨od, hsame.od.trans hod, ?_, ?_⟩
  · unfold Device.entry
    rw [hsame.bound, hsame.logicalDevice]
    exact hobjects
  · unfold Device.entry
    rw [hsame.bound, hsame.logicalDevice]
    exact hdigital

theorem init_eventBound (features : Features) (access : OdAccess) (od : Option Nat)
    (config : Option DeviceConfig) (memory : Memory) :
    (Device.init features access od config memory).1.1.EventBound features := by
  have hcleared : ({} : Device).EventBound features := fun hbound => nomatch hbound
  unfold Device.init
  split
  · dsimp only
    split
    · exact hcleared
    · exact Device.bindOD_eventBound features access _ _
  · exact hcleared

theorem step_eventBound {features : Features} {world : World} (h : world.EventBound features)
    (call : Call) : (world.step features call).EventBound features := by
  cases hcall : keepsBinding call with
  | true => exact eventBound_of_sameBinding h (step_sameBinding world call hcall)
  | false =>
      cases call with
      | init access od config => exact init_eventBound features access od config world.memory
      | bindOD access => exact Device.bindOD_eventBound features access world.device world.memory
      | _ => cases hcall

end World

end CanopenRtt.Cia401
