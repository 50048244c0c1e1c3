import CanopenRtt.Cia401.Binding
/-!
# What a successful bind installs

Every object whose capability is enabled carries the Device's own extension with
the hooks of its kind, and no object of a disabled output capability exists.
-/

namespace CanopenRtt.Cia401

open CanopenRtt.Profile CanopenRtt.Support

/-- A sequence that succeeds has a first step that succeeds. -/
theorem exists_of_bind_ok {ε α β : Type} {first : Except ε α} {next : α → Except ε β} {b : β}
    (h : (first >>= next) = .ok b) : ∃ a, first = .ok a ∧ next a = .ok b := by
  cases first with
  | error e => cases h
  | ok a => exact ⟨a, rfl, h⟩

namespace BindContext

variable {context : BindContext}

/-- The entry of one canonical object. -/
def entry (context : BindContext) (canonicalIndex : Nat) : OdEntry :=
  ⟨context.od, context.index canonicalIndex⟩

theorem fail_ne_ok {α : Type} {error : InitError} {index subIndex : Nat} {a : α}
    (h : context.fail error index subIndex = .ok a) : False := by
  cases h

theorem eq_of_find {index : Nat} {entry : OdEntry} (h : context.find index = some entry) :
    entry = ⟨context.od, index⟩ := by
  unfold find Memory.find at h
  split at h
  · exact (Option.some.inj h).symm
  · cases h

theorem shape_of_find {index : Nat} (h : context.find index = none) :
    context.memory.shape ⟨context.od, index⟩ = none := by
  unfold find Memory.find at h
  split at h
  · cases h
  case isFalse hshape => exact Option.not_isSome_iff_eq_none.mp hshape

theorem eq_of_require {index : Nat} {found : OdEntry × OdShape}
    (h : context.require index = .ok found) : found.1 = ⟨context.od, index⟩ := by
  unfold require at h
  split at h
  case h_1 => exact absurd h fail_ne_ok
  case h_2 entry hfind =>
      split at h
      case h_1 => exact absurd h fail_ne_ok
      case h_2 shape _ =>
          obtain rfl := Except.ok.inj h
          exact eq_of_find hfind

theorem eq_of_validateArrayContract {canonicalIndex expectedCount elementLength : Nat}
    {required allowed : BitVec 8} {found : Option OdEntry}
    (h : context.validateArrayContract canonicalIndex expectedCount elementLength required
      allowed = .ok found) : found = some (context.entry canonicalIndex) := by
  unfold validateArrayContract at h
  obtain ⟨⟨entry, shape⟩, hrequire, h⟩ := exists_of_bind_ok h
  obtain rfl := eq_of_require hrequire
  dsimp only at h
  split at h
  · exact absurd h fail_ne_ok
  split at h
  · exact absurd h fail_ne_ok
  obtain ⟨countSub, -, h⟩ := exists_of_bind_ok h
  split at h
  · exact absurd h fail_ne_ok
  split at h
  · exact absurd h fail_ne_ok
  obtain ⟨elementSub, -, h⟩ := exists_of_bind_ok h
  split at h
  · exact absurd h fail_ne_ok
  split at h
  · exact absurd h fail_ne_ok
  exact (Except.ok.inj h).symm

theorem validateEnabled_ok {enabled : Bool} {canonicalIndex : Nat}
    {validate : Except InitDiag (Option OdEntry)} {found : Option OdEntry}
    (hvalidate : ∀ object, validate = .ok object → object = some (context.entry canonicalIndex))
    (h : context.validateEnabled enabled canonicalIndex validate = .ok found) :
    (enabled = true → found = some (context.entry canonicalIndex)) ∧
      (enabled = false → context.find (context.index canonicalIndex) = none) ∧
      (found = none ∨ found = some (context.entry canonicalIndex)) := by
  unfold validateEnabled at h
  cases enabled with
  | true =>
      have hfound := hvalidate found h
      exact ⟨fun _ => hfound, fun hoff => (nomatch hoff), Or.inr hfound⟩
  | false =>
      simp only [Bool.false_eq_true, if_false] at h
      split at h
      · exact absurd h fail_ne_ok
      case isFalse hfind =>
          exact ⟨fun hon => (nomatch hon), fun _ => by simpa using hfind,
            Or.inl (Except.ok.inj h).symm⟩

/-- The analogue parameters of a record are unset or canonical objects. -/
def ParametersAt (context : BindContext) (bound : BoundOd) : Prop :=
  ∀ p ∈ bound.analogParameters, p.1 = none ∨ p.1 = some (context.entry p.2)

/-- What validation establishes about the carriers of the own extensions. -/
structure Candidate (context : BindContext) (candidate : BoundOd) : Prop where
  carrier : ∀ owned, owned.installed context.features context.config = true →
    candidate.carrier owned = some (context.entry owned.canonicalIndex)
  absent : ∀ owned : OwnExtension, owned = .digitalOutput8 ∨ owned = .analogOutput16 →
    owned.count context.config = 0 →
      context.find (context.index owned.canonicalIndex) = none
  parameters : context.ParametersAt candidate

/-- The facts about the four canonical process-image objects. -/
structure Base (context : BindContext) (candidate : BoundOd) : Prop where
  digitalInput8 : context.digitalInputEnabled = true →
    candidate.digitalInput8 = some (context.entry indexDigitalInput8)
  digitalOutput8 : context.digitalOutputEnabled = true →
    candidate.digitalOutput8 = some (context.entry indexDigitalOutput8)
  analogInput16 : context.analogInputEnabled = true →
    candidate.analogInput16 = some (context.entry indexAnalogInput16)
  analogOutput16 : context.analogOutputEnabled = true →
    candidate.analogOutput16 = some (context.entry indexAnalogOutput16)
  noDigitalOutput8 : context.digitalOutputEnabled = false →
    context.find (context.index indexDigitalOutput8) = none
  noAnalogOutput16 : context.analogOutputEnabled = false →
    context.find (context.index indexAnalogOutput16) = none

theorem validateBase_ok {candidate validated : BoundOd}
    (h : context.validateBase candidate = .ok validated) : context.Base validated := by
  unfold validateBase at h
  obtain ⟨deviceType, -, h⟩ := exists_of_bind_ok h
  obtain ⟨digitalInput8, hdigitalInput, h⟩ := exists_of_bind_ok h
  obtain ⟨digitalOutput8, hdigitalOutput, h⟩ := exists_of_bind_ok h
  obtain ⟨analogInput16, hanalogInput, h⟩ := exists_of_bind_ok h
  obtain ⟨analogInterruptEnable, -, h⟩ := exists_of_bind_ok h
  obtain ⟨analogOutput16, hanalogOutput, h⟩ := exists_of_bind_ok h
  obtain rfl := Except.ok.inj h
  have hdi := validateEnabled_ok (fun _ => eq_of_validateArrayContract) hdigitalInput
  have hdo := validateEnabled_ok (fun _ => eq_of_validateArrayContract) hdigitalOutput
  have hai := validateEnabled_ok (fun _ => eq_of_validateArrayContract) hanalogInput
  have hao := validateEnabled_ok (fun _ => eq_of_validateArrayContract) hanalogOutput
  exact ⟨hdi.1, hdo.1, hai.1, hao.1, hdo.2.1, hao.2.1⟩

theorem validateBase_parameters {validated : BoundOd}
    (h : context.validateBase {} = .ok validated) :
    context.ParametersAt validated := by
  unfold validateBase at h
  obtain ⟨deviceType, -, h⟩ := exists_of_bind_ok h
  obtain ⟨digitalInput8, -, h⟩ := exists_of_bind_ok h
  obtain ⟨digitalOutput8, -, h⟩ := exists_of_bind_ok h
  obtain ⟨analogInput16, -, h⟩ := exists_of_bind_ok h
  obtain ⟨analogInterruptEnable, -, h⟩ := exists_of_bind_ok h
  obtain ⟨analogOutput16, -, h⟩ := exists_of_bind_ok h
  obtain rfl := Except.ok.inj h
  intro p hp
  simp only [BoundOd.analogParameters, List.mem_cons, List.not_mem_nil, or_false] at hp
  rcases hp with rfl | rfl | rfl | rfl | rfl | rfl | rfl | rfl <;> exact Or.inl rfl

theorem validateDigitalEvents_ok {candidate validated : BoundOd}
    (h : context.validateDigitalEvents candidate = .ok validated) :
    (context.digitalInputEnabled = true →
        validated.digitalInputFilter8 = some (context.entry indexDigitalInputFilter8)) ∧
      validated.analogParameters = candidate.analogParameters ∧
      validated.analogEventObjects = candidate.analogEventObjects ∧
      ∀ owned, owned ≠ .digitalInputFilter8 →
        validated.carrier owned = candidate.carrier owned := by
  unfold validateDigitalEvents at h
  obtain ⟨digitalInputPolarity8, -, h⟩ := exists_of_bind_ok h
  obtain ⟨digitalInputFilter8, hfilter, h⟩ := exists_of_bind_ok h
  obtain ⟨digitalInterruptEnable, -, h⟩ := exists_of_bind_ok h
  obtain ⟨digitalInterruptAny8, -, h⟩ := exists_of_bind_ok h
  obtain ⟨digitalInterruptRising8, -, h⟩ := exists_of_bind_ok h
  obtain ⟨digitalInterruptFalling8, -, h⟩ := exists_of_bind_ok h
  obtain rfl := Except.ok.inj h
  refine ⟨(validateEnabled_ok (fun _ => eq_of_validateArrayContract) hfilter).1, rfl, rfl, ?_⟩
  intro owned hne
  cases owned <;> first | rfl | exact absurd rfl hne

theorem validateAnalogEvents_ok {candidate validated : BoundOd}
    (h : context.validateAnalogEvents candidate = .ok validated) :
    (context.analogInputEnabled = true →
        validated.analogInterruptSource = some (context.entry indexAnalogInterruptSource)) ∧
      (context.ParametersAt candidate → context.ParametersAt validated) ∧
      ∀ owned, owned ≠ .analogInterruptSource →
        validated.carrier owned = candidate.carrier owned := by
  unfold validateAnalogEvents at h
  obtain ⟨analogInterruptTrigger, htrigger, h⟩ := exists_of_bind_ok h
  obtain ⟨analogInterruptSource, hsource, h⟩ := exists_of_bind_ok h
  obtain ⟨analogInterruptUpper32, hupper, h⟩ := exists_of_bind_ok h
  obtain ⟨analogInterruptLower32, hlower, h⟩ := exists_of_bind_ok h
  obtain ⟨analogInterruptDeltaU32, hdelta, h⟩ := exists_of_bind_ok h
  obtain ⟨analogInterruptNegDeltaU32, hnegative, h⟩ := exists_of_bind_ok h
  obtain ⟨analogInterruptPosDeltaU32, hpositive, h⟩ := exists_of_bind_ok h
  obtain rfl := Except.ok.inj h
  refine ⟨(validateEnabled_ok (fun _ => eq_of_validateArrayContract) hsource).1, ?_, ?_⟩
  · intro hconditioning p hp
    have hchecked : ∀ {enabled canonicalIndex expectedCount elementLength required allowed found},
        context.validateOptionalArraySized enabled canonicalIndex expectedCount elementLength
          required allowed = .ok found →
            found = none ∨ found = some (context.entry canonicalIndex) :=
      fun hok => (validateEnabled_ok (fun _ => eq_of_validateArrayContract) hok).2.2
    simp only [BoundOd.analogParameters, List.mem_cons, List.not_mem_nil, or_false] at hp
    rcases hp with rfl | rfl | rfl | rfl | rfl | rfl | rfl | rfl
    · exact hchecked htrigger
    · exact hchecked hupper
    · exact hchecked hlower
    · exact hchecked hdelta
    · exact hchecked hnegative
    · exact hchecked hpositive
    · exact hconditioning _ (by simp [BoundOd.analogParameters])
    · exact hconditioning _ (by simp [BoundOd.analogParameters])
  · intro owned hne
    cases owned <;> first | rfl | exact absurd rfl hne

theorem validateDigitalFailSafe_carrier {candidate validated : BoundOd}
    (h : context.validateDigitalFailSafe candidate = .ok validated) :
    validated.carrier = candidate.carrier ∧
      validated.analogParameters = candidate.analogParameters ∧
      validated.analogEventObjects = candidate.analogEventObjects := by
  unfold validateDigitalFailSafe at h
  obtain ⟨digitalOutputPolarity8, -, h⟩ := exists_of_bind_ok h
  obtain ⟨digitalOutputErrorMode8, -, h⟩ := exists_of_bind_ok h
  obtain ⟨digitalOutputErrorValue8, -, h⟩ := exists_of_bind_ok h
  obtain ⟨digitalOutputFilter8, -, h⟩ := exists_of_bind_ok h
  obtain rfl := Except.ok.inj h
  exact ⟨rfl, rfl, rfl⟩

theorem validateAnalogFailSafe_carrier {candidate validated : BoundOd}
    (h : context.validateAnalogFailSafe candidate = .ok validated) :
    validated.carrier = candidate.carrier ∧
      validated.analogParameters = candidate.analogParameters ∧
      validated.analogEventObjects = candidate.analogEventObjects := by
  unfold validateAnalogFailSafe at h
  obtain ⟨analogOutputErrorMode, -, h⟩ := exists_of_bind_ok h
  obtain ⟨analogOutputErrorValue32, -, h⟩ := exists_of_bind_ok h
  obtain rfl := Except.ok.inj h
  exact ⟨rfl, rfl, rfl⟩

theorem validateConditioning_ok {candidate validated : BoundOd}
    (h : context.validateConditioning candidate = .ok validated) :
    validated.carrier = candidate.carrier ∧
      validated.analogEventObjects = candidate.analogEventObjects ∧
      (context.ParametersAt candidate → context.ParametersAt validated) := by
  unfold validateConditioning at h
  obtain ⟨analogInputSiUnit, -, h⟩ := exists_of_bind_ok h
  obtain ⟨analogInputOffset32, hoffset, h⟩ := exists_of_bind_ok h
  obtain ⟨analogInputPrescaling32, hscaling, h⟩ := exists_of_bind_ok h
  obtain ⟨analogOutputOffset32, -, h⟩ := exists_of_bind_ok h
  obtain ⟨analogOutputScaling32, -, h⟩ := exists_of_bind_ok h
  obtain ⟨analogOutputSiUnit, -, h⟩ := exists_of_bind_ok h
  obtain rfl := Except.ok.inj h
  refine ⟨rfl, rfl, ?_⟩
  intro hevents p hp
  simp only [BoundOd.analogParameters, List.mem_cons, List.not_mem_nil, or_false] at hp
  rcases hp with rfl | rfl | rfl | rfl | rfl | rfl | rfl | rfl
  case inr.inr.inr.inr.inr.inr.inl =>
      exact (validateEnabled_ok (fun _ => eq_of_validateArrayContract) hoffset).2.2
  case inr.inr.inr.inr.inr.inr.inr =>
      exact (validateEnabled_ok (fun _ => eq_of_validateArrayContract) hscaling).2.2
  all_goals exact hevents _ (by simp [BoundOd.analogParameters])

/-- A feature stage keeps what its validation keeps. -/
theorem validateFeature_ok {enabled : Bool} {validate : BoundOd → Except InitDiag BoundOd}
    {P : BoundOd → Prop} {candidate validated : BoundOd}
    (h : validateFeature enabled validate candidate = .ok validated)
    (hon : enabled = true → validate candidate = .ok validated → P validated)
    (hoff : enabled = false → P candidate) : P validated := by
  unfold validateFeature at h
  cases enabled with
  | true => exact hon rfl h
  | false =>
      obtain rfl := Except.ok.inj h
      exact hoff rfl

theorem validate_ok {candidate : BoundOd} (h : context.validate = .ok candidate) :
    context.Candidate candidate := by
  unfold validate at h
  obtain ⟨base, hbase, h⟩ := exists_of_bind_ok h
  obtain ⟨digitalEvents, hdigitalEvents, h⟩ := exists_of_bind_ok h
  obtain ⟨digitalFailSafe, hdigitalFailSafe, h⟩ := exists_of_bind_ok h
  obtain ⟨analogEvents, hanalogEvents, h⟩ := exists_of_bind_ok h
  obtain ⟨analogFailSafe, hanalogFailSafe, h⟩ := exists_of_bind_ok h
  obtain ⟨conditioned, hconditioned, h⟩ := exists_of_bind_ok h
  obtain ⟨-, -, h⟩ := exists_of_bind_ok h
  obtain rfl := Except.ok.inj h
  have hBase := validateBase_ok hbase
  obtain ⟨hdigitalParameters, hkeepDigital⟩ := validateFeature_ok
    (P := fun c => c.analogParameters = base.analogParameters ∧
      ∀ owned, owned ≠ .digitalInputFilter8 → c.carrier owned = base.carrier owned)
    hdigitalEvents
    (fun _ hv => ⟨(validateDigitalEvents_ok hv).2.1, (validateDigitalEvents_ok hv).2.2.2⟩)
    (fun _ => ⟨rfl, fun _ _ => rfl⟩)
  obtain ⟨hfailSafe, hfailSafeParameters⟩ := validateFeature_ok
    (P := fun c => c.carrier = digitalEvents.carrier ∧
      c.analogParameters = digitalEvents.analogParameters)
    hdigitalFailSafe
    (fun _ hv => ⟨(validateDigitalFailSafe_carrier hv).1, (validateDigitalFailSafe_carrier hv).2.1⟩)
    (fun _ => ⟨rfl, rfl⟩)
  obtain ⟨hanalogParameters, hkeepAnalog⟩ := validateFeature_ok
    (P := fun c => (context.ParametersAt digitalFailSafe → context.ParametersAt c) ∧
      ∀ owned, owned ≠ .analogInterruptSource → c.carrier owned = digitalFailSafe.carrier owned)
    hanalogEvents (fun _ hv => (validateAnalogEvents_ok hv).2) (fun _ => ⟨id, fun _ _ => rfl⟩)
  obtain ⟨hanalogFailSafeCarrier, hanalogFailSafeParameters⟩ := validateFeature_ok
    (P := fun c => c.carrier = analogEvents.carrier ∧
      c.analogParameters = analogEvents.analogParameters)
    hanalogFailSafe
    (fun _ hv => ⟨(validateAnalogFailSafe_carrier hv).1, (validateAnalogFailSafe_carrier hv).2.1⟩)
    (fun _ => ⟨rfl, rfl⟩)
  obtain ⟨hconditionedCarrier, hconditionedParameters⟩ := validateFeature_ok
    (P := fun c => c.carrier = analogFailSafe.carrier ∧
      (context.ParametersAt analogFailSafe → context.ParametersAt c))
    hconditioned (fun _ hv => ⟨(validateConditioning_ok hv).1, (validateConditioning_ok hv).2.2⟩)
    (fun _ => ⟨rfl, id⟩)
  have hlast : conditioned.carrier = analogEvents.carrier :=
    hconditionedCarrier.trans hanalogFailSafeCarrier
  have hkeep : ∀ owned, owned ≠ .digitalInputFilter8 → owned ≠ .analogInterruptSource →
      conditioned.carrier owned = base.carrier owned := by
    intro owned hfilter hsource
    rw [hlast, hkeepAnalog owned hsource, hfailSafe, hkeepDigital owned hfilter]
  constructor
  case carrier =>
      intro owned hinstalled
      rw [OwnExtension.installed, Bool.and_eq_true] at hinstalled
      obtain ⟨hcompiled, hcount⟩ := hinstalled
      cases owned with
      | digitalInput8 => rw [hkeep _ (by decide) (by decide)]; exact hBase.digitalInput8 hcount
      | digitalOutput8 => rw [hkeep _ (by decide) (by decide)]; exact hBase.digitalOutput8 hcount
      | analogInput16 => rw [hkeep _ (by decide) (by decide)]; exact hBase.analogInput16 hcount
      | analogOutput16 => rw [hkeep _ (by decide) (by decide)]; exact hBase.analogOutput16 hcount
      | digitalInputFilter8 =>
          rw [hlast, hkeepAnalog _ (by decide), hfailSafe]
          exact validateFeature_ok
            (P := fun c => c.digitalInputFilter8 = some (context.entry indexDigitalInputFilter8))
            hdigitalEvents (fun _ hv => (validateDigitalEvents_ok hv).1 hcount)
            (fun hoff => absurd (hcompiled.symm.trans hoff) (by decide))
      | analogInterruptSource =>
          rw [hlast]
          exact validateFeature_ok
            (P := fun c => c.analogInterruptSource =
              some (context.entry indexAnalogInterruptSource))
            hanalogEvents (fun _ hv => (validateAnalogEvents_ok hv).1 hcount)
            (fun hoff => absurd (hcompiled.symm.trans hoff) (by decide))
  case absent =>
      rintro owned (rfl | rfl) hcount
      · exact hBase.noDigitalOutput8
          (by simpa [digitalOutputEnabled, OwnExtension.count] using hcount)
      · exact hBase.noAnalogOutput16
          (by simpa [analogOutputEnabled, OwnExtension.count] using hcount)
  case parameters =>
      have hbaseParameters := validateBase_parameters hbase
      apply hconditionedParameters
      unfold ParametersAt at hbaseParameters hanalogParameters ⊢
      rw [hanalogFailSafeParameters]
      apply hanalogParameters
      rw [hfailSafeParameters, hdigitalParameters]
      exact hbaseParameters

end BindContext

namespace Device

/-- The object behind one own extension, in the Device's own block. -/
def object (device : Device) (od : Nat) (owned : OwnExtension) : OdEntry :=
  ⟨od, profileIndex device.logicalDevice owned.canonicalIndex⟩

theorem canonicalIndex_valid (owned : OwnExtension) :
    canonicalIndexValid owned.canonicalIndex = true := by
  cases owned <;> decide

/-- Different extensions belong to different objects. -/
theorem object_injective {device : Device} {od : Nat}
    (hvalid : logicalDeviceValid device.logicalDevice = true) {owned other : OwnExtension}
    (h : device.object od owned = device.object od other) : owned = other := by
  have hindex : owned.canonicalIndex = other.canonicalIndex :=
    profileIndex_injective hvalid (canonicalIndex_valid owned) (canonicalIndex_valid other)
      (congrArg OdEntry.index h)
  cases owned <;> cases other <;> first | rfl | exact absurd hindex (by decide)

/-- The extension is in place: on its object, with the hooks of its kind. -/
structure Installed (device : Device) (memory : Memory) (entry : OdEntry)
    (owned : OwnExtension) : Prop where
  extension : memory.extension entry = some (.own owned)
  hooks : device.extensions owned = owned.hooks

/-- Everything a successful bind to `od` establishes about the own extensions. -/
structure Hooked (features : Features) (device : Device) (memory : Memory) (od : Nat) : Prop where
  carrier : ∀ owned, owned.installed features device.config = true →
    device.bound.carrier owned = some (device.object od owned)
  installed : ∀ owned, owned.installed features device.config = true →
    Installed device memory (device.object od owned) owned
  absent : ∀ owned : OwnExtension, owned = .digitalOutput8 ∨ owned = .analogOutput16 →
    owned.count device.config = 0 → memory.shape (device.object od owned) = none
  parameters : ∀ p ∈ device.bound.analogParameters,
    p.1 = none ∨ p.1 = some ⟨od, profileIndex device.logicalDevice p.2⟩

/-- A step that leaves the hooks, the objects and the slots alone. -/
theorem Hooked.of_eq {features : Features} {device after : Device} {memory memoryAfter : Memory}
    {od : Nat} (h : Hooked features device memory od) (hconfig : after.config = device.config)
    (hslot : after.logicalDevice = device.logicalDevice) (hbound : after.bound = device.bound)
    (hextensions : after.extensions = device.extensions)
    (hshape : memoryAfter.shape = memory.shape)
    (hextension : memoryAfter.extension = memory.extension) :
    Hooked features after memoryAfter od := by
  have hobject : after.object od = device.object od := by
    funext owned
    simp only [object, hslot]
  constructor
  case carrier =>
      intro owned hinstalled
      rw [hobject, hbound]
      exact h.carrier owned (by rwa [hconfig] at hinstalled)
  case installed =>
      intro owned hinstalled
      have hplace := h.installed owned (by rwa [hconfig] at hinstalled)
      rw [hobject]
      exact ⟨by rw [hextension]; exact hplace.extension, by rw [hextensions]; exact hplace.hooks⟩
  case absent =>
      intro owned houtput hcount
      rw [hobject, hshape]
      exact h.absent owned houtput (by rwa [hconfig] at hcount)
  case parameters =>
      rw [hbound, hslot]
      exact h.parameters

section Install

variable {features : Features} {candidate : BoundOd}

theorem install_installed {state : Device × Memory} {owned : OwnExtension} {entry : OdEntry}
    (hinstalled : owned.installed features state.1.config = true)
    (hcarrier : candidate.carrier owned = some entry) :
    Installed (install features candidate state owned).1 (install features candidate state owned).2
      entry owned := by
  unfold install
  rw [if_pos hinstalled, hcarrier]
  exact ⟨Memory.extension_extensionInit_self .., Function.update_self ..⟩

theorem install_keeps {state : Device × Memory} {owned other : OwnExtension} {entry : OdEntry}
    (hne : owned ≠ other) (hcarrier : candidate.carrier other ≠ some entry)
    (h : Installed state.1 state.2 entry owned) :
    Installed (install features candidate state other).1 (install features candidate state other).2
      entry owned := by
  unfold install
  split
  · refine ⟨?_, ?_⟩
    · rw [Memory.extension_extensionInit_of_ne _ _ hcarrier]
      exact h.extension
    · exact (Function.update_of_ne hne ..).trans h.hooks
  · exact h

/-- An install touches the extension records and slots only. -/
theorem install_frame (features : Features) (candidate : BoundOd) (state : Device × Memory)
    (owned : OwnExtension) :
    (install features candidate state owned).1 =
        { state.1 with extensions := (install features candidate state owned).1.extensions } ∧
      (install features candidate state owned).2.shape = state.2.shape ∧
      (install features candidate state owned).2.value = state.2.value := by
  unfold install
  split
  · exact ⟨rfl, Memory.shape_extensionInit .., Memory.value_extensionInit ..⟩
  · exact ⟨rfl, rfl, rfl⟩

theorem run_install_frame (features : Features) (candidate : BoundOd) (state : Device × Memory)
    (order : List OwnExtension) :
    (run (install features candidate) state order).1 =
        { state.1 with extensions := (run (install features candidate) state order).1.extensions } ∧
      (run (install features candidate) state order).2.shape = state.2.shape ∧
      (run (install features candidate) state order).2.value = state.2.value := by
  induction order generalizing state with
  | nil => exact ⟨rfl, rfl, rfl⟩
  | cons owned rest ih =>
      obtain ⟨hdevice, hshape, hvalue⟩ := install_frame features candidate state owned
      obtain ⟨hdevice', hshape', hvalue'⟩ := ih (install features candidate state owned)
      refine ⟨?_, hshape'.trans hshape, hvalue'.trans hvalue⟩
      rw [run_cons]
      calc
        _ = _ := hdevice'
        _ = _ := by rw [hdevice]

/-- Installing a list of distinct extensions on distinct objects installs them all. -/
theorem run_install_installed {state : Device × Memory} {order : List OwnExtension}
    {object : OwnExtension → OdEntry} (hobject : Function.Injective object)
    (hcarrier : ∀ owned, owned.installed features state.1.config = true →
      candidate.carrier owned = some (object owned))
    {owned : OwnExtension} (hinstalled : owned.installed features state.1.config = true)
    (hmem : owned ∈ order ∨ Installed state.1 state.2 (object owned) owned) :
    Installed (run (install features candidate) state order).1
      (run (install features candidate) state order).2 (object owned) owned := by
  induction order generalizing state with
  | nil => exact hmem.resolve_left List.not_mem_nil
  | cons other rest ih =>
      have hconfig : (install features candidate state other).1.config = state.1.config := by
        rw [(install_frame features candidate state other).1]
      rw [run_cons]
      apply ih
      · rw [hconfig]
        exact hcarrier
      · rwa [hconfig]
      · by_cases hsame : owned = other
        · subst hsame
          exact Or.inr (install_installed hinstalled (hcarrier owned hinstalled))
        · rcases hmem with hmem | hplace
          · exact Or.inl (List.mem_of_ne_of_mem hsame hmem)
          · right
            by_cases hother : other.installed features state.1.config = true
            · refine install_keeps hsame ?_ hplace
              rw [hcarrier other hother]
              exact fun heq => hsame (hobject (Option.some.inj heq)).symm
            · rw [install, if_neg hother]
              exact hplace

end Install

/-- What no bind changes, whether it succeeds or not. -/
structure SameDevice (before after : Device) : Prop where
  od : after.od = before.od
  config : after.config = before.config
  logicalDevice : after.logicalDevice = before.logicalDevice
  outputSupervisionReady : after.outputSupervisionReady = before.outputSupervisionReady
  outputSupervisionProbe : after.outputSupervisionProbe = before.outputSupervisionProbe

theorem SameDevice.refl (device : Device) : SameDevice device device := ⟨rfl, rfl, rfl, rfl, rfl⟩

theorem SameDevice.trans {first second third : Device} (h : SameDevice first second)
    (h' : SameDevice second third) : SameDevice first third :=
  ⟨h'.od.trans h.od, h'.config.trans h.config, h'.logicalDevice.trans h.logicalDevice,
    h'.outputSupervisionReady.trans h.outputSupervisionReady,
    h'.outputSupervisionProbe.trans h.outputSupervisionProbe⟩

theorem clearDigitalInputEvents_same (enabled dirty : Bool) (device : Device) :
    SameDevice device (clearDigitalInputEvents enabled dirty device) ∧
      (clearDigitalInputEvents enabled dirty device).bound = device.bound ∧
      (clearDigitalInputEvents enabled dirty device).extensions = device.extensions := by
  cases enabled <;> exact ⟨⟨rfl, rfl, rfl, rfl, rfl⟩, rfl, rfl⟩

theorem clearAnalogInputEvents_same (enabled : Bool) (device : Device) :
    SameDevice device (clearAnalogInputEvents enabled device) ∧
      (clearAnalogInputEvents enabled device).bound = device.bound ∧
      (clearAnalogInputEvents enabled device).extensions = device.extensions := by
  cases enabled <;> exact ⟨⟨rfl, rfl, rfl, rfl, rfl⟩, rfl, rfl⟩

theorem detachState_same (features : Features) (device : Device) :
    SameDevice device (detachState features device) :=
  (clearDigitalInputEvents_same _ _ device).1.trans (clearAnalogInputEvents_same _ _).1

theorem resetInputEvents_same (features : Features) (device : Device) :
    SameDevice device (resetInputEvents features device) ∧
      (resetInputEvents features device).bound = device.bound ∧
      (resetInputEvents features device).extensions = device.extensions := by
  obtain ⟨hsame, hbound, hextensions⟩ := clearDigitalInputEvents_same
    (features.digitalEvents && device.config.digitalInputBanks ≠ 0) true device
  obtain ⟨hsame', hbound', hextensions'⟩ := clearAnalogInputEvents_same
    (features.analogEvents && device.config.analogInputChannels ≠ 0)
    (clearDigitalInputEvents (features.digitalEvents && device.config.digitalInputBanks ≠ 0) true
      device)
  exact ⟨hsame.trans hsame', hbound'.trans hbound, hextensions'.trans hextensions⟩

theorem detachMemory_frame (features : Features) (bound : BoundOd) (memory : Memory) :
    (detachMemory features bound memory).shape = memory.shape ∧
      (detachMemory features bound memory).value = memory.value := by
  unfold detachMemory
  refine @run_invariant _ _ _
    (fun after : Memory => after.shape = memory.shape ∧ after.value = memory.value) ?_ _
    ⟨rfl, rfl⟩ _
  rintro after owned ⟨hshape, hvalue⟩
  unfold detach
  dsimp only
  split
  · exact ⟨(Memory.shape_extensionInit ..).trans hshape,
      (Memory.value_extensionInit ..).trans hvalue⟩
  · exact ⟨hshape, hvalue⟩

theorem publish_same (features : Features) (candidate : BoundOd) (device : Device)
    (memory : Memory) :
    SameDevice device (publish features candidate device memory).1 ∧
      (publish features candidate device memory).2.shape = memory.shape ∧
      (publish features candidate device memory).2.value = memory.value := by
  obtain ⟨hdevice, hshape, hvalue⟩ := run_install_frame features candidate
    ({ device with bound := candidate }, memory) BindContext.slotOrder
  refine ⟨?_, hshape, hvalue⟩
  have hreset := (resetInputEvents_same features
    (run (install features candidate) ({ device with bound := candidate }, memory)
      BindContext.slotOrder).1).1
  have hinstall : SameDevice device
      (run (install features candidate) ({ device with bound := candidate }, memory)
        BindContext.slotOrder).1 := by
    rw [hdevice]
    exact ⟨rfl, rfl, rfl, rfl, rfl⟩
  exact hinstall.trans ⟨hreset.od, hreset.config, hreset.logicalDevice,
    hreset.outputSupervisionReady, hreset.outputSupervisionProbe⟩

/-- A bind fails and leaves the Device unbound, or publishes a validated candidate. -/
theorem bindOD_cases (features : Features) (access : OdAccess) (device : Device)
    (memory : Memory) :
    (bindOD features access device memory).1 =
        (unbind features device, detachMemory features device.bound memory) ∨
      ∃ od candidate, (unbind features device).od = some od ∧
        ((unbind features device).bindContext features access od
          (detachMemory features device.bound memory)).validate = .ok candidate ∧
        (bindOD features access device memory).1 =
          publish features candidate (unbind features device)
            (detachMemory features device.bound memory) := by
  unfold bindOD
  dsimp only
  split
  · exact Or.inl rfl
  case h_2 od hod =>
      split
      · exact Or.inl rfl
      case h_2 candidate hvalid => exact Or.inr ⟨od, candidate, hod, hvalid, rfl⟩

theorem unbind_same (features : Features) (device : Device) :
    SameDevice device (unbind features device) := by
  have hdetach := detachState_same features device
  exact ⟨hdetach.od, hdetach.config, hdetach.logicalDevice, hdetach.outputSupervisionReady,
    hdetach.outputSupervisionProbe⟩

theorem bindOD_same (features : Features) (access : OdAccess) (device : Device) (memory : Memory) :
    SameDevice device (bindOD features access device memory).1.1 ∧
      (bindOD features access device memory).1.2.shape = memory.shape ∧
      (bindOD features access device memory).1.2.value = memory.value := by
  have hfree := unbind_same features device
  obtain ⟨hshape, hvalue⟩ := detachMemory_frame features device.bound memory
  rcases bindOD_cases features access device memory with h | ⟨od, candidate, -, -, h⟩
  · rw [h]
    exact ⟨hfree, hshape, hvalue⟩
  · obtain ⟨hsame, hshape', hvalue'⟩ := publish_same features candidate (unbind features device)
      (detachMemory features device.bound memory)
    rw [h]
    exact ⟨hfree.trans hsame, hshape'.trans hshape, hvalue'.trans hvalue⟩

theorem publish_hooked {features : Features} {candidate : BoundOd} {device : Device}
    {memory : Memory} {access : OdAccess} {od : Nat}
    (hslot : logicalDeviceValid device.logicalDevice = true)
    (hcandidate : (device.bindContext features access od memory).Candidate candidate) :
    Hooked features (publish features candidate device memory).1
      (publish features candidate device memory).2 od := by
  obtain ⟨hdevice, hshape, -⟩ := run_install_frame features candidate
    ({ device with bound := candidate }, memory) BindContext.slotOrder
  obtain ⟨hsame, hbound, hextensions⟩ := resetInputEvents_same features
    (run (install features candidate) ({ device with bound := candidate }, memory)
      BindContext.slotOrder).1
  have hinstalled : Hooked features
      (run (install features candidate) ({ device with bound := candidate }, memory)
        BindContext.slotOrder).1
      (run (install features candidate) ({ device with bound := candidate }, memory)
        BindContext.slotOrder).2 od := by
    constructor
    case carrier =>
        rw [hdevice]
        exact hcandidate.carrier
    case installed =>
        intro owned howned
        rw [hdevice] at howned
        have hobject : ∀ device' : Device, device'.logicalDevice = device.logicalDevice →
            device'.object od = device.object od := by
          intro device' heq
          funext other
          simp only [object, heq]
        rw [hobject _ (by rw [hdevice])]
        exact @run_install_installed _ _ _ _ (device.object od)
          (fun _ _ heq => object_injective hslot heq) hcandidate.carrier _ howned
          (Or.inl (by cases owned <;> decide))
    case absent =>
        intro owned houtput hcount
        rw [hdevice] at hcount ⊢
        rw [hshape]
        exact BindContext.shape_of_find (hcandidate.absent owned houtput hcount)
    case parameters =>
        rw [hdevice]
        exact hcandidate.parameters
  exact hinstalled.of_eq hsame.config hsame.logicalDevice hbound hextensions rfl rfl

/-- A Device that says it is bound is hooked to its dictionary. -/
structure Sound (features : Features) (device : Device) (memory : Memory) : Prop where
  slot : logicalDeviceValid device.logicalDevice = true
  hooked : device.odBound = true → ∃ od, device.od = some od ∧ Hooked features device memory od

theorem bindOD_sound {features : Features} {access : OdAccess} {device : Device}
    {memory : Memory} (hslot : logicalDeviceValid device.logicalDevice = true) :
    Sound features (bindOD features access device memory).1.1
      (bindOD features access device memory).1.2 := by
  have hsame := (bindOD_same features access device memory).1
  have hfree := unbind_same features device
  refine ⟨by rw [hsame.logicalDevice]; exact hslot, ?_⟩
  intro hbound
  rw [hsame.od]
  rcases bindOD_cases features access device memory with h | ⟨od, candidate, hod, hvalid, h⟩
  · rw [h] at hbound
    cases hbound
  · rw [h]
    exact ⟨od, hfree.od.symm.trans hod,
      publish_hooked (by rw [hfree.logicalDevice]; exact hslot) (BindContext.validate_ok hvalid)⟩

theorem sound_cleared (features : Features) (memory : Memory) : Sound features {} memory :=
  ⟨rfl, fun h => nomatch h⟩

theorem init_sound (features : Features) (access : OdAccess) (od : Option Nat)
    (config : Option DeviceConfig) (memory : Memory) :
    Sound features (init features access od config memory).1.1
      (init features access od config memory).1.2 := by
  unfold init
  split
  case h_2 => exact sound_cleared features memory
  case h_1 od config =>
      dsimp only
      split
      · exact sound_cleared features memory
      case isFalse hvalid =>
          apply bindOD_sound
          rw [not_not] at hvalid
          unfold validateConfig at hvalid
          split at hvalid
          · cases hvalid
          · split at hvalid
            · cases hvalid
            case isFalse hslot =>
                rw [Bool.or_eq_true, not_or, Bool.not_eq_true', Bool.not_eq_false] at hslot
                exact hslot.2

end Device

end CanopenRtt.Cia401
