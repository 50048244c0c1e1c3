import CanopenRtt.Cia401.BoundAccess
/-!
# The law of a bind

`CO_401_device_bindOD` succeeds exactly on a dictionary that meets the contract of the Device. A
call that fails leaves none of the Device's hooks behind, and one that succeeds leaves every place
that a pass accesses in the dictionary.
-/

namespace CanopenRtt.Cia401

open CanopenRtt.Profile CanopenRtt.Support

/-! ## Failures are reported as such -/

namespace BindContext

/-- The computation reports no failure as success. -/
def Reports {α : Type} (result : Except InitDiag α) : Prop :=
  ∀ diag, result = .error diag → diag.error ≠ .ok

variable {context : BindContext}

theorem reports_ok {α : Type} (a : α) : Reports (.ok a : Except InitDiag α) := fun _ => nofun

theorem reports_fail {α : Type} {error : InitError} (herror : error ≠ .ok)
    (index subIndex : Nat) : Reports (context.fail error index subIndex : Except InitDiag α) := by
  intro diag hdiag
  rw [← Except.error.inj hdiag]
  exact herror

theorem reports_bind {α β : Type} {first : Except InitDiag α} {next : α → Except InitDiag β}
    (hfirst : Reports first) (hnext : ∀ a, Reports (next a)) : Reports (first >>= next) := by
  intro diag hdiag
  cases first with
  | error other =>
      obtain rfl := Except.error.inj
        (show (.error other : Except InitDiag β) = .error diag from hdiag)
      exact hfirst other rfl
  | ok a => exact hnext a diag hdiag

theorem require_reports (index : Nat) : Reports (context.require index) := by
  unfold require
  split
  · exact reports_fail (by decide) _ _
  · split
    · exact reports_fail (by decide) _ _
    · exact reports_ok _

theorem requireSub_reports (entry : OdEntry) (subIndex length : Nat) :
    Reports (context.requireSub entry subIndex length) := by
  unfold requireSub
  split
  · exact reports_fail (by decide) _ _
  · split_ifs
    · exact reports_fail (by decide) _ _
    · exact reports_fail (by decide) _ _
    · exact reports_ok _

theorem validateDeviceTypeEntry_reports (index : Nat) (expectedValue valueMask : BitVec 32) :
    Reports (context.validateDeviceTypeEntry index expectedValue valueMask) := by
  refine reports_bind (require_reports index) fun found => ?_
  dsimp only
  split_ifs
  · exact reports_fail (by decide) _ _
  · refine reports_bind (requireSub_reports _ _ _) fun sub => ?_
    split_ifs
    · exact reports_fail (by decide) _ _
    · split
      · exact reports_fail (by decide) _ _
      · split_ifs
        · exact reports_fail (by decide) _ _
        · exact reports_ok _

theorem validateDeviceType_reports : Reports context.validateDeviceType := by
  have hentry := @validateDeviceTypeEntry_reports context
  unfold validateDeviceType
  dsimp only
  split
  · exact reports_bind (hentry _ _ _) fun _ => reports_ok _
  · split
    · exact reports_bind (hentry _ _ _) fun _ =>
        reports_bind (hentry _ _ _) fun _ => reports_ok _
    · exact reports_bind (hentry _ _ _) fun _ =>
        reports_bind (hentry _ _ _) fun _ => reports_ok _

theorem validateArrayContract_reports (canonicalIndex count length : Nat)
    (required allowed : BitVec 8) :
    Reports (context.validateArrayContract canonicalIndex count length required allowed) := by
  refine reports_bind (require_reports _) fun found => ?_
  dsimp only
  split
  · exact reports_fail (by decide) _ _
  split
  · exact reports_fail (by decide) _ _
  refine reports_bind (requireSub_reports _ _ _) fun countSub => ?_
  split
  · exact reports_fail (by decide) _ _
  split
  · exact reports_fail (by decide) _ _
  refine reports_bind (requireSub_reports _ _ _) fun elementSub => ?_
  split
  · exact reports_fail (by decide) _ _
  split
  · exact reports_fail (by decide) _ _
  · exact reports_ok _

theorem validateVariable8_reports (canonicalIndex : Nat) (required allowed : BitVec 8) :
    Reports (context.validateVariable8 canonicalIndex required allowed) := by
  refine reports_bind (require_reports _) fun found => ?_
  dsimp only
  split
  · exact reports_fail (by decide) _ _
  refine reports_bind (requireSub_reports _ _ _) fun sub => ?_
  split
  · exact reports_fail (by decide) _ _
  · exact reports_ok _

theorem validateObject_reports (object : ProfileObject) :
    Reports (context.validateObject object) := by
  unfold validateObject validateEnabled
  dsimp only
  split
  · split
    · split
      · exact reports_ok _
      · split
        · exact validateArrayContract_reports _ _ _ _ _
        · exact validateVariable8_reports _ _ _
    · split
      · exact validateArrayContract_reports _ _ _ _ _
      · exact validateVariable8_reports _ _ _
  · split
    · exact reports_fail (by decide) _ _
    · exact reports_ok _

theorem validateFeature_reports {enabled : Bool} {validate : BoundOd → Except InitDiag BoundOd}
    (h : ∀ candidate, Reports (validate candidate)) (candidate : BoundOd) :
    Reports (validateFeature enabled validate candidate) := by
  unfold validateFeature
  split
  · exact h candidate
  · exact reports_ok _

theorem validateExtensionSlots_reports (candidate : BoundOd) (order : List OwnExtension) :
    Reports (context.validateExtensionSlots candidate order) := by
  have hslot : ∀ found owned canonicalIndex,
      Reports (context.validateExtensionSlot found owned canonicalIndex) := by
    intro found owned canonicalIndex
    unfold validateExtensionSlot
    split
    · exact reports_ok _
    · split
      · exact reports_ok _
      · exact reports_fail (by decide) _ _
  induction order with
  | nil => exact reports_ok _
  | cons owned rest ih =>
      rw [validateExtensionSlots]
      dsimp only
      split
      · exact reports_bind (hslot _ _ _) fun _ => ih
      · exact ih

/-- The stages are sequences of object validations. -/
theorem validate_reports : Reports context.validate := by
  have hobject := @validateObject_reports context
  have hevents : ∀ candidate, Reports (context.validateDigitalEvents candidate) := fun _ =>
    reports_bind (hobject .digitalInputPolarity8) fun _ =>
    reports_bind (hobject .digitalInputFilter8) fun _ =>
    reports_bind (hobject .digitalInterruptEnable) fun _ =>
    reports_bind (hobject .digitalInterruptAny8) fun _ =>
    reports_bind (hobject .digitalInterruptRising8) fun _ =>
    reports_bind (hobject .digitalInterruptFalling8) fun _ => reports_ok _
  have hfailSafe : ∀ candidate, Reports (context.validateDigitalFailSafe candidate) := fun _ =>
    reports_bind (hobject .digitalOutputPolarity8) fun _ =>
    reports_bind (hobject .digitalOutputErrorMode8) fun _ =>
    reports_bind (hobject .digitalOutputErrorValue8) fun _ =>
    reports_bind (hobject .digitalOutputFilter8) fun _ => reports_ok _
  have hanalog : ∀ candidate, Reports (context.validateAnalogEvents candidate) := fun _ =>
    reports_bind (hobject .analogInterruptTrigger) fun _ =>
    reports_bind (hobject .analogInterruptSource) fun _ =>
    reports_bind (hobject .analogInterruptUpper32) fun _ =>
    reports_bind (hobject .analogInterruptLower32) fun _ =>
    reports_bind (hobject .analogInterruptDeltaU32) fun _ =>
    reports_bind (hobject .analogInterruptNegDeltaU32) fun _ =>
    reports_bind (hobject .analogInterruptPosDeltaU32) fun _ => reports_ok _
  have hanalogSafe : ∀ candidate, Reports (context.validateAnalogFailSafe candidate) := fun _ =>
    reports_bind (hobject .analogOutputErrorMode) fun _ =>
    reports_bind (hobject .analogOutputErrorValue32) fun _ => reports_ok _
  have hconditioning : ∀ candidate, Reports (context.validateConditioning candidate) := fun _ =>
    reports_bind (hobject .analogInputSiUnit) fun _ =>
    reports_bind (hobject .analogInputOffset32) fun _ =>
    reports_bind (hobject .analogInputPrescaling32) fun _ =>
    reports_bind (hobject .analogOutputOffset32) fun _ =>
    reports_bind (hobject .analogOutputScaling32) fun _ =>
    reports_bind (hobject .analogOutputSiUnit) fun _ => reports_ok _
  have hbase : Reports (context.validateBase {}) :=
    reports_bind validateDeviceType_reports fun _ =>
    reports_bind (hobject .digitalInput8) fun _ =>
    reports_bind (hobject .digitalOutput8) fun _ =>
    reports_bind (hobject .analogInput16) fun _ =>
    reports_bind (hobject .analogInterruptEnable) fun _ =>
    reports_bind (hobject .analogOutput16) fun _ => reports_ok _
  exact reports_bind hbase fun _ =>
    reports_bind (validateFeature_reports hevents _) fun _ =>
    reports_bind (validateFeature_reports hfailSafe _) fun _ =>
    reports_bind (validateFeature_reports hanalog _) fun _ =>
    reports_bind (validateFeature_reports hanalogSafe _) fun _ =>
    reports_bind (validateFeature_reports hconditioning _) fun candidate =>
    reports_bind (validateExtensionSlots_reports candidate _) fun _ => reports_ok _

end BindContext

namespace Device

variable {features : Features}

/-! ## The slots before and after a detach -/

/-- A slot keeps what it holds, unless this is an own extension that the Device has bound. -/
theorem extension_run_detach (bound : BoundOd) (memory : Memory) (order : List OwnExtension)
    (entry : OdEntry) (owner : ExtensionOwner) :
    (run (detach features bound) memory order).extension entry = some owner ↔
      memory.extension entry = some owner ∧
        ∀ owned ∈ order, owner = .own owned → owned.compiled features = true →
          bound.carrier owned ≠ some entry := by
  induction order generalizing memory with
  | nil => simp
  | cons owned rest ih =>
      rw [run_cons, ih, List.forall_mem_cons]
      have hstep : (detach features bound memory owned).extension entry = some owner ↔
          memory.extension entry = some owner ∧
            (owner = .own owned → owned.compiled features = true →
              bound.carrier owned ≠ some entry) := by
        unfold detach
        dsimp only
        split
        case isTrue hown =>
            rw [Bool.and_eq_true, decide_eq_true_eq] at hown
            obtain ⟨hcompiled, hslot⟩ := hown
            rw [extension_extensionInit]
            split
            case isTrue hcarrier =>
                rw [hcarrier, Option.bind_some] at hslot
                simp only [reduceCtorEq, false_iff]
                rintro ⟨hbefore, hfree⟩
                rw [hslot] at hbefore
                exact hfree (Option.some.inj hbefore).symm hcompiled hcarrier
            case isFalse hcarrier =>
                exact ⟨fun hbefore => ⟨hbefore, fun _ _ => hcarrier⟩, fun h => h.1⟩
        case isFalse hown =>
            refine ⟨fun hbefore => ⟨hbefore, fun howner hcompiled hcarrier => hown ?_⟩,
              fun h => h.1⟩
            rw [hcarrier, Option.bind_some, hbefore, howner, hcompiled]
            simp
      rw [hstep, and_assoc]

theorem extension_detachMemory (bound : BoundOd) (memory : Memory) (entry : OdEntry)
    (owner : ExtensionOwner) :
    (detachMemory features bound memory).extension entry = some owner ↔
      memory.extension entry = some owner ∧
        ∀ owned, owner = .own owned → owned.compiled features = true →
          bound.carrier owned ≠ some entry := by
  unfold detachMemory
  rw [extension_run_detach]
  refine and_congr_right fun _ => ⟨fun h owned => h owned (by cases owned <;> decide),
    fun h owned _ => h owned⟩

/-- Installing the own extensions leaves the extensions of others where they are. -/
theorem publish_other {candidate : BoundOd} {device : Device} {memory : Memory}
    (hfree : ∀ owned : OwnExtension, owned.installed features device.config = true →
      ∀ entry, candidate.carrier owned = some entry →
        ∀ subsystem, memory.extension entry ≠ some (.other subsystem))
    (entry : OdEntry) (subsystem : Nat) :
    (publish features candidate device memory).2.extension entry = some (.other subsystem) ↔
      memory.extension entry = some (.other subsystem) := by
  have hrun := @run_invariant _ _ (install features candidate)
    (fun state : Device × Memory => state.1.config = device.config ∧
      (state.2.extension entry = some (.other subsystem) ↔
        memory.extension entry = some (.other subsystem))) ?_
    ({ device with bound := candidate }, memory) ⟨rfl, Iff.rfl⟩ BindContext.slotOrder
  · exact hrun.2
  · rintro state owned ⟨hconfig, hslots⟩
    unfold install
    split
    case isFalse => exact ⟨hconfig, hslots⟩
    case isTrue hinstalled =>
        refine ⟨hconfig, ?_⟩
        dsimp only
        rw [extension_extensionInit]
        split
        case isFalse => exact hslots
        case isTrue hcarrier =>
            rw [hconfig] at hinstalled
            exact ⟨nofun, fun hother => absurd hother (hfree owned hinstalled entry hcarrier _)⟩

/-! ## Exactness -/

/-- The slot is free, or what it carries is the Device's own. -/
def SlotFree (features : Features) (device : Device) (memory : Memory) (entry : OdEntry)
    (owned : OwnExtension) : Prop :=
  ∀ owner, memory.extension entry = some owner → owner = .own owned ∨
    ∃ other : OwnExtension, owner = .own other ∧ other.compiled features = true ∧
      device.bound.carrier other = some entry

/-- The dictionary meets the contract of this Device. -/
structure Meets (features : Features) (access : OdAccess) (device : Device) (memory : Memory)
    (od : Nat) : Prop where
  deviceType : (device.bindContext features access od memory).DeviceTypeMet
  object : ∀ object : ProfileObject, object.compiled features = true →
    (device.bindContext features access od memory).ObjectMet object
  slot : ∀ owned : OwnExtension, owned.installed features device.config = true →
    SlotFree features device memory
      ((device.bindContext features access od memory).entry owned.canonicalIndex) owned

theorem bindContext_unbind (features : Features) (access : OdAccess) (device : Device) (od : Nat)
    (memory : Memory) :
    (unbind features device).bindContext features access od memory =
      device.bindContext features access od memory := by
  unfold unbind detachState clearAnalogInputEvents clearDigitalInputEvents
  split <;> split <;> rfl

/-- The contract is the one that the validation checks after the detach. -/
theorem accepts_iff_meets {access : OdAccess} {device : Device} {memory : Memory} {od : Nat} :
    (device.bindContext features access od
      (detachMemory features device.bound memory)).Accepts ↔
        Meets features access device memory od := by
  obtain ⟨hshape, hvalue⟩ := detachMemory_frame features device.bound memory
  have hslots := @extension_detachMemory features device.bound memory
  have hmemory : detachMemory features device.bound memory =
      { memory with extension := (detachMemory features device.bound memory).extension } := by
    rw [← hshape, ← hvalue]
  generalize (detachMemory features device.bound memory).extension = extension at hmemory hslots
  rw [hmemory]
  constructor
  · rintro ⟨hdevice, hobject, hslot⟩
    refine ⟨hdevice, hobject, fun owned hinstalled owner howner => ?_⟩
    by_cases hown : ∃ other : OwnExtension, owner = .own other ∧ other.compiled features = true ∧
        device.bound.carrier other =
          some ((device.bindContext features access od memory).entry owned.canonicalIndex)
    · exact .inr hown
    · refine .inl (hslot owned hinstalled owner ((hslots _ owner).mpr ⟨howner, ?_⟩))
      exact fun other hother hcompiled hcarrier => hown ⟨other, hother, hcompiled, hcarrier⟩
  · rintro ⟨hdevice, hobject, hslot⟩
    refine ⟨hdevice, hobject, fun owned hinstalled owner howner => ?_⟩
    obtain ⟨hbefore, hkept⟩ := (hslots _ owner).mp howner
    rcases hslot owned hinstalled owner hbefore with hsame | ⟨other, hother, hcompiled, hcarrier⟩
    · exact hsame
    · exact absurd hcarrier (hkept other hother hcompiled)

/-- The two ways a call ends. -/
theorem bindOD_outcome (features : Features) (access : OdAccess) (device : Device)
    (memory : Memory) :
    ((¬ ∃ od, device.od = some od ∧ Meets features access device memory od) ∧
      (bindOD features access device memory).2.error ≠ .ok ∧
      (bindOD features access device memory).1 =
        (unbind features device, detachMemory features device.bound memory)) ∨
    ∃ od, device.od = some od ∧ Meets features access device memory od ∧
      (bindOD features access device memory).2.error = .ok ∧
      (bindOD features access device memory).1 =
        publish features
          (device.bindContext features access od
            (detachMemory features device.bound memory)).expected
          (unbind features device) (detachMemory features device.bound memory) := by
  have hod : (unbind features device).od = device.od := (unbind_same features device).od
  unfold bindOD
  dsimp only
  rw [hod]
  cases device.od with
  | none => exact .inl ⟨nofun, nofun, rfl⟩
  | some od =>
      dsimp only
      rw [bindContext_unbind]
      cases hvalidate : (device.bindContext features access od
          (detachMemory features device.bound memory)).validate with
      | error diag =>
          refine .inl ⟨?_, BindContext.validate_reports diag hvalidate, rfl⟩
          rintro ⟨other, hother, hmeets⟩
          obtain rfl := Option.some.inj hother
          have hok := BindContext.validate_eq_ok.mpr ⟨accepts_iff_meets.mpr hmeets, rfl⟩
          rw [hvalidate] at hok
          cases hok
      | ok candidate =>
          obtain ⟨haccepts, rfl⟩ := BindContext.validate_eq_ok.mp hvalidate
          exact .inr ⟨od, rfl, accepts_iff_meets.mp haccepts, rfl, rfl⟩

/-! ## After a bind -/

end Device

/-- The counts fit the sub-index zero of an object. -/
structure DeviceConfig.CountsValid (config : DeviceConfig) : Prop where
  digitalInputBanks : config.digitalInputBanks ≤ processImageCountMax
  digitalOutputBanks : config.digitalOutputBanks ≤ processImageCountMax
  analogInputChannels : config.analogInputChannels ≤ processImageCountMax
  analogOutputChannels : config.analogOutputChannels ≤ processImageCountMax

theorem countsValid_of_ok {features : Features} {config : DeviceConfig} {capabilities : BitVec 8}
    (h : validateConfig features config capabilities = .ok) : config.CountsValid := by
  unfold validateConfig at h
  split at h
  · cases h
  · obtain ⟨-, h⟩ := passed_of_ok h (by decide)
    obtain ⟨hcounts, -⟩ := passed_of_ok h (by decide)
    simp only [validCount, Bool.or_eq_true, Bool.not_eq_true', decide_eq_false_iff_not, not_or,
      not_not] at hcounts
    exact ⟨hcounts.1.1.1, hcounts.1.1.2, hcounts.1.2, hcounts.2⟩

/-- No array has more elements than its sub-index zero can tell. -/
theorem count_le_of_contract {config : DeviceConfig} (h : config.CountsValid)
    {object : ProfileObject} {count length : Nat} {required allowed : BitVec 8}
    (hcontract : object.contract config = .array count length required allowed) :
    count ≤ processImageCountMax := by
  obtain ⟨hdigitalIn, hdigitalOut, hanalogIn, hanalogOut⟩ := h
  have hgroups : config.sourceBanks ≤ processImageCountMax := by
    unfold DeviceConfig.sourceBanks
    omega
  cases object <;> cases hcontract <;> assumption

/-- The place exists: its entry is bound and the object has the sub-index. -/
def Memory.Holds (memory : Memory) (place : Option OdEntry × Nat) : Prop :=
  ∃ entry shape, place.1 = some entry ∧ memory.shape entry = some shape ∧
    place.2 < shape.subEntriesCount

namespace Device

/-- A used object of an accepted dictionary has every sub-index of the configuration. -/
theorem holds_of_accepts {context : BindContext} (h : context.Accepts)
    (hcounts : context.config.CountsValid) {object : ProfileObject}
    (hused : object.used context.features context.config = true) {subIndex : Nat}
    (hsub : subIndex ∈ object.subIndices context.config) :
    context.memory.Holds (context.expected.get object, subIndex) := by
  simp only [ProfileObject.used, Bool.and_eq_true, decide_eq_true_eq, Bool.not_eq_true'] at hused
  obtain ⟨⟨hcompiled, hcapability⟩, hoptional⟩ := hused
  have hget : context.expected.get object = some (context.entry object.canonicalIndex) := by
    rw [BindContext.expected_get, if_pos hcompiled]
    unfold BindContext.binding
    rw [decide_eq_true hcapability, hoptional]
    rfl
  have hmet := h.object object hcompiled
  unfold BindContext.ObjectMet at hmet
  rw [if_pos hcapability, hoptional] at hmet
  have hcontract := hmet.resolve_right fun hnone => Bool.false_ne_true hnone.1
  unfold ProfileObject.subIndices at hsub
  cases hobject : object.contract context.config with
  | array count length required allowed =>
      rw [hobject] at hsub hcontract
      obtain ⟨⟨shape, hshape, -, hentries⟩, -⟩ := hcontract
      obtain ⟨element, helement, rfl⟩ := List.mem_map.mp hsub
      have hlt := List.mem_range.mp helement
      have hcount := count_le_of_contract hcounts hobject
      unfold processImageCountMax at hcount
      exact ⟨_, shape, hget, hshape, by rw [hentries]; dsimp only; omega⟩
  | variable8 required allowed =>
      rw [hobject] at hsub hcontract
      obtain ⟨⟨shape, hshape, -, hentries⟩, -⟩ := hcontract
      obtain rfl := List.mem_singleton.mp hsub
      exact ⟨_, shape, hget, hshape, by rw [hentries]; exact Nat.one_pos⟩

/-- What one call does. -/
structure BindLaw (features : Features) (access : OdAccess) (device : Device) (memory : Memory) :
    Prop where
  exact : (bindOD features access device memory).2.error = .ok ↔
    ∃ od, device.od = some od ∧ Meets features access device memory od
  unbound : (bindOD features access device memory).2.error ≠ .ok →
    (bindOD features access device memory).1.1.odBound = false
  detached : (bindOD features access device memory).2.error ≠ .ok →
    ∀ owned : OwnExtension, owned.compiled features = true →
      ∀ entry, device.bound.carrier owned = some entry →
        (bindOD features access device memory).1.2.extension entry ≠ some (.own owned)
  cleared : (bindOD features access device memory).2.error ≠ .ok →
    OwnsSlots features device memory → NoSlots (bindOD features access device memory).1.2
  foreign : ∀ entry subsystem,
    (bindOD features access device memory).1.2.extension entry = some (.other subsystem) ↔
      memory.extension entry = some (.other subsystem)
  values : (bindOD features access device memory).1.2.value = memory.value ∧
    (bindOD features access device memory).1.2.shape = memory.shape
  bound : (bindOD features access device memory).2.error = .ok →
    (bindOD features access device memory).1.1.odBound = true
  completed : (bindOD features access device memory).2.error = .ok → device.config.CountsValid →
    ∀ place ∈ (bindOD features access device memory).1.1.accesses features,
      (bindOD features access device memory).1.2.Holds place

theorem foreign_detachMemory (bound : BoundOd) (memory : Memory) (entry : OdEntry)
    (subsystem : Nat) :
    (detachMemory features bound memory).extension entry = some (.other subsystem) ↔
      memory.extension entry = some (.other subsystem) := by
  rw [extension_detachMemory]
  exact and_iff_left fun _ => nofun

/-- A slot that an accepted bind fills was nobody else's. -/
theorem free_of_meets {access : OdAccess} {device : Device} {memory : Memory} {od : Nat}
    (h : Meets features access device memory od) {owned : OwnExtension}
    (hinstalled : owned.installed features device.config = true) {entry : OdEntry}
    (hcarrier : (device.bindContext features access od
      (detachMemory features device.bound memory)).expected.carrier owned = some entry)
    (subsystem : Nat) :
    (detachMemory features device.bound memory).extension entry ≠ some (.other subsystem) := by
  intro hother
  rw [foreign_detachMemory] at hother
  obtain rfl := Option.some.inj (hcarrier.symm.trans (BindContext.expected_carrier hinstalled))
  rcases h.slot owned hinstalled (.other subsystem) hother with hown | ⟨other, hown, -⟩
  · cases hown
  · cases hown

theorem bindLaw (features : Features) (access : OdAccess) (device : Device) (memory : Memory) :
    BindLaw features access device memory := by
  obtain ⟨hsame, hshape, hvalue⟩ := bindOD_same features access device memory
  have hconfig : (bindOD features access device memory).1.1.config = device.config :=
    hsame.config
  rcases bindOD_outcome features access device memory with
    ⟨hnot, herror, hstate⟩ | ⟨od, hod, hmeets, herror, hstate⟩
  · refine ⟨⟨fun hok => absurd hok herror, fun hmeets => absurd hmeets hnot⟩, ?_, ?_, ?_, ?_,
      ⟨hvalue, hshape⟩, fun hok => absurd hok herror, fun hok => absurd hok herror⟩
    · rw [hstate]
      exact fun _ => rfl
    · intro _ owned hcompiled entry hcarrier hslot
      rw [hstate, extension_detachMemory] at hslot
      exact hslot.2 owned rfl hcompiled hcarrier
    · intro _ howns
      rw [hstate]
      exact detachMemory_noSlots howns
    · rw [hstate]
      exact foreign_detachMemory device.bound memory
  · refine ⟨⟨fun _ => ⟨od, hod, hmeets⟩, fun _ => herror⟩, fun hne => absurd herror hne,
      fun hne => absurd herror hne, fun hne => absurd herror hne, ?_, ⟨hvalue, hshape⟩, ?_, ?_⟩
    · intro entry subsystem
      rw [hstate, publish_other ?_, foreign_detachMemory]
      intro owned hinstalled target hcarrier other
      rw [(unbind_same features device).config] at hinstalled
      exact free_of_meets hmeets hinstalled hcarrier other
    · rw [hstate]
      exact fun _ => rfl
    · intro _ hcounts place hplace
      obtain ⟨object, hused, hentry, hsub⟩ := mem_accesses.mp hplace
      rw [hconfig] at hused hsub
      have haccepts := accepts_iff_meets.mpr hmeets
      have hholds := holds_of_accepts haccepts hcounts hused hsub
      obtain ⟨entry, shape, hget, hexists, hlt⟩ := hholds
      rw [hstate, publish_bound] at hentry
      refine ⟨entry, shape, hentry.trans hget, ?_, hlt⟩
      rw [hshape, ← hexists]
      exact (congrFun (detachMemory_frame features device.bound memory).1 entry).symm

end Device

end CanopenRtt.Cia401
