import CanopenRtt.Cia402.Device.Reachable
import CanopenRtt.Cia402.Device.SupportedModes
/-!
# Exact binding

What a manager and a dictionary must have for `CO_402_device_bindOD` to accept them, stated without
the order of its checks, and the entries that are cached once it has.
-/

namespace CanopenRtt.Cia402.Device

open CanopenRtt.Profile

/-! ## The binding contract -/

/-- The axis-0 index of the object behind a cached entry. -/
def ObjectSlot.axis0Index : ObjectSlot → Nat
  | .errorCode => 0x603F
  | .controlword => 0x6040
  | .statusword => 0x6041
  | .modesOfOperation => 0x6060
  | .modesOfOperationDisplay => 0x6061
  | .positionActualValue => 0x6064
  | .velocityActualValue => 0x606C
  | .targetTorque => 0x6071
  | .torqueActualValue => 0x6077
  | .targetPosition => 0x607A
  | .homeOffset => 0x607C
  | .profileVelocity => 0x6081
  | .profileAcceleration => 0x6083
  | .profileDeceleration => 0x6084
  | .quickStopDeceleration => 0x6085
  | .motionProfileType => 0x6086
  | .homingMethod => 0x6098
  | .homingSpeeds => 0x6099
  | .homingAcceleration => 0x609A
  | .targetVelocity => 0x60FF
  | .supportedDriveModes => 0x6502

/-- The sub-entry has storage, this width and these runtime-visible attributes. -/
def SubMet (sub : Option ODSub) (length : Nat) (expectedAttributes : BitVec 8) : Prop :=
  ∃ found, sub = some found ∧ found.dataOrig = true ∧ found.dataLength = length ∧
    found.attributes &&& odAttributeContractMask = expectedAttributes

/-- The dictionary has the scalar object of this contract. -/
def ODContract.Met (od : ObjectDictionary) (logicalDevice : LogicalDevice)
    (contract : ODContract) : Prop :=
  ∃ entry, odFind od (profileIndex logicalDevice contract.axis0Index) = some entry ∧
    entry.odObjectType &&& odObjectTypeMask = odObjectTypeVar ∧ entry.subEntriesCount = 1 ∧
    SubMet (entry.sub 0) contract.length contract.expectedAttributes

/-- The dictionary has 0x6099 as a record of a count and two speeds. -/
def HomingSpeedsMet (od : ObjectDictionary) (logicalDevice : LogicalDevice) : Prop :=
  ∃ entry, odFind od (profileIndex logicalDevice 0x6099) = some entry ∧
    entry.odObjectType &&& odObjectTypeMask = odObjectTypeRec ∧ entry.subEntriesCount = 3 ∧
    SubMet (entry.sub 0) 1 odaSdoR ∧ SubMet (entry.sub 1) 4 (odaSdoRW ||| odaMb) ∧
    SubMet (entry.sub 2) 4 (odaSdoRW ||| odaMb)

/-- The scalar objects that the advertised modes require. -/
def advertisedContracts (supportedModes : BitVec 32) : List ODContract :=
  (if supportedModes &&& supportedModePP ≠ 0 then ppContracts else []) ++
    (if supportedModes &&& supportedModePV ≠ 0 then pvContracts else []) ++
    (if supportedModes &&& supportedModeHM ≠ 0 then hmContracts else []) ++
    (if supportedModes &&& supportedModeCST ≠ 0 then cstContracts else [])

/-- No other subsystem has extended the entry. -/
def SlotFree (od : ObjectDictionary) (index : Nat) (owner : ExtensionOwner) : Prop :=
  ∀ entry, odFind od index = some entry →
    entry.extension = none ∨ entry.extension = some owner

/-- What the dictionary must have for this axis. -/
structure Axis.Bindable (od : ObjectDictionary) (axis : Axis) : Prop where
  base : ∀ contract ∈ baseContracts, contract.Met od axis.logicalDevice
  modes : ∀ contract ∈ advertisedContracts axis.supportedModes, contract.Met od axis.logicalDevice
  homingSpeeds : axis.supportedModes &&& supportedModeHM ≠ 0 →
    HomingSpeedsMet od axis.logicalDevice
  controlwordFree : SlotFree od (profileIndex axis.logicalDevice 0x6040)
    (.controlword axis.logicalDevice)
  modeFree : SlotFree od (profileIndex axis.logicalDevice 0x6060) (.mode axis.logicalDevice)

/-! ## The checks decide the contract -/

theorem validateSub_eq_none {sub : Option ODSub} {length : Nat} {expectedAttributes : BitVec 8} :
    validateSub sub length expectedAttributes = none ↔ SubMet sub length expectedAttributes := by
  unfold validateSub SubMet
  cases sub with
  | none => simp
  | some found =>
      dsimp only
      split_ifs with hdata hlength hattributes
      · simp_all
      · simp_all
      · simp_all
      · simp_all

theorem BindStage.next_none {first second : BindStage} {axis : Axis} :
    (first.next second axis).2 = none ↔
      (first axis).2 = none ∧ (second (first axis).1).2 = none := by
  unfold BindStage.next
  split
  · rename_i axis' hfirst
    simp [hfirst]
  · rename_i axis' diag hfirst
    simp [hfirst]

theorem BindStage.CacheOnly.logicalDevice {stage : BindStage} (h : stage.CacheOnly) (axis : Axis) :
    (stage axis).1.logicalDevice = axis.logicalDevice := by
  rw [h axis]

theorem BindStage.CacheOnly.supportedModes {stage : BindStage} (h : stage.CacheOnly)
    (axis : Axis) : (stage axis).1.supportedModes = axis.supportedModes := by
  rw [h axis]

theorem validateOneScalar_cacheOnly (od : ObjectDictionary) (contract : ODContract) :
    (validateOneScalar od contract).CacheOnly := by
  intro axis
  unfold validateOneScalar
  dsimp only
  split
  · rfl
  · split_ifs
    · rfl
    · split <;> rfl

theorem validateOneScalar_none {od : ObjectDictionary} {contract : ODContract} {axis : Axis} :
    (validateOneScalar od contract axis).2 = none ↔ contract.Met od axis.logicalDevice := by
  unfold validateOneScalar ODContract.Met
  dsimp only
  cases hfind : odFind od (profileIndex axis.logicalDevice contract.axis0Index) with
  | none => simp
  | some entry =>
      dsimp only
      split_ifs with htype
      · simp only [false_iff]
        rintro ⟨found, hfound, hvar, hcount, -⟩
        obtain rfl := Option.some.inj hfound
        simp [hvar, hcount] at htype
      · have hvar : entry.odObjectType &&& odObjectTypeMask = odObjectTypeVar ∧
            entry.subEntriesCount = 1 := by simpa using htype
        cases hsub : validateSub (entry.sub 0) contract.length contract.expectedAttributes with
        | some error =>
            simp only [reduceCtorEq, false_iff]
            rintro ⟨found, hfound, -, -, hmet⟩
            obtain rfl := Option.some.inj hfound
            exact absurd (hsub.symm.trans (validateSub_eq_none.mpr hmet)) nofun
        | none =>
            simp only [true_iff]
            exact ⟨entry, rfl, hvar.1, hvar.2, validateSub_eq_none.mp hsub⟩

theorem validateScalarContracts_none {od : ObjectDictionary} {contracts : List ODContract}
    {axis : Axis} : (validateScalarContracts od contracts axis).2 = none ↔
      ∀ contract ∈ contracts, contract.Met od axis.logicalDevice := by
  induction contracts generalizing axis with
  | nil => simp [validateScalarContracts]
  | cons contract contracts ih =>
      rw [validateScalarContracts, BindStage.next_none, validateOneScalar_none, ih,
        (validateOneScalar_cacheOnly od contract).logicalDevice, List.forall_mem_cons]

theorem validateHomingSpeedsSubs_none {entry : ODEntry} {logicalDevice : LogicalDevice}
    {index : Nat} {subs : List Nat} :
    validateHomingSpeedsSubs entry logicalDevice index subs = none ↔
      ∀ sub ∈ subs, SubMet (entry.sub sub) (homingSpeedsSub sub).1 (homingSpeedsSub sub).2 := by
  induction subs with
  | nil => simp [validateHomingSpeedsSubs]
  | cons sub subs ih =>
      rw [validateHomingSpeedsSubs, List.forall_mem_cons, ← validateSub_eq_none]
      cases validateSub (entry.sub sub) (homingSpeedsSub sub).1 (homingSpeedsSub sub).2 with
      | none => simp [ih]
      | some error => simp

theorem validateHomingSpeeds_none {od : ObjectDictionary} {axis : Axis} :
    (validateHomingSpeeds od axis).2 = none ↔ HomingSpeedsMet od axis.logicalDevice := by
  unfold validateHomingSpeeds HomingSpeedsMet
  dsimp only
  cases hfind : odFind od (profileIndex axis.logicalDevice 0x6099) with
  | none => simp
  | some entry =>
      dsimp only
      split_ifs with htype
      · simp only [false_iff]
        rintro ⟨found, hfound, hrec, hcount, -⟩
        obtain rfl := Option.some.inj hfound
        simp [hrec, hcount] at htype
      · have hrec : entry.odObjectType &&& odObjectTypeMask = odObjectTypeRec ∧
            entry.subEntriesCount = 3 := by simpa using htype
        have hsubs := @validateHomingSpeedsSubs_none entry axis.logicalDevice
          (profileIndex axis.logicalDevice 0x6099) [0, 1, 2]
        cases hcheck : validateHomingSpeedsSubs entry axis.logicalDevice
            (profileIndex axis.logicalDevice 0x6099) [0, 1, 2] with
        | some diag =>
            simp only [reduceCtorEq, false_iff]
            rintro ⟨found, hfound, -, -, hzero, hone, htwo⟩
            obtain rfl := Option.some.inj hfound
            refine absurd (hcheck.symm.trans (hsubs.mpr ?_)) nofun
            simp only [List.forall_mem_cons]
            exact ⟨hzero, hone, htwo, nofun⟩
        | none =>
            simp only [true_iff]
            have hmet := hsubs.mp hcheck
            simp only [List.forall_mem_cons] at hmet
            obtain ⟨hzero, hone, htwo, -⟩ := hmet
            exact ⟨entry, rfl, hrec.1, hrec.2, hzero, hone, htwo⟩

theorem whenSupported_none {mode : BitVec 32} {stage : BindStage} {axis : Axis} :
    (whenSupported mode stage axis).2 = none ↔
      (axis.supportedModes &&& mode ≠ 0 → (stage axis).2 = none) := by
  unfold whenSupported
  split_ifs with hsupported
  · exact ⟨fun h _ => h, fun h => h hsupported⟩
  · exact ⟨fun _ hbad => absurd hbad hsupported, fun _ => rfl⟩

theorem forall_mem_whenSupported {supported : Prop} [Decidable supported]
    {contracts : List ODContract} {P : ODContract → Prop} :
    (∀ contract ∈ (if supported then contracts else []), P contract) ↔
      (supported → ∀ contract ∈ contracts, P contract) := by
  split_ifs with hsupported
  · simp [hsupported]
  · simp [hsupported]

theorem validateModeObjects_none {od : ObjectDictionary} {axis : Axis} :
    (validateModeObjects od axis).2 = none ↔
      (∀ contract ∈ advertisedContracts axis.supportedModes,
        contract.Met od axis.logicalDevice) ∧
      (axis.supportedModes &&& supportedModeHM ≠ 0 → HomingSpeedsMet od axis.logicalDevice) := by
  have hscalar := validateScalarContracts_cacheOnly od
  have hpp := whenSupported_cacheOnly supportedModePP (hscalar ppContracts)
  have hpv := whenSupported_cacheOnly supportedModePV (hscalar pvContracts)
  have hhm := whenSupported_cacheOnly supportedModeHM
    ((hscalar hmContracts).next (validateHomingSpeeds_cacheOnly od))
  unfold validateModeObjects advertisedContracts
  simp only [BindStage.next_none, whenSupported_none, validateScalarContracts_none,
    validateHomingSpeeds_none, List.forall_mem_append, forall_mem_whenSupported,
    hpp.logicalDevice, hpp.supportedModes, hpv.logicalDevice, hpv.supportedModes,
    hhm.logicalDevice, hhm.supportedModes, (hscalar hmContracts).logicalDevice]
  constructor
  · rintro ⟨hpp, hpv, hhm, hcst⟩
    exact ⟨⟨⟨⟨hpp, hpv⟩, fun hsome => (hhm hsome).1⟩, hcst⟩, fun hsome => (hhm hsome).2⟩
  · rintro ⟨⟨⟨⟨hpp, hpv⟩, hscalars⟩, hcst⟩, hspeeds⟩
    exact ⟨hpp, hpv, fun hsome => ⟨hscalars hsome, hspeeds hsome⟩, hcst⟩

/-! ## The cached entries -/

/-- Each cached entry is the axis's own copy of the object of its slot. -/
def Axis.CacheSound (axis : Axis) : Prop :=
  ∀ slot index, axis.od slot = some index →
    index = profileIndex axis.logicalDevice slot.axis0Index

def BindStage.KeepsSound (stage : BindStage) : Prop :=
  ∀ axis, axis.CacheSound → (stage axis).1.CacheSound

theorem BindStage.KeepsSound.next {first second : BindStage} (h₁ : first.KeepsSound)
    (h₂ : second.KeepsSound) : (first.next second).KeepsSound := by
  intro axis hsound
  have hfirst := h₁ axis hsound
  unfold BindStage.next
  split
  · rename_i axis' heq
    rw [heq] at hfirst
    exact h₂ axis' hfirst
  · rename_i axis' diag heq
    rw [heq] at hfirst
    exact hfirst

theorem cacheEntry_sound {axis : Axis} (h : axis.CacheSound) {cached : ObjectSlot} {index : Nat}
    (hindex : index = profileIndex axis.logicalDevice cached.axis0Index) :
    (cacheEntry cached index axis).CacheSound := by
  intro slot found hfound
  by_cases hsame : slot = cached
  · subst hsame
    simp only [cacheEntry, Function.update_self] at hfound
    rw [← Option.some.inj hfound]
    exact hindex
  · simp only [cacheEntry, Function.update_of_ne hsame] at hfound
    exact h slot found hfound

/-- The row of a contract table names the object of its slot. -/
def ODContract.Named (contract : ODContract) : Prop :=
  contract.axis0Index = contract.cache.axis0Index

theorem validateScalarContracts_sound (od : ObjectDictionary) {contracts : List ODContract}
    (hnamed : ∀ contract ∈ contracts, contract.Named) :
    (validateScalarContracts od contracts).KeepsSound := by
  induction contracts with
  | nil => exact fun axis hsound => hsound
  | cons contract contracts ih =>
      obtain ⟨hfirst, hrest⟩ := List.forall_mem_cons.mp hnamed
      refine BindStage.KeepsSound.next ?_ (ih hrest)
      intro axis hsound
      unfold validateOneScalar
      dsimp only
      split
      · exact hsound
      · split_ifs
        · exact hsound
        · split
          · exact hsound
          · exact cacheEntry_sound hsound (by rw [hfirst])

theorem validateHomingSpeeds_sound (od : ObjectDictionary) :
    (validateHomingSpeeds od).KeepsSound := by
  intro axis hsound
  unfold validateHomingSpeeds
  dsimp only
  split
  · exact hsound
  · split_ifs
    · exact hsound
    · split
      · exact hsound
      · exact cacheEntry_sound hsound rfl

theorem whenSupported_sound (mode : BitVec 32) {stage : BindStage} (h : stage.KeepsSound) :
    (whenSupported mode stage).KeepsSound := by
  intro axis hsound
  unfold whenSupported
  split_ifs
  · exact h axis hsound
  · exact hsound

theorem validateModeObjects_sound (od : ObjectDictionary) :
    (validateModeObjects od).KeepsSound := by
  have hpp := @validateScalarContracts_sound od ppContracts (by
    simp [ppContracts, ODContract.Named, ObjectSlot.axis0Index])
  have hpv := @validateScalarContracts_sound od pvContracts (by
    simp [pvContracts, ODContract.Named, ObjectSlot.axis0Index])
  have hhm := @validateScalarContracts_sound od hmContracts (by
    simp [hmContracts, ODContract.Named, ObjectSlot.axis0Index])
  have hcst := @validateScalarContracts_sound od cstContracts (by
    simp [cstContracts, ODContract.Named, ObjectSlot.axis0Index])
  exact (whenSupported_sound _ hpp).next ((whenSupported_sound _ hpv).next
    ((whenSupported_sound _ (hhm.next (validateHomingSpeeds_sound od))).next
      (whenSupported_sound _ hcst)))

theorem validateBase_sound (od : ObjectDictionary) :
    (validateScalarContracts od baseContracts).KeepsSound :=
  validateScalarContracts_sound od (by
    simp [baseContracts, ODContract.Named, ObjectSlot.axis0Index])

theorem validateExtensionOwnership_axis (od : ObjectDictionary) (axis : Axis) :
    (validateExtensionOwnership od axis).1 = axis := by
  unfold validateExtensionOwnership
  dsimp only
  split_ifs <;> rfl

theorem slotFree_iff {od : ObjectDictionary} {axis : Axis} {slot : ObjectSlot} {index : Nat}
    {owner : ExtensionOwner} (h : axis.od slot = some index) :
    SlotFree od index owner ↔
      ¬ (cachedExtension od axis slot ≠ none ∧ cachedExtension od axis slot ≠ some owner) := by
  have hcached : cachedExtension od axis slot = (odFind od index).bind ODEntry.extension := by
    unfold cachedExtension
    rw [h]
    rfl
  rw [hcached, not_and_or, not_not, not_not]
  unfold SlotFree
  cases odFind od index with
  | none => simp
  | some entry => simp

theorem validateExtensionOwnership_none {od : ObjectDictionary} {axis : Axis}
    (hcontrolword : axis.od .controlword = some (profileIndex axis.logicalDevice 0x6040))
    (hmode : axis.od .modesOfOperation = some (profileIndex axis.logicalDevice 0x6060)) :
    (validateExtensionOwnership od axis).2 = none ↔
      SlotFree od (profileIndex axis.logicalDevice 0x6040) (.controlword axis.logicalDevice) ∧
      SlotFree od (profileIndex axis.logicalDevice 0x6060) (.mode axis.logicalDevice) := by
  rw [slotFree_iff hcontrolword, slotFree_iff hmode]
  unfold validateExtensionOwnership
  dsimp only
  split_ifs with hfirst hsecond
  · simp [hfirst]
  · simp [hsecond]
  · exact ⟨fun _ => ⟨hfirst, hsecond⟩, fun _ => rfl⟩

/-- Base objects, mode objects and ownership, one after the other. -/
theorem validateAxis_eq (od : ObjectDictionary) (axis : Axis) :
    validateAxis od axis =
      (BindStage.next (validateScalarContracts od baseContracts)
        (BindStage.next (validateModeObjects od) (validateExtensionOwnership od)))
          (clearODCache axis) := rfl

theorem validateAxis_sound (od : ObjectDictionary) (axis : Axis) :
    (validateAxis od axis).1.CacheSound := by
  have hownership : (validateExtensionOwnership od).KeepsSound := by
    intro axis hsound
    rw [validateExtensionOwnership_axis]
    exact hsound
  have hcleared : (clearODCache axis).CacheSound := nofun
  exact ((validateBase_sound od).next ((validateModeObjects_sound od).next hownership)) _ hcleared

/-- Validation accepts an axis exactly if the dictionary has what it needs. -/
theorem validateAxis_none {od : ObjectDictionary} {axis : Axis} :
    (validateAxis od axis).2 = none ↔ axis.Bindable od := by
  have hbaseOnly := validateScalarContracts_cacheOnly od baseContracts
  have hmodesOnly := validateModeObjects_cacheOnly od
  generalize hbase : (validateScalarContracts od baseContracts (clearODCache axis)) = base
  have hdevice : base.1.logicalDevice = axis.logicalDevice := by
    rw [← hbase]
    exact hbaseOnly.logicalDevice _
  have hsupported : base.1.supportedModes = axis.supportedModes := by
    rw [← hbase]
    exact hbaseOnly.supportedModes _
  have hchecks : (validateAxis od axis).2 = none ↔ base.2 = none ∧
      (validateModeObjects od base.1).2 = none ∧
      (validateExtensionOwnership od (validateModeObjects od base.1).1).2 = none := by
    rw [validateAxis_eq, BindStage.next_none, BindStage.next_none, hbase]
  have hfirst : base.2 = none ↔ ∀ contract ∈ baseContracts, contract.Met od axis.logicalDevice := by
    rw [← hbase]
    exact validateScalarContracts_none
  have hsecond := @validateModeObjects_none od base.1
  rw [hdevice, hsupported] at hsecond
  -- Once the base objects are accepted, the two slots that carry extensions are cached.
  have hthird : base.2 = none →
      ((validateExtensionOwnership od (validateModeObjects od base.1).1).2 = none ↔
        SlotFree od (profileIndex axis.logicalDevice 0x6040) (.controlword axis.logicalDevice) ∧
        SlotFree od (profileIndex axis.logicalDevice 0x6060) (.mode axis.logicalDevice)) := by
    intro haccepted
    have hsound : (validateModeObjects od base.1).1.CacheSound := by
      rw [← hbase]
      exact validateModeObjects_sound od _ (validateBase_sound od _ nofun)
    have hdevice' : (validateModeObjects od base.1).1.logicalDevice = axis.logicalDevice :=
      (hmodesOnly.logicalDevice _).trans hdevice
    have hcached : ∀ contract ∈ baseContracts, (validateModeObjects od base.1).1.od
        contract.cache = some (profileIndex axis.logicalDevice contract.cache.axis0Index) := by
      intro contract hcontract
      have hsome : base.1.od contract.cache ≠ none := by
        rw [← hbase] at haccepted ⊢
        exact validateScalarContracts_caches haccepted contract hcontract
      obtain ⟨index, hindex⟩ :=
        Option.ne_none_iff_exists'.mp (validateModeObjects_keeps od _ _ hsome)
      rw [hindex, hsound _ index hindex, hdevice']
    have hcontrolword := hcached
      ⟨0x6040, 2, odaSdoRW ||| odaRpdo ||| odaMb, .controlword⟩ (by simp [baseContracts])
    have hmode := hcached
      ⟨0x6060, 1, odaSdoRW ||| odaRpdo, .modesOfOperation⟩ (by simp [baseContracts])
    rw [← hdevice'] at hcontrolword hmode ⊢
    exact validateExtensionOwnership_none hcontrolword hmode
  rw [hchecks]
  constructor
  · rintro ⟨hone, htwo, hslots⟩
    obtain ⟨hmodes, hspeeds⟩ := hsecond.mp htwo
    obtain ⟨hcontrolword, hmode⟩ := (hthird hone).mp hslots
    exact ⟨hfirst.mp hone, hmodes, hspeeds, hcontrolword, hmode⟩
  · rintro ⟨hone, hmodes, hspeeds, hcontrolword, hmode⟩
    have haccepted := hfirst.mpr hone
    exact ⟨haccepted, hsecond.mpr ⟨hmodes, hspeeds⟩, (hthird haccepted).mpr ⟨hcontrolword, hmode⟩⟩

/-! ## What an accepted axis has cached -/

/-- An accepted axis has the entries of these slots cached. -/
def BindStage.Caches (stage : BindStage) (slots : BitVec 32 → List ObjectSlot) : Prop :=
  ∀ axis, (stage axis).2 = none →
    ∀ slot ∈ slots axis.supportedModes, (stage axis).1.od slot ≠ none

theorem BindStage.Caches.next {first second : BindStage}
    {slots others : BitVec 32 → List ObjectSlot}
    (h₁ : first.Caches slots) (h₂ : second.Caches others) (honly : first.CacheOnly)
    (hkeeps : second.Keeps) :
    (first.next second).Caches fun modes => slots modes ++ others modes := by
  intro axis haccepted slot hslot
  obtain ⟨hfirst, hnext⟩ := BindStage.next_accepted haccepted
  rw [hnext] at haccepted ⊢
  rcases List.mem_append.mp hslot with hslot | hslot
  · exact hkeeps _ slot (h₁ axis hfirst slot hslot)
  · refine h₂ _ haccepted slot ?_
    rw [honly.supportedModes]
    exact hslot

theorem validateScalarContracts_slots (od : ObjectDictionary) (contracts : List ODContract) :
    (validateScalarContracts od contracts).Caches fun _ => contracts.map ODContract.cache := by
  intro axis haccepted slot hslot
  obtain ⟨contract, hcontract, rfl⟩ := List.mem_map.mp hslot
  exact validateScalarContracts_caches haccepted contract hcontract

theorem validateHomingSpeeds_slots (od : ObjectDictionary) :
    (validateHomingSpeeds od).Caches fun _ => [.homingSpeeds] := by
  intro axis haccepted slot hslot
  obtain rfl := List.mem_singleton.mp hslot
  unfold validateHomingSpeeds at haccepted ⊢
  dsimp only at haccepted ⊢
  split at haccepted
  · cases haccepted
  · split_ifs at haccepted ⊢
    split at haccepted
    · cases haccepted
    · simp [cacheEntry]

theorem whenSupported_slots (mode : BitVec 32) {stage : BindStage}
    {slots : BitVec 32 → List ObjectSlot} (h : stage.Caches slots) :
    (whenSupported mode stage).Caches fun modes =>
      if modes &&& mode ≠ 0 then slots modes else [] := by
  intro axis haccepted slot hslot
  unfold whenSupported at haccepted ⊢
  dsimp only at hslot
  by_cases hsupported : axis.supportedModes &&& mode ≠ 0
  · rw [if_pos hsupported] at haccepted hslot ⊢
    exact h axis haccepted slot hslot
  · rw [if_neg hsupported] at hslot
    cases hslot

/-- The slots whose objects the advertised modes require. -/
def modeSlots (supportedModes : BitVec 32) : List ObjectSlot :=
  (if supportedModes &&& supportedModePP ≠ 0 then ppContracts.map ODContract.cache else []) ++
    ((if supportedModes &&& supportedModePV ≠ 0 then pvContracts.map ODContract.cache else []) ++
      ((if supportedModes &&& supportedModeHM ≠ 0 then
          hmContracts.map ODContract.cache ++ [.homingSpeeds] else []) ++
        (if supportedModes &&& supportedModeCST ≠ 0 then cstContracts.map ODContract.cache
          else [])))

/-- The slots that a bound axis has cached. -/
def boundSlots (supportedModes : BitVec 32) : List ObjectSlot :=
  baseContracts.map ODContract.cache ++ modeSlots supportedModes

theorem validateModeObjects_slots (od : ObjectDictionary) :
    (validateModeObjects od).Caches modeSlots := by
  have honly := validateScalarContracts_cacheOnly od
  have hkeeps := validateScalarContracts_keeps od
  have hslots := validateScalarContracts_slots od
  have hhm : ((validateScalarContracts od hmContracts).next (validateHomingSpeeds od)).Caches
      fun _ => hmContracts.map ODContract.cache ++ [.homingSpeeds] :=
    (hslots hmContracts).next (validateHomingSpeeds_slots od) (honly hmContracts)
      (validateHomingSpeeds_keeps od)
  have hhmKeeps : ((validateScalarContracts od hmContracts).next
      (validateHomingSpeeds od)).Keeps :=
    (hkeeps hmContracts).next (validateHomingSpeeds_keeps od)
  have hcstKeeps := whenSupported_keeps supportedModeCST (hkeeps cstContracts)
  exact (whenSupported_slots supportedModePP (hslots ppContracts)).next
    ((whenSupported_slots supportedModePV (hslots pvContracts)).next
      ((whenSupported_slots supportedModeHM hhm).next
        (whenSupported_slots supportedModeCST (hslots cstContracts))
        (whenSupported_cacheOnly _ ((honly hmContracts).next (validateHomingSpeeds_cacheOnly od)))
        hcstKeeps)
      (whenSupported_cacheOnly _ (honly pvContracts))
      ((whenSupported_keeps _ hhmKeeps).next hcstKeeps))
    (whenSupported_cacheOnly _ (honly ppContracts))
    ((whenSupported_keeps _ (hkeeps pvContracts)).next
      ((whenSupported_keeps _ hhmKeeps).next hcstKeeps))

/-- Every required entry is cached, and the dictionary has it. -/
def Axis.FullyBound (od : ObjectDictionary) (axis : Axis) : Prop :=
  ∀ slot ∈ boundSlots axis.supportedModes,
    axis.od slot = some (profileIndex axis.logicalDevice slot.axis0Index) ∧
      (odFind od (profileIndex axis.logicalDevice slot.axis0Index)).isSome = true

theorem Axis.FullyBound.congr {od : ObjectDictionary} {axis after : Axis} (h : axis.FullyBound od)
    (hod : after.od = axis.od) (hdevice : after.logicalDevice = axis.logicalDevice)
    (hmodes : after.supportedModes = axis.supportedModes) : after.FullyBound od := by
  unfold Axis.FullyBound
  rw [hod, hdevice, hmodes]
  exact h

/-- The contract of a bindable axis names an entry for each of its slots. -/
theorem Axis.Bindable.found {od : ObjectDictionary} {axis : Axis} (h : axis.Bindable od)
    {slot : ObjectSlot} (hslot : slot ∈ boundSlots axis.supportedModes) :
    (odFind od (profileIndex axis.logicalDevice slot.axis0Index)).isSome = true := by
  have hmet : ∀ {contracts : List ODContract}, (∀ contract ∈ contracts, contract.Named) →
      (∀ contract ∈ contracts, contract.Met od axis.logicalDevice) →
        slot ∈ contracts.map ODContract.cache →
          (odFind od (profileIndex axis.logicalDevice slot.axis0Index)).isSome = true := by
    intro contracts hnamed hmet hmem
    obtain ⟨contract, hcontract, rfl⟩ := List.mem_map.mp hmem
    obtain ⟨entry, hfound, -⟩ := hmet contract hcontract
    rw [hnamed contract hcontract] at hfound
    rw [hfound]
    rfl
  have hmodes := h.modes
  unfold advertisedContracts at hmodes
  simp only [List.forall_mem_append, forall_mem_whenSupported] at hmodes
  obtain ⟨⟨⟨hpp, hpv⟩, hhm⟩, hcst⟩ := hmodes
  unfold boundSlots modeSlots at hslot
  simp only [List.mem_append] at hslot
  rcases hslot with hbase | hslot | hslot | hslot | hslot
  · exact hmet (by simp [baseContracts, ODContract.Named, ObjectSlot.axis0Index]) h.base hbase
  · split_ifs at hslot with hsupported
    · exact hmet (by simp [ppContracts, ODContract.Named, ObjectSlot.axis0Index])
        (hpp hsupported) hslot
    · cases hslot
  · split_ifs at hslot with hsupported
    · exact hmet (by simp [pvContracts, ODContract.Named, ObjectSlot.axis0Index])
        (hpv hsupported) hslot
    · cases hslot
  · split_ifs at hslot with hsupported
    · rcases List.mem_append.mp hslot with hslot | hslot
      · exact hmet (by simp [hmContracts, ODContract.Named, ObjectSlot.axis0Index])
          (hhm hsupported) hslot
      · obtain rfl := List.mem_singleton.mp hslot
        obtain ⟨entry, hfound, -⟩ := h.homingSpeeds hsupported
        have hindex : ObjectSlot.homingSpeeds.axis0Index = 0x6099 := rfl
        rw [hindex, hfound]
        rfl
    · cases hslot
  · split_ifs at hslot with hsupported
    · exact hmet (by simp [cstContracts, ODContract.Named, ObjectSlot.axis0Index])
        (hcst hsupported) hslot
    · cases hslot

theorem fullyBound_validateAxis {od : ObjectDictionary} {axis : Axis}
    (h : (validateAxis od axis).2 = none) : (validateAxis od axis).1.FullyBound od := by
  have honly := validateAxis_cacheOnly od
  have hdevice := honly.logicalDevice axis
  have hmodes := honly.supportedModes axis
  have hbase := validateScalarContracts_slots od baseContracts
  have hownership : (validateExtensionOwnership od).Caches fun _ => [] := fun _ _ _ => nofun
  have hslots := hbase.next
    ((validateModeObjects_slots od).next hownership (validateModeObjects_cacheOnly od)
      (validateExtensionOwnership_keeps od)) (validateScalarContracts_cacheOnly od baseContracts)
    ((validateModeObjects_keeps od).next (validateExtensionOwnership_keeps od))
  intro slot hslot
  rw [hmodes] at hslot
  have hcached : (validateAxis od axis).1.od slot ≠ none := by
    refine hslots (clearODCache axis) h slot ?_
    dsimp only
    rw [List.append_nil]
    exact hslot
  obtain ⟨index, hindex⟩ := Option.ne_none_iff_exists'.mp hcached
  have hsound := validateAxis_sound od axis slot index hindex
  rw [hindex, hsound]
  refine ⟨rfl, ?_⟩
  rw [hdevice]
  exact (validateAxis_none.mp h).found hslot

/-! ## The whole binding -/

theorem forEachAxis_none {stage : BindStage} {axes : List Axis} :
    (forEachAxis stage axes).2 = none ↔ ∀ axis ∈ axes, (stage axis).2 = none := by
  constructor
  · exact fun h => (forEachAxis_accepted h).2
  · intro h
    induction axes with
    | nil => rfl
    | cons first rest ih =>
        obtain ⟨hfirst, hrest⟩ := List.forall_mem_cons.mp h
        unfold forEachAxis
        split
        · rename_i axis diag heq
          rw [heq] at hfirst
          cases hfirst
        · exact ih hrest

/-- The stage reports failures only as errors. -/
def BindStage.Reports (stage : BindStage) : Prop :=
  ∀ axis diag, (stage axis).2 = some diag → diag.error ≠ .ok

theorem BindStage.Reports.next {first second : BindStage} (h₁ : first.Reports)
    (h₂ : second.Reports) : (first.next second).Reports := by
  intro axis diag hdiag
  unfold BindStage.next at hdiag
  split at hdiag
  · exact h₂ _ diag hdiag
  · rename_i axis' other heq
    obtain rfl := Option.some.inj hdiag
    exact h₁ axis other (by rw [heq])

theorem validateSub_reports {sub : Option ODSub} {length : Nat} {expectedAttributes : BitVec 8}
    {error : InitError} (h : validateSub sub length expectedAttributes = some error) :
    error ≠ .ok := by
  unfold validateSub at h
  split at h
  · rw [← Option.some.inj h]
    decide
  · split_ifs at h
    · rw [← Option.some.inj h]
      decide
    · rw [← Option.some.inj h]
      decide
    · rw [← Option.some.inj h]
      decide

theorem validateScalarContracts_reports (od : ObjectDictionary) (contracts : List ODContract) :
    (validateScalarContracts od contracts).Reports := by
  induction contracts with
  | nil => exact fun _ _ => nofun
  | cons contract contracts ih =>
      refine BindStage.Reports.next ?_ ih
      intro axis diag hdiag
      unfold validateOneScalar at hdiag
      dsimp only at hdiag
      split at hdiag
      · rw [← Option.some.inj hdiag]
        exact nofun
      · split_ifs at hdiag
        · rw [← Option.some.inj hdiag]
          exact nofun
        · split at hdiag
          · rename_i error herror
            rw [← Option.some.inj hdiag]
            exact validateSub_reports herror
          · cases hdiag

theorem validateHomingSpeedsSubs_reports {entry : ODEntry} {logicalDevice : LogicalDevice}
    {index : Nat} {subs : List Nat} {diag : InitDiag}
    (h : validateHomingSpeedsSubs entry logicalDevice index subs = some diag) :
    diag.error ≠ .ok := by
  induction subs with
  | nil => cases h
  | cons sub subs ih =>
      rw [validateHomingSpeedsSubs] at h
      split at h
      · rename_i error herror
        rw [← Option.some.inj h]
        exact validateSub_reports herror
      · exact ih h

theorem validateHomingSpeeds_reports (od : ObjectDictionary) :
    (validateHomingSpeeds od).Reports := by
  intro axis diag hdiag
  unfold validateHomingSpeeds at hdiag
  dsimp only at hdiag
  split at hdiag
  · rw [← Option.some.inj hdiag]
    exact nofun
  · split_ifs at hdiag
    · rw [← Option.some.inj hdiag]
      exact nofun
    · split at hdiag
      · rename_i other hother
        obtain rfl := Option.some.inj hdiag
        exact validateHomingSpeedsSubs_reports hother
      · cases hdiag

theorem whenSupported_reports (mode : BitVec 32) {stage : BindStage} (h : stage.Reports) :
    (whenSupported mode stage).Reports := by
  intro axis diag hdiag
  unfold whenSupported at hdiag
  split_ifs at hdiag
  exact h axis diag hdiag

theorem validateAxis_reports (od : ObjectDictionary) : (validateAxis od).Reports := by
  have hscalar := validateScalarContracts_reports od
  have hownership : (validateExtensionOwnership od).Reports := by
    intro axis diag hdiag
    unfold validateExtensionOwnership at hdiag
    dsimp only at hdiag
    split_ifs at hdiag
    · rw [← Option.some.inj hdiag]
      exact nofun
    · rw [← Option.some.inj hdiag]
      exact nofun
  have hmodes : (validateModeObjects od).Reports :=
    (whenSupported_reports _ (hscalar ppContracts)).next
      ((whenSupported_reports _ (hscalar pvContracts)).next
        ((whenSupported_reports _
            ((hscalar hmContracts).next (validateHomingSpeeds_reports od))).next
          (whenSupported_reports _ (hscalar cstContracts))))
  intro axis diag hdiag
  exact ((hscalar baseContracts).next (hmodes.next hownership)) (clearODCache axis) diag hdiag

/-- The writes that the binding makes before it publishes anything succeed. -/
def PublishOk (writes : LogicalDevice → BindWrites) (axis : Axis) : Prop :=
  (writes axis.logicalDevice).supportedDriveModes = true ∧
    (writes axis.logicalDevice).errorCode = true

theorem publishAxis_none {writes : LogicalDevice → BindWrites} {axis : Axis}
    (hmodes : axis.od .supportedDriveModes ≠ none) (hcode : axis.od .errorCode ≠ none) :
    (publishAxis writes axis).2 = none ↔ PublishOk writes axis := by
  have hmodes' : (axis.od .supportedDriveModes).isNone = false :=
    Option.isNone_eq_false_iff.mpr (Option.isSome_iff_ne_none.mpr hmodes)
  have hcode' : (axis.od .errorCode).isNone = false :=
    Option.isNone_eq_false_iff.mpr (Option.isSome_iff_ne_none.mpr hcode)
  unfold publishAxis restoreAxis PublishOk
  dsimp only
  rw [hmodes', hcode']
  cases (writes axis.logicalDevice).supportedDriveModes with
  | false => simp
  | true =>
      cases (writes axis.logicalDevice).errorCode with
      | false => simp
      | true =>
          simp only [Bool.not_true, Bool.or_false, Bool.false_eq_true, if_false, and_self,
            iff_true]
          split_ifs <;> rfl

theorem publishAxis_reports (writes : LogicalDevice → BindWrites) :
    (publishAxis writes).Reports := by
  intro axis diag hdiag
  unfold publishAxis at hdiag
  dsimp only at hdiag
  split_ifs at hdiag
  · rw [← Option.some.inj hdiag]
    exact nofun
  · split at hdiag
    · cases hdiag
    · rw [← Option.some.inj hdiag]
      exact nofun

theorem forEachAxis_reports {stage : BindStage} (h : stage.Reports) {axes : List Axis}
    {diag : InitDiag} (hdiag : (forEachAxis stage axes).2 = some diag) : diag.error ≠ .ok := by
  induction axes with
  | nil => cases hdiag
  | cons first rest ih =>
      unfold forEachAxis at hdiag
      split at hdiag
      · rename_i axis other heq
        obtain rfl := Option.some.inj hdiag
        exact h first other (by rw [heq])
      · exact ih hdiag

theorem logicalDevice_publishAxis (writes : LogicalDevice → BindWrites) (axis : Axis) :
    (publishAxis writes axis).1.logicalDevice = axis.logicalDevice := by
  unfold publishAxis restoreAxis
  dsimp only
  split_ifs <;> rfl

theorem Axis.Bound.slot {axis : Axis} (h : axis.Bound) {slot : ObjectSlot}
    (hslot : slot ∈ baseContracts.map ODContract.cache) : axis.od slot ≠ none := by
  obtain ⟨contract, hcontract, rfl⟩ := List.mem_map.mp hslot
  exact h contract hcontract

theorem publishAxis_validateAxis_none {od : ObjectDictionary}
    {writes : LogicalDevice → BindWrites} {axis : Axis} (h : (validateAxis od axis).2 = none) :
    (publishAxis writes (validateAxis od axis).1).2 = none ↔ PublishOk writes axis := by
  have hbound := validateAxis_bound h
  rw [publishAxis_none (hbound.slot (by decide)) (hbound.slot (by decide))]
  unfold PublishOk
  rw [logicalDevice_validateAxis]

/-- The three ways a call with axes ends. -/
theorem bindOD_cases (writes : LogicalDevice → BindWrites) {manager : Manager}
    (haxes : manager.axes ≠ []) :
    (¬ (∀ axis ∈ manager.axes, axis.Bindable manager.od) ∧
      ∃ axes diag, diag.error ≠ .ok ∧
        bindOD writes manager = ({ manager with odBound := false, axes := axes }, diag)) ∨
    ((∀ axis ∈ manager.axes, axis.Bindable manager.od) ∧
      ¬ (∀ axis ∈ manager.axes, PublishOk writes axis) ∧
      ∃ axes diag, diag.error ≠ .ok ∧
        bindOD writes manager = ({ manager with odBound := false, axes := axes }, diag)) ∨
    ((∀ axis ∈ manager.axes, axis.Bindable manager.od) ∧
      (∀ axis ∈ manager.axes, PublishOk writes axis) ∧
      ∃ axes, axes = manager.axes.map (fun axis =>
          (publishAxis writes (validateAxis manager.od axis).1).1) ∧
        bindOD writes manager =
          ({ manager with
              odBound := true
              axes := axes
              od := axes.foldl installForwardingExtensions manager.od }, {})) := by
  have hvalidate : (forEachAxis (validateAxis manager.od) manager.axes).2 = none ↔
      ∀ axis ∈ manager.axes, axis.Bindable manager.od := by
    simp only [forEachAxis_none, validateAxis_none]
  unfold bindOD
  rw [if_neg haxes]
  cases hfirst : forEachAxis (validateAxis manager.od) manager.axes with
  | mk validated failure =>
    rw [hfirst] at hvalidate
    cases failure with
    | some diag =>
        refine .inl ⟨fun hall => absurd (hvalidate.mpr hall) nofun, validated, diag, ?_, rfl⟩
        exact forEachAxis_reports (validateAxis_reports manager.od) (congrArg Prod.snd hfirst)
    | none =>
        have hall := hvalidate.mp rfl
        obtain ⟨hvalidated, haccepted⟩ := forEachAxis_accepted (congrArg Prod.snd hfirst)
        rw [hfirst] at hvalidated
        dsimp only at hvalidated ⊢
        subst hvalidated
        have hpublish : (forEachAxis (publishAxis writes)
            (manager.axes.map fun axis => (validateAxis manager.od axis).1)).2 = none ↔
              ∀ axis ∈ manager.axes, PublishOk writes axis := by
          rw [forEachAxis_none, List.forall_mem_map]
          exact forall₂_congr fun axis hmem =>
            publishAxis_validateAxis_none (haccepted axis hmem)
        cases hsecond : forEachAxis (publishAxis writes)
            (manager.axes.map fun axis => (validateAxis manager.od axis).1) with
        | mk published failure =>
          rw [hsecond] at hpublish
          cases failure with
          | some diag =>
              refine .inr (.inl ⟨hall, fun hok => absurd (hpublish.mpr hok) nofun,
                published, diag, ?_, rfl⟩)
              exact forEachAxis_reports (publishAxis_reports writes) (congrArg Prod.snd hsecond)
          | none =>
              obtain ⟨hpublished, -⟩ := forEachAxis_accepted (congrArg Prod.snd hsecond)
              rw [hsecond, List.map_map] at hpublished
              exact .inr (.inr ⟨hall, hpublish.mp rfl, published, hpublished, rfl⟩)

/-- The call reports success exactly for a manager that meets the contract. -/
theorem bindOD_ok_iff {writes : LogicalDevice → BindWrites} {manager : Manager} :
    (bindOD writes manager).2.error = .ok ↔
      manager.axes ≠ [] ∧ (∀ axis ∈ manager.axes, axis.Bindable manager.od) ∧
        ∀ axis ∈ manager.axes, PublishOk writes axis := by
  by_cases haxes : manager.axes = []
  · unfold bindOD
    rw [if_pos haxes]
    exact ⟨nofun, fun h => absurd haxes h.1⟩
  · obtain ⟨hbad, axes, diag, hdiag, heq⟩ | ⟨-, hbad, axes, diag, hdiag, heq⟩ |
      ⟨hall, hok, axes, -, heq⟩ := bindOD_cases writes haxes
    · rw [heq]
      exact ⟨fun h => absurd h hdiag, fun h => absurd h.2.1 hbad⟩
    · rw [heq]
      exact ⟨fun h => absurd h hdiag, fun h => absurd h.2.2 hbad⟩
    · rw [heq]
      exact ⟨fun _ => ⟨haxes, hall, hok⟩, fun _ => rfl⟩

/-- A call that does not succeed installs nothing; unless it has no axis at all, it unbinds. -/
theorem bindOD_failed {writes : LogicalDevice → BindWrites} {manager : Manager}
    (h : (bindOD writes manager).2.error ≠ .ok) :
    (bindOD writes manager).1.od = manager.od ∧
      (manager.axes ≠ [] → (bindOD writes manager).1.odBound = false) := by
  by_cases haxes : manager.axes = []
  · unfold bindOD
    rw [if_pos haxes]
    exact ⟨rfl, fun hsome => absurd haxes hsome⟩
  · obtain ⟨-, axes, diag, -, heq⟩ | ⟨-, -, axes, diag, -, heq⟩ | ⟨-, -, axes, -, heq⟩ :=
      bindOD_cases writes haxes
    · rw [heq]
      exact ⟨rfl, fun _ => rfl⟩
    · rw [heq]
      exact ⟨rfl, fun _ => rfl⟩
    · rw [heq] at h
      exact absurd rfl h

/-! ## The entries stay in the dictionary -/

theorem isSome_odFind_odExtensionInit (od : ObjectDictionary) (index : Nat)
    (owner : ExtensionOwner) (wanted : Nat) :
    (odFind (odExtensionInit od index owner) wanted).isSome = (odFind od wanted).isSome := by
  unfold odFind odExtensionInit
  rw [List.find?_map, Option.isSome_map]
  congr 2
  funext entry
  dsimp only [Function.comp_apply]
  split_ifs <;> rfl

theorem isSome_odFind_install (od : ObjectDictionary) (axis : Axis) (wanted : Nat) :
    (odFind (installForwardingExtensions od axis) wanted).isSome = (odFind od wanted).isSome := by
  unfold installForwardingExtensions
  dsimp only
  split <;> split <;> simp only [isSome_odFind_odExtensionInit]

theorem isSome_odFind_foldl_install (od : ObjectDictionary) (axes : List Axis) (wanted : Nat) :
    (odFind (axes.foldl installForwardingExtensions od) wanted).isSome =
      (odFind od wanted).isSome := by
  induction axes generalizing od with
  | nil => rfl
  | cons axis axes ih => rw [List.foldl_cons, ih, isSome_odFind_install]

theorem Axis.FullyBound.install {od : ObjectDictionary} {axis : Axis} (h : axis.FullyBound od)
    (axes : List Axis) : axis.FullyBound (axes.foldl installForwardingExtensions od) := by
  intro slot hslot
  rw [isSome_odFind_foldl_install]
  exact h slot hslot

/-- After a successful call every axis is bound for all that it advertises. -/
theorem fullyBound_bindOD {writes : LogicalDevice → BindWrites} {manager : Manager}
    (h : (bindOD writes manager).2.error = .ok) :
    (bindOD writes manager).1.odBound = true ∧
      ∀ axis ∈ (bindOD writes manager).1.axes,
        axis.FullyBound (bindOD writes manager).1.od := by
  have haxes := (bindOD_ok_iff.mp h).1
  obtain ⟨-, axes, diag, hdiag, heq⟩ | ⟨-, -, axes, diag, hdiag, heq⟩ |
    ⟨hall, -, axes, haxes, heq⟩ := bindOD_cases writes haxes
  · rw [heq] at h
    exact absurd h hdiag
  · rw [heq] at h
    exact absurd h hdiag
  · rw [heq]
    refine ⟨rfl, fun axis hmem => Axis.FullyBound.install ?_ axes⟩
    rw [haxes] at hmem
    obtain ⟨before, hbefore, rfl⟩ := List.mem_map.mp hmem
    exact (fullyBound_validateAxis (validateAxis_none.mpr (hall before hbefore))).congr
      (od_publishAxis writes _) (logicalDevice_publishAxis writes _)
      (supportedModes_publishAxis writes _)

theorem fullyBound_of_odBound {writes : LogicalDevice → BindWrites} {manager : Manager}
    (h : (bindOD writes manager).1.odBound = true) :
    ∀ axis ∈ (bindOD writes manager).1.axes, axis.FullyBound (bindOD writes manager).1.od := by
  by_cases haxes : manager.axes = []
  · unfold bindOD
    rw [if_pos haxes, haxes]
    exact List.forall_mem_nil _
  · by_cases hok : (bindOD writes manager).2.error = .ok
    · exact (fullyBound_bindOD hok).2
    · rw [(bindOD_failed hok).2 haxes] at h
      cases h

theorem od_processAxis (inputs : PassInputs) (axis : Axis) :
    (processAxis inputs axis).od = axis.od :=
  (congrArg Fixed.od (fixed_processAxis inputs axis)).trans (by
    unfold updateModeRequest
    split <;> rfl)

theorem od_processSyncLocked (inputs : LogicalDevice → SyncInputs) (manager : Manager) :
    (processSyncLocked inputs manager).1.od = manager.od := by
  unfold processSyncLocked
  split_ifs <;> rfl

/-- Every axis of a reachable bound manager is bound for all that it advertises. -/
theorem Reachable.fullyBound {manager : Manager} (h : Reachable manager) :
    manager.odBound = true → ∀ axis ∈ manager.axes, axis.FullyBound manager.od := by
  induction h with
  | init h =>
      intro hbound
      unfold managerInit at h
      split at h
      · cases (Prod.mk.inj h).1
      · dsimp only at h
        have hbind := fullyBound_of_odBound (by
          split_ifs at h <;> obtain ⟨hmanager, -⟩ := Prod.mk.inj h <;>
            (rw [← Option.some.inj hmanager] at hbound; exact hbound))
        split_ifs at h
        · obtain ⟨hmanager, -⟩ := Prod.mk.inj h
          rw [← Option.some.inj hmanager]
          intro axis hmem
          obtain ⟨before, hbefore, rfl⟩ := List.mem_map.mp hmem
          exact (hbind before hbefore).congr rfl rfl rfl
        · obtain ⟨hmanager, -⟩ := Prod.mk.inj h
          rw [← Option.some.inj hmanager]
          exact hbind
  | step _ step ih =>
      rename_i manager _
      cases step with
      | process inputs =>
          simp only [Manager.step, process]
          split_ifs
          · exact ih
          · intro hbound axis hmem
            obtain ⟨before, hbefore, rfl⟩ := List.mem_map.mp hmem
            exact (ih hbound before hbefore).congr (od_processAxis _ before)
              (logicalDevice_processAxis _ before) (supportedModes_processAxis _ before)
      | processSync inputs =>
          by_cases hbound : manager.odBound = true
          · rw [Manager.step, processSyncLocked_axes inputs manager hbound, od_processSyncLocked]
            intro _ axis hmem
            obtain ⟨before, hbefore, rfl⟩ := List.mem_map.mp hmem
            have honly := (syncAxis_only (inputs before.logicalDevice)
              (manager.syncSequence + 1) before).eq
            have hod := congrArg Axis.od honly
            have hdevice := congrArg Axis.logicalDevice honly
            have hmodes := congrArg Axis.supportedModes honly
            exact (ih hbound before hbefore).congr hod hdevice hmodes
          · simp only [Manager.step, processSyncLocked, hbound]
            exact ih
      | bindOD od writes => exact fullyBound_of_odBound
      | communicationReset =>
          intro hbound axis hmem
          obtain ⟨before, hbefore, rfl⟩ := List.mem_map.mp hmem
          exact (ih hbound before hbefore).congr rfl rfl rfl

end CanopenRtt.Cia402.Device
