import CanopenRtt.Cia401.SlotOwnership
/-!
# The contract of a bind

What the dictionary must hold for `CO_401_device_bindOD` to accept it, object by object and
without the order of the checks. The validation accepts exactly this, and fills the candidate
record as it prescribes.
-/

namespace CanopenRtt.Cia401

open CanopenRtt.Profile CanopenRtt.Support

/-! ## The profile objects -/

/-- The objects a Device caches besides its Device type. -/
inductive ProfileObject where
  | digitalInput8
  | digitalInputPolarity8
  | digitalInputFilter8
  | digitalInterruptEnable
  | digitalInterruptAny8
  | digitalInterruptRising8
  | digitalInterruptFalling8
  | digitalOutput8
  | digitalOutputPolarity8
  | digitalOutputErrorMode8
  | digitalOutputErrorValue8
  | digitalOutputFilter8
  | analogInput16
  | analogInterruptEnable
  | analogInterruptTrigger
  | analogInterruptSource
  | analogInterruptUpper32
  | analogInterruptLower32
  | analogInterruptDeltaU32
  | analogInterruptNegDeltaU32
  | analogInterruptPosDeltaU32
  | analogInputSiUnit
  | analogInputOffset32
  | analogInputPrescaling32
  | analogOutput16
  | analogOutputErrorMode
  | analogOutputErrorValue32
  | analogOutputOffset32
  | analogOutputScaling32
  | analogOutputSiUnit
  deriving DecidableEq, Repr

/-- The cached entry of an object. -/
def BoundOd.get (bound : BoundOd) : ProfileObject → Option OdEntry
  | .digitalInput8 => bound.digitalInput8
  | .digitalInputPolarity8 => bound.digitalInputPolarity8
  | .digitalInputFilter8 => bound.digitalInputFilter8
  | .digitalInterruptEnable => bound.digitalInterruptEnable
  | .digitalInterruptAny8 => bound.digitalInterruptAny8
  | .digitalInterruptRising8 => bound.digitalInterruptRising8
  | .digitalInterruptFalling8 => bound.digitalInterruptFalling8
  | .digitalOutput8 => bound.digitalOutput8
  | .digitalOutputPolarity8 => bound.digitalOutputPolarity8
  | .digitalOutputErrorMode8 => bound.digitalOutputErrorMode8
  | .digitalOutputErrorValue8 => bound.digitalOutputErrorValue8
  | .digitalOutputFilter8 => bound.digitalOutputFilter8
  | .analogInput16 => bound.analogInput16
  | .analogInterruptEnable => bound.analogInterruptEnable
  | .analogInterruptTrigger => bound.analogInterruptTrigger
  | .analogInterruptSource => bound.analogInterruptSource
  | .analogInterruptUpper32 => bound.analogInterruptUpper32
  | .analogInterruptLower32 => bound.analogInterruptLower32
  | .analogInterruptDeltaU32 => bound.analogInterruptDeltaU32
  | .analogInterruptNegDeltaU32 => bound.analogInterruptNegDeltaU32
  | .analogInterruptPosDeltaU32 => bound.analogInterruptPosDeltaU32
  | .analogInputSiUnit => bound.analogInputSiUnit
  | .analogInputOffset32 => bound.analogInputOffset32
  | .analogInputPrescaling32 => bound.analogInputPrescaling32
  | .analogOutput16 => bound.analogOutput16
  | .analogOutputErrorMode => bound.analogOutputErrorMode
  | .analogOutputErrorValue32 => bound.analogOutputErrorValue32
  | .analogOutputOffset32 => bound.analogOutputOffset32
  | .analogOutputScaling32 => bound.analogOutputScaling32
  | .analogOutputSiUnit => bound.analogOutputSiUnit

/-- The record with another cached entry. -/
def BoundOd.set (bound : BoundOd) (object : ProfileObject) (entry : Option OdEntry) : BoundOd :=
  match object with
  | .digitalInput8 => { bound with digitalInput8 := entry }
  | .digitalInputPolarity8 => { bound with digitalInputPolarity8 := entry }
  | .digitalInputFilter8 => { bound with digitalInputFilter8 := entry }
  | .digitalInterruptEnable => { bound with digitalInterruptEnable := entry }
  | .digitalInterruptAny8 => { bound with digitalInterruptAny8 := entry }
  | .digitalInterruptRising8 => { bound with digitalInterruptRising8 := entry }
  | .digitalInterruptFalling8 => { bound with digitalInterruptFalling8 := entry }
  | .digitalOutput8 => { bound with digitalOutput8 := entry }
  | .digitalOutputPolarity8 => { bound with digitalOutputPolarity8 := entry }
  | .digitalOutputErrorMode8 => { bound with digitalOutputErrorMode8 := entry }
  | .digitalOutputErrorValue8 => { bound with digitalOutputErrorValue8 := entry }
  | .digitalOutputFilter8 => { bound with digitalOutputFilter8 := entry }
  | .analogInput16 => { bound with analogInput16 := entry }
  | .analogInterruptEnable => { bound with analogInterruptEnable := entry }
  | .analogInterruptTrigger => { bound with analogInterruptTrigger := entry }
  | .analogInterruptSource => { bound with analogInterruptSource := entry }
  | .analogInterruptUpper32 => { bound with analogInterruptUpper32 := entry }
  | .analogInterruptLower32 => { bound with analogInterruptLower32 := entry }
  | .analogInterruptDeltaU32 => { bound with analogInterruptDeltaU32 := entry }
  | .analogInterruptNegDeltaU32 => { bound with analogInterruptNegDeltaU32 := entry }
  | .analogInterruptPosDeltaU32 => { bound with analogInterruptPosDeltaU32 := entry }
  | .analogInputSiUnit => { bound with analogInputSiUnit := entry }
  | .analogInputOffset32 => { bound with analogInputOffset32 := entry }
  | .analogInputPrescaling32 => { bound with analogInputPrescaling32 := entry }
  | .analogOutput16 => { bound with analogOutput16 := entry }
  | .analogOutputErrorMode => { bound with analogOutputErrorMode := entry }
  | .analogOutputErrorValue32 => { bound with analogOutputErrorValue32 := entry }
  | .analogOutputOffset32 => { bound with analogOutputOffset32 := entry }
  | .analogOutputScaling32 => { bound with analogOutputScaling32 := entry }
  | .analogOutputSiUnit => { bound with analogOutputSiUnit := entry }

theorem BoundOd.set_get (bound : BoundOd) (object : ProfileObject) :
    bound.set object (bound.get object) = bound := by
  cases object <;> rfl

namespace ProfileObject

def canonicalIndex : ProfileObject → Nat
  | digitalInput8 => indexDigitalInput8
  | digitalInputPolarity8 => indexDigitalInputPolarity8
  | digitalInputFilter8 => indexDigitalInputFilter8
  | digitalInterruptEnable => indexDigitalInterruptEnable
  | digitalInterruptAny8 => indexDigitalInterruptAny8
  | digitalInterruptRising8 => indexDigitalInterruptRising8
  | digitalInterruptFalling8 => indexDigitalInterruptFalling8
  | digitalOutput8 => indexDigitalOutput8
  | digitalOutputPolarity8 => indexDigitalOutputPolarity8
  | digitalOutputErrorMode8 => indexDigitalOutputErrorMode8
  | digitalOutputErrorValue8 => indexDigitalOutputErrorValue8
  | digitalOutputFilter8 => indexDigitalOutputFilter8
  | analogInput16 => indexAnalogInput16
  | analogInterruptEnable => indexAnalogInterruptEnable
  | analogInterruptTrigger => indexAnalogInterruptTrigger
  | analogInterruptSource => indexAnalogInterruptSource
  | analogInterruptUpper32 => indexAnalogInterruptUpper32
  | analogInterruptLower32 => indexAnalogInterruptLower32
  | analogInterruptDeltaU32 => indexAnalogInterruptDeltaU32
  | analogInterruptNegDeltaU32 => indexAnalogInterruptNegDeltaU32
  | analogInterruptPosDeltaU32 => indexAnalogInterruptPosDeltaU32
  | analogInputSiUnit => indexAnalogInputSiUnit
  | analogInputOffset32 => indexAnalogInputOffset32
  | analogInputPrescaling32 => indexAnalogInputPrescaling32
  | analogOutput16 => indexAnalogOutput16
  | analogOutputErrorMode => indexAnalogOutputErrorMode
  | analogOutputErrorValue32 => indexAnalogOutputErrorValue32
  | analogOutputOffset32 => indexAnalogOutputOffset32
  | analogOutputScaling32 => indexAnalogOutputScaling32
  | analogOutputSiUnit => indexAnalogOutputSiUnit

/-- Whether a build knows the object. -/
def compiled (features : Features) : ProfileObject → Bool
  | digitalInput8 | digitalOutput8 | analogInput16 | analogInterruptEnable | analogOutput16 => true
  | digitalInputPolarity8 | digitalInputFilter8 | digitalInterruptEnable | digitalInterruptAny8
  | digitalInterruptRising8 | digitalInterruptFalling8 => features.digitalEvents
  | digitalOutputPolarity8 | digitalOutputErrorMode8 | digitalOutputErrorValue8
  | digitalOutputFilter8 => features.digitalOutputFailSafe
  | analogInterruptTrigger | analogInterruptSource | analogInterruptUpper32
  | analogInterruptLower32 | analogInterruptDeltaU32 | analogInterruptNegDeltaU32
  | analogInterruptPosDeltaU32 => features.analogEvents
  | analogOutputErrorMode | analogOutputErrorValue32 => features.analogOutputFailSafe
  | analogInputSiUnit | analogInputOffset32 | analogInputPrescaling32 | analogOutputOffset32
  | analogOutputScaling32 | analogOutputSiUnit => features.analogConditioning

/-- The size of the capability that the object belongs to. -/
def capability (config : DeviceConfig) : ProfileObject → Nat
  | digitalInput8 | digitalInputPolarity8 | digitalInputFilter8 | digitalInterruptEnable
  | digitalInterruptAny8 | digitalInterruptRising8 | digitalInterruptFalling8 =>
      config.digitalInputBanks
  | digitalOutput8 | digitalOutputPolarity8 | digitalOutputErrorMode8 | digitalOutputErrorValue8
  | digitalOutputFilter8 => config.digitalOutputBanks
  | analogInput16 | analogInterruptEnable | analogInterruptTrigger | analogInterruptSource
  | analogInterruptUpper32 | analogInterruptLower32 | analogInterruptDeltaU32
  | analogInterruptNegDeltaU32 | analogInterruptPosDeltaU32 | analogInputSiUnit
  | analogInputOffset32 | analogInputPrescaling32 => config.analogInputChannels
  | analogOutput16 | analogOutputErrorMode | analogOutputErrorValue32 | analogOutputOffset32
  | analogOutputScaling32 | analogOutputSiUnit => config.analogOutputChannels

/-- An object that may be absent although its capability is enabled. -/
def optional : ProfileObject → Bool
  | analogInputSiUnit | analogOutputSiUnit => true
  | _ => false

end ProfileObject

/-- How an object of the dictionary must look. -/
inductive ObjectContract where
  | array (count length : Nat) (required allowed : BitVec 8)
  | variable8 (required allowed : BitVec 8)

namespace ProfileObject

def contract (config : DeviceConfig) : ProfileObject → ObjectContract
  | digitalInput8 =>
      .array config.digitalInputBanks 1 (odaSdoR ||| odaTpdo) (odaSdoR ||| odaTpdo)
  | digitalInterruptEnable => .variable8 odaSdoRW odaSdoRW
  | digitalInputPolarity8 | digitalInputFilter8 | digitalInterruptAny8 | digitalInterruptRising8
  | digitalInterruptFalling8 =>
      .array config.digitalInputBanks 1 odaSdoRW (odaSdoRW ||| odaTrpdo)
  | digitalOutput8 =>
      .array config.digitalOutputBanks 1 (odaSdoRW ||| odaRpdo) (odaSdoRW ||| odaRpdo)
  | digitalOutputPolarity8 | digitalOutputErrorMode8 | digitalOutputErrorValue8
  | digitalOutputFilter8 => .array config.digitalOutputBanks 1 odaSdoRW (odaSdoRW ||| odaTrpdo)
  | analogInput16 =>
      .array config.analogInputChannels 2 (odaSdoR ||| odaTpdo ||| odaMb)
        (odaSdoR ||| odaTpdo ||| odaMb)
  | analogInterruptEnable => .variable8 odaSdoRW (odaSdoRW ||| odaTrpdo)
  | analogInterruptTrigger =>
      .array config.analogInputChannels 1 odaSdoRW (odaSdoRW ||| odaTrpdo)
  | analogInterruptSource =>
      .array config.sourceBanks 4 odaSdoR (odaSdoR ||| odaTpdo ||| odaMb)
  | analogInterruptUpper32 | analogInterruptLower32 | analogInterruptDeltaU32
  | analogInterruptNegDeltaU32 | analogInterruptPosDeltaU32 | analogInputSiUnit
  | analogInputOffset32 | analogInputPrescaling32 =>
      .array config.analogInputChannels 4 odaSdoRW (odaSdoRW ||| odaTrpdo ||| odaMb)
  | analogOutput16 =>
      .array config.analogOutputChannels 2 (odaSdoRW ||| odaRpdo ||| odaMb)
        (odaSdoRW ||| odaRpdo ||| odaMb)
  | analogOutputErrorMode =>
      .array config.analogOutputChannels 1 odaSdoRW (odaSdoRW ||| odaTrpdo)
  | analogOutputErrorValue32 | analogOutputOffset32 | analogOutputScaling32
  | analogOutputSiUnit =>
      .array config.analogOutputChannels 4 odaSdoRW (odaSdoRW ||| odaTrpdo ||| odaMb)

end ProfileObject

/-! ## What the dictionary must hold -/

/-- The sub-entry has storage, this width and matching attributes. -/
def Memory.SubMet (memory : Memory) (entry : OdEntry) (subIndex length : Nat)
    (required allowed : BitVec 8) : Prop :=
  ∃ sub, memory.getSub entry subIndex = some sub ∧ sub.dataOrig = true ∧
    sub.dataLength = length ∧ attributesMatch sub.attributes required allowed = true

namespace BindContext

/-- The dictionary has an object of this type with this many sub-entries. -/
def ShapeMet (context : BindContext) (entry : OdEntry) (objectType : BitVec 8)
    (subEntriesCount : Nat) : Prop :=
  ∃ shape, context.memory.shape entry = some shape ∧
    shape.odObjectType &&& odObjectTypeMask = objectType ∧ shape.subEntriesCount = subEntriesCount

/-- An UNSIGNED32 VAR whose readable value agrees under the mask. -/
def DeviceTypeEntryMet (context : BindContext) (index : Nat)
    (expectedValue valueMask : BitVec 32) : Prop :=
  context.ShapeMet ⟨context.od, index⟩ odObjectTypeVar 1 ∧
    context.memory.SubMet ⟨context.od, index⟩ 0 4 (odaSdoR ||| odaMb) (odaSdoR ||| odaMb) ∧
    ∃ value, context.memory.getU32 context.access (some ⟨context.od, index⟩) 0 = some value ∧
      value &&& valueMask = expectedValue

/-- Slot 0 without a type object of its own is the only Device of its module. -/
def Standalone (context : BindContext) : Prop :=
  context.logicalDevice = 0 ∧ context.memory.shape (context.entry odCanonicalLast) = none

/-- Standalone 0x1000, or the module's 0x1000 and the type object of the slot. -/
def DeviceTypeMet (context : BindContext) : Prop :=
  let expected := deviceTypeForCapabilities context.capabilities
  (context.Standalone →
    context.DeviceTypeEntryMet indexDeviceType expected (BitVec.allOnes 32)) ∧
  (¬ context.Standalone →
    (if context.logicalDevice = 0 then
      context.DeviceTypeEntryMet indexDeviceType
        (deviceTypeMultipleDeviceMask ||| expected &&& deviceTypeProfileMask) (BitVec.allOnes 32)
    else
      context.DeviceTypeEntryMet indexDeviceType deviceTypeMultipleDeviceMask
        deviceTypeMultipleDeviceMask) ∧
    context.DeviceTypeEntryMet (context.index odCanonicalLast) expected (BitVec.allOnes 32))

/-- The entry that becomes the cached Device type. -/
def deviceTypeEntry (context : BindContext) : OdEntry :=
  if context.logicalDevice = 0 && (context.memory.shape (context.entry odCanonicalLast)).isNone then
    ⟨context.od, indexDeviceType⟩
  else context.entry odCanonicalLast

/-- The object at this index looks as its contract says. -/
def ContractMet (context : BindContext) (entry : OdEntry) : ObjectContract → Prop
  | .array count length required allowed =>
      context.ShapeMet entry odObjectTypeArray ((count + 1) % 256) ∧
        context.memory.SubMet entry 0 1 odaSdoR odaSdoR ∧
        (context.memory.getU8 context.access (some entry) 0).map BitVec.toNat = some count ∧
        context.memory.SubMet entry 1 length required allowed ∧
        ∃ shape, context.memory.shape entry = some shape ∧ shape.dataElementSizeof = length
  | .variable8 required allowed =>
      context.ShapeMet entry odObjectTypeVar 1 ∧
        context.memory.SubMet entry 0 1 required allowed

def Absent (context : BindContext) (entry : OdEntry) : Prop :=
  context.memory.shape entry = none

/-- An object of an enabled capability meets its contract, another one is absent. -/
def ObjectMet (context : BindContext) (object : ProfileObject) : Prop :=
  let entry := context.entry object.canonicalIndex
  if object.capability context.config ≠ 0 then
    context.ContractMet entry (object.contract context.config) ∨
      object.optional = true ∧ context.Absent entry
  else context.Absent entry

/-- The slot is free or carries the Device's own extension. -/
def SlotMet (context : BindContext) (owned : OwnExtension) : Prop :=
  ∀ owner, context.memory.extension (context.entry owned.canonicalIndex) = some owner →
    owner = .own owned

/-- What a bind demands of the dictionary. -/
structure Accepts (context : BindContext) : Prop where
  deviceType : context.DeviceTypeMet
  object : ∀ object : ProfileObject, object.compiled context.features = true →
    context.ObjectMet object
  slot : ∀ owned : OwnExtension, owned.installed context.features context.config = true →
    context.SlotMet owned

/-- The entry that a bind caches for an object. -/
def binding (context : BindContext) (object : ProfileObject) : Option OdEntry :=
  let entry := context.entry object.canonicalIndex
  if object.capability context.config ≠ 0 &&
      !(object.optional && (context.memory.shape entry).isNone) then some entry
  else none

/-! ### The objects of each stage, in the order of its checks -/

def baseObjects : List ProfileObject :=
  [.digitalInput8, .digitalOutput8, .analogInput16, .analogInterruptEnable, .analogOutput16]

def digitalEventObjects : List ProfileObject :=
  [.digitalInputPolarity8, .digitalInputFilter8, .digitalInterruptEnable, .digitalInterruptAny8,
    .digitalInterruptRising8, .digitalInterruptFalling8]

def digitalFailSafeObjects : List ProfileObject :=
  [.digitalOutputPolarity8, .digitalOutputErrorMode8, .digitalOutputErrorValue8,
    .digitalOutputFilter8]

def analogEventObjects : List ProfileObject :=
  [.analogInterruptTrigger, .analogInterruptSource, .analogInterruptUpper32,
    .analogInterruptLower32, .analogInterruptDeltaU32, .analogInterruptNegDeltaU32,
    .analogInterruptPosDeltaU32]

def analogFailSafeObjects : List ProfileObject :=
  [.analogOutputErrorMode, .analogOutputErrorValue32]

def conditioningObjects : List ProfileObject :=
  [.analogInputSiUnit, .analogInputOffset32, .analogInputPrescaling32, .analogOutputOffset32,
    .analogOutputScaling32, .analogOutputSiUnit]

/-! ## The validators -/

variable {context : BindContext}

theorem bind_eq_ok {α β : Type} {first : Except InitDiag α} {next : α → Except InitDiag β} {b : β} :
    (first >>= next) = .ok b ↔ ∃ a, first = .ok a ∧ next a = .ok b :=
  ⟨exists_of_bind_ok, fun ⟨_, hfirst, hnext⟩ => by rw [hfirst]; exact hnext⟩

theorem fail_eq_ok {α : Type} {error : InitError} {index subIndex : Nat} {a : α} :
    context.fail error index subIndex = .ok a ↔ False :=
  ⟨fail_ne_ok, False.elim⟩

theorem find_eq (context : BindContext) (index : Nat) :
    context.find index = (context.memory.shape ⟨context.od, index⟩).map fun _ =>
      ⟨context.od, index⟩ := by
  unfold find Memory.find
  cases context.memory.shape ⟨context.od, index⟩ <;> rfl

theorem require_eq_ok {index : Nat} {found : OdEntry × OdShape} :
    context.require index = .ok found ↔
      context.memory.shape ⟨context.od, index⟩ = some found.2 ∧
        found.1 = ⟨context.od, index⟩ := by
  obtain ⟨entry, shape⟩ := found
  unfold require
  rw [find_eq]
  cases hshape : context.memory.shape ⟨context.od, index⟩ with
  | none =>
      simp only [Option.map_none, fail_eq_ok, reduceCtorEq, false_and]
  | some shape' =>
      simp only [Option.map_some, hshape, Except.ok.injEq, Prod.mk.injEq, Option.some.injEq]
      exact ⟨fun h => ⟨h.2, h.1.symm⟩, fun h => ⟨h.2.symm, h.1⟩⟩

theorem requireSub_eq_ok {entry : OdEntry} {subIndex length : Nat} {sub : OdSub} :
    context.requireSub entry subIndex length = .ok sub ↔
      context.memory.getSub entry subIndex = some sub ∧ sub.dataOrig = true ∧
        sub.dataLength = length := by
  unfold requireSub
  cases hsub : context.memory.getSub entry subIndex with
  | none => simp only [fail_eq_ok, reduceCtorEq, false_and]
  | some found =>
      dsimp only
      split_ifs with hstored hlength
      · rw [fail_eq_ok, false_iff]
        rintro ⟨hsame, hdata, -⟩
        obtain rfl := Option.some.inj hsame
        rw [hdata] at hstored
        cases hstored
      · rw [fail_eq_ok, false_iff]
        rintro ⟨hsame, -, hlen⟩
        obtain rfl := Option.some.inj hsame
        exact hlength hlen
      · constructor
        · rintro h
          obtain rfl := Except.ok.inj h
          exact ⟨rfl, by simpa using hstored, by simpa using hlength⟩
        · rintro ⟨hsame, -, -⟩
          rw [Option.some.inj hsame]

theorem validateDeviceTypeEntry_eq_ok {index : Nat} {expectedValue valueMask : BitVec 32}
    {found : OdEntry} :
    context.validateDeviceTypeEntry index expectedValue valueMask = .ok found ↔
      context.DeviceTypeEntryMet index expectedValue valueMask ∧ found = ⟨context.od, index⟩ := by
  unfold validateDeviceTypeEntry
  constructor
  · intro h
    obtain ⟨⟨entry, shape⟩, hrequire, h⟩ := bind_eq_ok.mp h
    obtain ⟨hshape, hentry⟩ := require_eq_ok.mp hrequire
    dsimp only at hshape hentry h
    subst hentry
    split_ifs at h with htype
    · exact absurd h fail_ne_ok
    obtain ⟨sub, hsub, h⟩ := bind_eq_ok.mp h
    split_ifs at h with hattributes
    · exact absurd h fail_ne_ok
    cases hvalue : context.memory.getU32 context.access (some ⟨context.od, index⟩) 0 with
    | none =>
        rw [hvalue] at h
        exact absurd h fail_ne_ok
    | some value =>
        rw [hvalue] at h
        dsimp only at h
        split_ifs at h with hmasked
        · exact absurd h fail_ne_ok
        have hfound := Except.ok.inj h
        simp only [Bool.or_eq_true, decide_eq_true_eq, not_or, not_not] at htype
        obtain ⟨hget, hdata, hlength⟩ := requireSub_eq_ok.mp hsub
        exact ⟨⟨⟨shape, hshape, htype⟩, ⟨sub, hget, hdata, hlength, by simpa using hattributes⟩,
          value, hvalue, not_not.mp hmasked⟩, hfound.symm⟩
  · rintro ⟨⟨⟨shape, hshape, htype, hcount⟩, ⟨sub, hget, hdata, hlength, hattributes⟩, value,
      hvalue, hmasked⟩, rfl⟩
    refine bind_eq_ok.mpr ⟨(⟨context.od, index⟩, shape), require_eq_ok.mpr ⟨hshape, rfl⟩, ?_⟩
    dsimp only
    rw [if_neg (by simp [htype, hcount])]
    refine bind_eq_ok.mpr ⟨sub, requireSub_eq_ok.mpr ⟨hget, hdata, hlength⟩, ?_⟩
    rw [if_neg (by simp [hattributes]), hvalue]
    dsimp only
    rw [if_neg (not_not.mpr hmasked)]

theorem validateDeviceType_eq_ok {found : Option OdEntry} :
    context.validateDeviceType = .ok found ↔
      context.DeviceTypeMet ∧ found = some context.deviceTypeEntry := by
  have hstandalone : (context.logicalDevice = 0 &&
      (context.find (context.index odCanonicalLast)).isNone) = true ↔ context.Standalone := by
    rw [find_eq, Option.isNone_map, Bool.and_eq_true, decide_eq_true_eq, Option.isNone_iff_eq_none]
    rfl
  unfold validateDeviceType DeviceTypeMet
  dsimp only
  by_cases halone : context.Standalone
  · have hentry : context.deviceTypeEntry = ⟨context.od, indexDeviceType⟩ := by
      unfold deviceTypeEntry
      rw [if_pos]
      rw [Bool.and_eq_true, decide_eq_true_eq, Option.isNone_iff_eq_none]
      exact halone
    rw [if_pos (hstandalone.mpr halone), bind_eq_ok, hentry]
    simp only [validateDeviceTypeEntry_eq_ok, halone, not_true_eq_false, forall_const,
      false_implies, and_true]
    constructor
    · rintro ⟨entry, ⟨hmet, rfl⟩, hfound⟩
      exact ⟨hmet, (Except.ok.inj hfound).symm⟩
    · rintro ⟨hmet, rfl⟩
      exact ⟨_, ⟨hmet, rfl⟩, rfl⟩
  · have hentry : context.deviceTypeEntry = context.entry odCanonicalLast := by
      unfold deviceTypeEntry
      rw [if_neg]
      rw [Bool.and_eq_true, decide_eq_true_eq, Option.isNone_iff_eq_none]
      exact halone
    rw [if_neg (mt hstandalone.mp halone), hentry]
    simp only [halone, not_false_eq_true, forall_const, false_implies, true_and]
    by_cases hslot : context.logicalDevice = 0
    · rw [if_pos hslot, if_pos hslot]
      simp only [bind_eq_ok, validateDeviceTypeEntry_eq_ok]
      constructor
      · rintro ⟨first, ⟨hmodule, -⟩, entry, ⟨hmet, rfl⟩, hfound⟩
        exact ⟨⟨hmodule, hmet⟩, (Except.ok.inj hfound).symm⟩
      · rintro ⟨⟨hmodule, hmet⟩, rfl⟩
        exact ⟨_, ⟨hmodule, rfl⟩, _, ⟨hmet, rfl⟩, rfl⟩
    · rw [if_neg hslot, if_neg hslot]
      simp only [bind_eq_ok, validateDeviceTypeEntry_eq_ok]
      constructor
      · rintro ⟨first, ⟨hmodule, -⟩, entry, ⟨hmet, rfl⟩, hfound⟩
        exact ⟨⟨hmodule, hmet⟩, (Except.ok.inj hfound).symm⟩
      · rintro ⟨⟨hmodule, hmet⟩, rfl⟩
        exact ⟨_, ⟨hmodule, rfl⟩, _, ⟨hmet, rfl⟩, rfl⟩

theorem validateArrayContract_eq_ok {canonicalIndex count length : Nat}
    {required allowed : BitVec 8} {found : Option OdEntry} :
    context.validateArrayContract canonicalIndex count length required allowed = .ok found ↔
      context.ContractMet (context.entry canonicalIndex) (.array count length required allowed) ∧
        found = some (context.entry canonicalIndex) := by
  unfold validateArrayContract
  constructor
  · intro h
    obtain ⟨⟨entry, shape⟩, hrequire, h⟩ := bind_eq_ok.mp h
    obtain ⟨hshape, hentry⟩ := require_eq_ok.mp hrequire
    dsimp only at hshape hentry h
    subst hentry
    split at h
    · exact absurd h fail_ne_ok
    rename_i htype
    split at h
    · exact absurd h fail_ne_ok
    rename_i hcount
    obtain ⟨countSub, hcountSub, h⟩ := bind_eq_ok.mp h
    split at h
    · exact absurd h fail_ne_ok
    rename_i hcountAttributes
    split at h
    · exact absurd h fail_ne_ok
    rename_i hvalue
    obtain ⟨elementSub, helementSub, h⟩ := bind_eq_ok.mp h
    split at h
    · exact absurd h fail_ne_ok
    rename_i hstride
    split at h
    · exact absurd h fail_ne_ok
    rename_i hattributes
    have hfound := Except.ok.inj h
    obtain ⟨hget, hdata, hlength⟩ := requireSub_eq_ok.mp hcountSub
    obtain ⟨hget', hdata', hlength'⟩ := requireSub_eq_ok.mp helementSub
    exact ⟨⟨⟨shape, hshape, not_not.mp htype, not_not.mp hcount⟩,
      ⟨countSub, hget, hdata, hlength, by simpa using hcountAttributes⟩, not_not.mp hvalue,
      ⟨elementSub, hget', hdata', hlength', by simpa using hattributes⟩,
      shape, hshape, not_not.mp hstride⟩, hfound.symm⟩
  · rintro ⟨⟨⟨shape, hshape, htype, hcount⟩, ⟨countSub, hget, hdata, hlength, hcountAttributes⟩,
      hvalue, ⟨elementSub, hget', hdata', hlength', hattributes⟩, other, hother, hstride⟩, rfl⟩
    obtain rfl := Option.some.inj (hshape.symm.trans hother)
    refine bind_eq_ok.mpr ⟨(context.entry canonicalIndex, shape),
      require_eq_ok.mpr ⟨hshape, rfl⟩, ?_⟩
    dsimp only
    rw [if_neg (not_not.mpr htype), if_neg (not_not.mpr hcount)]
    refine bind_eq_ok.mpr ⟨countSub, requireSub_eq_ok.mpr ⟨hget, hdata, hlength⟩, ?_⟩
    rw [if_neg (by simp [hcountAttributes]), if_neg (not_not.mpr hvalue)]
    refine bind_eq_ok.mpr ⟨elementSub, requireSub_eq_ok.mpr ⟨hget', hdata', hlength'⟩, ?_⟩
    rw [if_neg (not_not.mpr hstride), if_neg (by simp [hattributes])]
    rfl

theorem validateVariable8_eq_ok {canonicalIndex : Nat} {required allowed : BitVec 8}
    {found : Option OdEntry} :
    context.validateVariable8 canonicalIndex required allowed = .ok found ↔
      context.ContractMet (context.entry canonicalIndex) (.variable8 required allowed) ∧
        found = some (context.entry canonicalIndex) := by
  unfold validateVariable8
  constructor
  · intro h
    obtain ⟨⟨entry, shape⟩, hrequire, h⟩ := bind_eq_ok.mp h
    obtain ⟨hshape, hentry⟩ := require_eq_ok.mp hrequire
    dsimp only at hshape hentry h
    subst hentry
    split_ifs at h with htype
    · exact absurd h fail_ne_ok
    obtain ⟨sub, hsub, h⟩ := bind_eq_ok.mp h
    split_ifs at h with hattributes
    · exact absurd h fail_ne_ok
    have hfound := Except.ok.inj h
    simp only [Bool.or_eq_true, decide_eq_true_eq, not_or, not_not] at htype
    obtain ⟨hget, hdata, hlength⟩ := requireSub_eq_ok.mp hsub
    exact ⟨⟨⟨shape, hshape, htype⟩, sub, hget, hdata, hlength, by simpa using hattributes⟩,
      hfound.symm⟩
  · rintro ⟨⟨⟨shape, hshape, htype, hcount⟩, sub, hget, hdata, hlength, hattributes⟩, rfl⟩
    refine bind_eq_ok.mpr ⟨(context.entry canonicalIndex, shape),
      require_eq_ok.mpr ⟨hshape, rfl⟩, ?_⟩
    dsimp only
    rw [if_neg (by simp [htype, hcount])]
    refine bind_eq_ok.mpr ⟨sub, requireSub_eq_ok.mpr ⟨hget, hdata, hlength⟩, ?_⟩
    rw [if_neg (by simp [hattributes])]
    rfl

/-- A validator of an enabled object, guarded by its capability. -/
theorem validateEnabled_eq_ok {enabled : Bool} {canonicalIndex : Nat}
    {validate : Except InitDiag (Option OdEntry)} {met : Prop} {value found : Option OdEntry}
    (hvalidate : ∀ found, validate = .ok found ↔ met ∧ found = value) :
    context.validateEnabled enabled canonicalIndex validate = .ok found ↔
      (if enabled = true then met else context.Absent (context.entry canonicalIndex)) ∧
        found = if enabled = true then value else none := by
  unfold validateEnabled
  cases enabled with
  | true => simpa using hvalidate found
  | false =>
      rw [find_eq, Option.isSome_map]
      simp only [Bool.false_eq_true, if_false]
      unfold Absent entry
      cases hshape : context.memory.shape ⟨context.od, context.index canonicalIndex⟩ with
      | some shape => simp [fail_eq_ok]
      | none => simp [eq_comm]

/-- The validation of one object, as every stage spells it out for its own objects. -/
def validateObject (context : BindContext) (object : ProfileObject) :
    Except InitDiag (Option OdEntry) :=
  let validate :=
    match object.contract context.config with
    | .array count length required allowed =>
        context.validateArrayContract object.canonicalIndex count length required allowed
    | .variable8 required allowed =>
        context.validateVariable8 object.canonicalIndex required allowed
  context.validateEnabled (object.capability context.config ≠ 0) object.canonicalIndex
    (if object.optional then
      if (context.find (context.index object.canonicalIndex)).isNone then .ok none else validate
    else validate)

theorem validateObject_eq_ok {object : ProfileObject} {found : Option OdEntry} :
    context.validateObject object = .ok found ↔
      context.ObjectMet object ∧ found = context.binding object := by
  have hcontract : ∀ found, (match object.contract context.config with
      | .array count length required allowed =>
          context.validateArrayContract object.canonicalIndex count length required allowed
      | .variable8 required allowed =>
          context.validateVariable8 object.canonicalIndex required allowed) = .ok found ↔
        context.ContractMet (context.entry object.canonicalIndex)
          (object.contract context.config) ∧
        found = some (context.entry object.canonicalIndex) := by
    intro found
    cases object.contract context.config with
    | array count length required allowed => exact validateArrayContract_eq_ok
    | variable8 required allowed => exact validateVariable8_eq_ok
  unfold validateObject ObjectMet binding
  cases hoptional : object.optional with
  | false =>
      refine (validateEnabled_eq_ok (by simpa using hcontract)).trans ?_
      simp
  | true =>
      dsimp only
      rw [find_eq, Option.isNone_map, if_pos rfl]
      refine (@validateEnabled_eq_ok _ _ _ _
        (context.ContractMet (context.entry object.canonicalIndex)
          (object.contract context.config) ∨ context.Absent (context.entry object.canonicalIndex))
        (if (context.memory.shape (context.entry object.canonicalIndex)).isNone then none
          else some (context.entry object.canonicalIndex)) _ ?_).trans ?_
      · intro found
        unfold Absent
        cases hshape : context.memory.shape (context.entry object.canonicalIndex) with
        | none =>
            have hnone : context.memory.shape
                ⟨context.od, context.index object.canonicalIndex⟩ = none := hshape
            simp [hnone, eq_comm]
        | some shape =>
            have hsome : context.memory.shape
                ⟨context.od, context.index object.canonicalIndex⟩ = some shape := hshape
            simpa [hsome] using hcontract found
      · cases hshape : context.memory.shape (context.entry object.canonicalIndex) <;> simp

theorem pure_eq_ok {α : Type} {a b : α} :
    (pure a : Except InitDiag α) = .ok b ↔ b = a :=
  ⟨fun h => (Except.ok.inj h).symm, fun h => congrArg Except.ok h.symm⟩

def ObjectsMet (context : BindContext) (objects : List ProfileObject) : Prop :=
  ∀ object ∈ objects, context.ObjectMet object

/-- The candidate after a feature's objects, which a build without it leaves alone. -/
def cache (context : BindContext) (enabled : Bool) (objects : List ProfileObject)
    (candidate : BoundOd) : BoundOd :=
  objects.foldl (fun bound object =>
    bound.set object (if enabled then context.binding object else bound.get object)) candidate

/-- A stage in terms of the objects it validates, one after the other. -/
def validateObjects (context : BindContext) :
    List ProfileObject → BoundOd → Except InitDiag BoundOd
  | [], candidate => pure candidate
  | object :: rest, candidate => do
      let entry ← context.validateObject object
      context.validateObjects rest (candidate.set object entry)

theorem validateObjects_eq_ok {objects : List ProfileObject} {candidate validated : BoundOd} :
    context.validateObjects objects candidate = .ok validated ↔
      context.ObjectsMet objects ∧ validated = context.cache true objects candidate := by
  unfold ObjectsMet
  induction objects generalizing candidate with
  | nil =>
      rw [validateObjects, pure_eq_ok]
      exact ⟨fun h => ⟨fun _ hmem => absurd hmem List.not_mem_nil, h⟩, fun h => h.2⟩
  | cons object rest ih =>
      rw [validateObjects, bind_eq_ok, List.forall_mem_cons]
      simp only [validateObject_eq_ok]
      constructor
      · rintro ⟨entry, ⟨hmet, rfl⟩, hrest⟩
        obtain ⟨hall, hcached⟩ := ih.mp hrest
        exact ⟨⟨hmet, hall⟩, hcached⟩
      · rintro ⟨⟨hmet, hall⟩, hcached⟩
        exact ⟨_, ⟨hmet, rfl⟩, ih.mpr ⟨hall, hcached⟩⟩

theorem cache_false (context : BindContext) (objects : List ProfileObject)
    (candidate : BoundOd) : context.cache false objects candidate = candidate := by
  unfold cache
  induction objects generalizing candidate with
  | nil => rfl
  | cons object rest ih =>
      rw [List.foldl_cons, if_neg Bool.false_ne_true, candidate.set_get]
      exact ih candidate

/-- A feature that is compiled in runs its stage. -/
theorem validateFeature_eq_ok {enabled : Bool} {objects : List ProfileObject}
    {stage : BoundOd → Except InitDiag BoundOd} (hstage : stage = context.validateObjects objects)
    {candidate validated : BoundOd} :
    validateFeature enabled stage candidate = .ok validated ↔
      (enabled = true → context.ObjectsMet objects) ∧
        validated = context.cache enabled objects candidate := by
  unfold validateFeature
  cases enabled with
  | false =>
      rw [cache_false]
      exact ⟨fun h => ⟨nofun, (Except.ok.inj h).symm⟩, fun h => congrArg Except.ok h.2.symm⟩
  | true =>
      rw [hstage, if_pos rfl, validateObjects_eq_ok]
      exact and_congr_left fun _ => ⟨fun hmet _ => hmet, fun hmet => hmet rfl⟩

theorem validateBase_eq_ok {candidate validated : BoundOd} :
    context.validateBase candidate = .ok validated ↔
      (context.DeviceTypeMet ∧ context.ObjectsMet baseObjects) ∧
        validated = context.cache true baseObjects
          { candidate with deviceType := some context.deviceTypeEntry } := by
  have hstage : context.validateBase candidate = (context.validateDeviceType >>= fun deviceType =>
      context.validateObjects baseObjects { candidate with deviceType := deviceType }) := rfl
  rw [hstage, bind_eq_ok]
  simp only [validateDeviceType_eq_ok, validateObjects_eq_ok]
  constructor
  · rintro ⟨deviceType, ⟨hdevice, rfl⟩, hobjects, rfl⟩
    exact ⟨⟨hdevice, hobjects⟩, rfl⟩
  · rintro ⟨⟨hdevice, hobjects⟩, rfl⟩
    exact ⟨_, ⟨hdevice, rfl⟩, hobjects, rfl⟩

theorem validateDigitalEvents_eq :
    context.validateDigitalEvents = context.validateObjects digitalEventObjects := by
  funext candidate
  simp only [digitalEventObjects, validateObjects, BoundOd.set]
  rfl

theorem validateDigitalFailSafe_eq :
    context.validateDigitalFailSafe = context.validateObjects digitalFailSafeObjects := by
  funext candidate
  simp only [digitalFailSafeObjects, validateObjects, BoundOd.set]
  rfl

theorem validateAnalogEvents_eq :
    context.validateAnalogEvents = context.validateObjects analogEventObjects := by
  funext candidate
  simp only [analogEventObjects, validateObjects, BoundOd.set]
  rfl

theorem validateAnalogFailSafe_eq :
    context.validateAnalogFailSafe = context.validateObjects analogFailSafeObjects := by
  funext candidate
  simp only [analogFailSafeObjects, validateObjects, BoundOd.set]
  rfl

theorem validateConditioning_eq :
    context.validateConditioning = context.validateObjects conditioningObjects := by
  funext candidate
  simp only [conditioningObjects, validateObjects, BoundOd.set]
  rfl

theorem validateExtensionSlot_eq_ok {found : Option OdEntry} {owned : OwnExtension}
    {canonicalIndex : Nat} :
    context.validateExtensionSlot found owned canonicalIndex = .ok () ↔
      ∀ owner, found.bind context.memory.extension = some owner → owner = .own owned := by
  unfold validateExtensionSlot
  cases found.bind context.memory.extension with
  | none => exact ⟨fun _ => nofun, fun _ => rfl⟩
  | some owner =>
      dsimp only
      split_ifs with howned
      · exact ⟨fun _ other hother => (Option.some.inj hother) ▸ howned, fun _ => rfl⟩
      · rw [fail_eq_ok, false_iff]
        exact fun hall => howned (hall owner rfl)

theorem validateExtensionSlots_eq_ok {candidate : BoundOd} {order : List OwnExtension} :
    context.validateExtensionSlots candidate order = .ok () ↔
      ∀ owned ∈ order, owned.installed context.features context.config = true →
        ∀ owner, (candidate.carrier owned).bind context.memory.extension = some owner →
          owner = .own owned := by
  induction order with
  | nil => simp [validateExtensionSlots]
  | cons owned rest ih =>
      have hstep : context.validateExtensionSlots candidate (owned :: rest) =
          if owned.installed context.features context.config = true then
            context.validateExtensionSlot (candidate.carrier owned) owned owned.canonicalIndex >>=
              fun _ => context.validateExtensionSlots candidate rest
          else context.validateExtensionSlots candidate rest := rfl
      rw [List.forall_mem_cons, ← ih, hstep]
      by_cases hinstalled : owned.installed context.features context.config = true
      · rw [if_pos hinstalled, bind_eq_ok, ← validateExtensionSlot_eq_ok]
        exact ⟨fun ⟨_, hslot, hrest⟩ => ⟨fun _ => hslot, hrest⟩,
          fun ⟨hslot, hrest⟩ => ⟨(), hslot hinstalled, hrest⟩⟩
      · rw [if_neg hinstalled]
        exact ⟨fun hrest => ⟨fun hin => absurd hin hinstalled, hrest⟩, fun h => h.2⟩

/-- The record that an accepted bind caches. -/
def expected (context : BindContext) : BoundOd where
  deviceType := some context.deviceTypeEntry
  digitalInput8 := context.binding .digitalInput8
  digitalOutput8 := context.binding .digitalOutput8
  analogInput16 := context.binding .analogInput16
  analogInterruptEnable := context.binding .analogInterruptEnable
  analogOutput16 := context.binding .analogOutput16
  digitalInputPolarity8 :=
    if context.features.digitalEvents then context.binding .digitalInputPolarity8 else none
  digitalInputFilter8 :=
    if context.features.digitalEvents then context.binding .digitalInputFilter8 else none
  digitalInterruptEnable :=
    if context.features.digitalEvents then context.binding .digitalInterruptEnable else none
  digitalInterruptAny8 :=
    if context.features.digitalEvents then context.binding .digitalInterruptAny8 else none
  digitalInterruptRising8 :=
    if context.features.digitalEvents then context.binding .digitalInterruptRising8 else none
  digitalInterruptFalling8 :=
    if context.features.digitalEvents then context.binding .digitalInterruptFalling8 else none
  digitalOutputPolarity8 :=
    if context.features.digitalOutputFailSafe then context.binding .digitalOutputPolarity8 else none
  digitalOutputErrorMode8 :=
    if context.features.digitalOutputFailSafe then context.binding .digitalOutputErrorMode8
    else none
  digitalOutputErrorValue8 :=
    if context.features.digitalOutputFailSafe then context.binding .digitalOutputErrorValue8
    else none
  digitalOutputFilter8 :=
    if context.features.digitalOutputFailSafe then context.binding .digitalOutputFilter8 else none
  analogInterruptTrigger :=
    if context.features.analogEvents then context.binding .analogInterruptTrigger else none
  analogInterruptSource :=
    if context.features.analogEvents then context.binding .analogInterruptSource else none
  analogInterruptUpper32 :=
    if context.features.analogEvents then context.binding .analogInterruptUpper32 else none
  analogInterruptLower32 :=
    if context.features.analogEvents then context.binding .analogInterruptLower32 else none
  analogInterruptDeltaU32 :=
    if context.features.analogEvents then context.binding .analogInterruptDeltaU32 else none
  analogInterruptNegDeltaU32 :=
    if context.features.analogEvents then context.binding .analogInterruptNegDeltaU32 else none
  analogInterruptPosDeltaU32 :=
    if context.features.analogEvents then context.binding .analogInterruptPosDeltaU32 else none
  analogOutputErrorMode :=
    if context.features.analogOutputFailSafe then context.binding .analogOutputErrorMode else none
  analogOutputErrorValue32 :=
    if context.features.analogOutputFailSafe then context.binding .analogOutputErrorValue32
    else none
  analogInputSiUnit :=
    if context.features.analogConditioning then context.binding .analogInputSiUnit else none
  analogInputOffset32 :=
    if context.features.analogConditioning then context.binding .analogInputOffset32 else none
  analogInputPrescaling32 :=
    if context.features.analogConditioning then context.binding .analogInputPrescaling32 else none
  analogOutputOffset32 :=
    if context.features.analogConditioning then context.binding .analogOutputOffset32 else none
  analogOutputScaling32 :=
    if context.features.analogConditioning then context.binding .analogOutputScaling32 else none
  analogOutputSiUnit :=
    if context.features.analogConditioning then context.binding .analogOutputSiUnit else none

theorem expected_get (context : BindContext) (object : ProfileObject) :
    context.expected.get object =
      if object.compiled context.features then context.binding object else none := by
  cases object <;> rfl

/-- The object that carries an own extension. -/
def carrierObject : OwnExtension → ProfileObject
  | .digitalInput8 => .digitalInput8
  | .digitalInputFilter8 => .digitalInputFilter8
  | .digitalOutput8 => .digitalOutput8
  | .analogInput16 => .analogInput16
  | .analogInterruptSource => .analogInterruptSource
  | .analogOutput16 => .analogOutput16

theorem expected_carrier {owned : OwnExtension}
    (h : owned.installed context.features context.config = true) :
    context.expected.carrier owned = some (context.entry owned.canonicalIndex) := by
  rw [OwnExtension.installed, Bool.and_eq_true] at h
  obtain ⟨hcompiled, hcount⟩ := h
  have hget : context.expected.carrier owned = context.expected.get (carrierObject owned) := by
    cases owned <;> rfl
  have hcompiled' : (carrierObject owned).compiled context.features = true := by
    cases owned <;> first | rfl | exact hcompiled
  have hcapability : decide ((carrierObject owned).capability context.config ≠ 0) = true := by
    cases owned <;> exact hcount
  have hindex : (carrierObject owned).canonicalIndex = owned.canonicalIndex := by
    cases owned <;> rfl
  have hoptional : (carrierObject owned).optional = false := by
    cases owned <;> rfl
  rw [hget, expected_get, if_pos hcompiled']
  unfold binding
  rw [hcapability, hoptional, hindex]
  rfl

/-- The validation accepts exactly the dictionaries that meet the contract. -/
theorem validate_eq_ok {candidate : BoundOd} :
    context.validate = .ok candidate ↔ context.Accepts ∧ candidate = context.expected := by
  have hslots : context.validateExtensionSlots context.expected slotOrder = .ok () ↔
      ∀ owned : OwnExtension, owned.installed context.features context.config = true →
        context.SlotMet owned := by
    rw [validateExtensionSlots_eq_ok]
    constructor
    · intro hall owned hinstalled owner howner
      refine hall owned (by cases owned <;> decide) hinstalled owner ?_
      rw [expected_carrier hinstalled]
      exact howner
    · intro hall owned _ hinstalled owner howner
      rw [expected_carrier hinstalled] at howner
      exact hall owned hinstalled owner howner
  unfold validate
  simp only [bind_eq_ok, validateBase_eq_ok, validateFeature_eq_ok validateDigitalEvents_eq,
    validateFeature_eq_ok validateDigitalFailSafe_eq, validateFeature_eq_ok validateAnalogEvents_eq,
    validateFeature_eq_ok validateAnalogFailSafe_eq, validateFeature_eq_ok validateConditioning_eq,
    pure_eq_ok]
  constructor
  · rintro ⟨base, ⟨⟨hdevice, hbase⟩, rfl⟩, events, ⟨hevents, rfl⟩, failSafe, ⟨hfailSafe, rfl⟩,
      analog, ⟨hanalog, rfl⟩, analogSafe, ⟨hanalogSafe, rfl⟩, conditioned, ⟨hconditioned, rfl⟩,
      _, hslot, rfl⟩
    refine ⟨⟨hdevice, ?_, hslots.mp hslot⟩, rfl⟩
    intro object hcompiled
    cases object <;>
      first
      | exact hbase _ (by decide)
      | exact hevents hcompiled _ (by decide)
      | exact hfailSafe hcompiled _ (by decide)
      | exact hanalog hcompiled _ (by decide)
      | exact hanalogSafe hcompiled _ (by decide)
      | exact hconditioned hcompiled _ (by decide)
  · rintro ⟨haccepts, rfl⟩
    have hmet : ∀ {flag : Bool} {objects : List ProfileObject},
        (∀ object ∈ objects, object.compiled context.features = flag) → flag = true →
          context.ObjectsMet objects :=
      fun hcompiled hflag object hmem =>
        haccepts.object object ((hcompiled object hmem).trans hflag)
    refine ⟨_, ⟨⟨haccepts.deviceType, @hmet true _ ?_ rfl⟩, rfl⟩, _, ⟨hmet ?_, rfl⟩, _,
      ⟨hmet ?_, rfl⟩, _, ⟨hmet ?_, rfl⟩, _, ⟨hmet ?_, rfl⟩, _, ⟨hmet ?_, rfl⟩, (),
      hslots.mpr haccepts.slot, rfl⟩
    all_goals simp [baseObjects, digitalEventObjects, digitalFailSafeObjects, analogEventObjects,
      analogFailSafeObjects, conditioningObjects, ProfileObject.compiled]

end BindContext

end CanopenRtt.Cia401
