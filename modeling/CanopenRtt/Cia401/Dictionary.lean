import Mathlib.Logic.Function.Basic
import Mathlib.Tactic.Common
/-!
# The Object Dictionary as the CiA 401 Device core sees it

What the documentation of the Object Dictionary interface says about the
entries, their generated shape, their stored values and their extension slots.
Whether one access to an entry succeeds is an arbitrary answer, fixed for the
duration of a call because the caller holds the OD lock.
-/

namespace CanopenRtt.Cia401

/-- An `OD_entry_t *`: the entry of one dictionary with one index. -/
structure OdEntry where
  od : Nat
  index : Nat
  deriving DecidableEq, Repr

/-- The stream `OD_getSub` describes: storage present, byte width, attributes. -/
structure OdSub where
  dataOrig : Bool
  dataLength : Nat
  attributes : BitVec 8
  deriving DecidableEq, Repr

/-- The generated metadata of one entry. -/
structure OdShape where
  odObjectType : BitVec 8
  subEntriesCount : Nat
  sub : Nat → Option OdSub
  dataElementSizeof : Nat

/-- The `OD_extension_t` records one Device owns. -/
inductive OwnExtension where
  | digitalInput8
  | digitalInputFilter8
  | digitalOutput8
  | analogInput16
  | analogInterruptSource
  | analogOutput16
  deriving DecidableEq, Repr

/-- Whose `OD_extension_t` an entry points to. -/
inductive ExtensionOwner where
  | own (extension : OwnExtension)
  | other (subsystem : Nat)
  deriving DecidableEq, Repr

/-- All dictionaries: which entries exist, their extension slots and values. -/
structure Memory where
  shape : OdEntry → Option OdShape
  extension : OdEntry → Option ExtensionOwner
  value : OdEntry → Nat → BitVec 32

/-- Which original accesses succeed. -/
structure OdAccess where
  readable : OdEntry → Nat → Bool
  writable : OdEntry → Nat → Bool

/-- Every access succeeds. -/
def OdAccess.always : OdAccess where
  readable := fun _ _ => true
  writable := fun _ _ => true

namespace Memory

/-- `OD_find`. -/
def find (memory : Memory) (od index : Nat) : Option OdEntry :=
  if (memory.shape ⟨od, index⟩).isSome then some ⟨od, index⟩ else none

/-- `OD_getSub` with `odOrig`. -/
def getSub (memory : Memory) (entry : OdEntry) (subIndex : Nat) : Option OdSub :=
  (memory.shape entry).bind fun shape => shape.sub subIndex

/-- `OD_extension_init`. -/
def extensionInit (memory : Memory) (entry : Option OdEntry) (owner : Option ExtensionOwner) :
    Memory :=
  match entry with
  | none => memory
  | some entry => { memory with extension := Function.update memory.extension entry owner }

/-- `OD_get_u32` with `odOrig`; `none` when the access fails. -/
def getU32 (memory : Memory) (access : OdAccess) (entry : Option OdEntry) (subIndex : Nat) :
    Option (BitVec 32) :=
  match entry with
  | none => none
  | some entry =>
      if access.readable entry subIndex then some (memory.value entry subIndex) else none

/-- `OD_get_u8` with `odOrig`. -/
def getU8 (memory : Memory) (access : OdAccess) (entry : Option OdEntry) (subIndex : Nat) :
    Option (BitVec 8) :=
  (memory.getU32 access entry subIndex).map (BitVec.setWidth 8)

/-- `OD_get_i16` with `odOrig`; the bits of the signed value. -/
def getI16 (memory : Memory) (access : OdAccess) (entry : Option OdEntry) (subIndex : Nat) :
    Option (BitVec 16) :=
  (memory.getU32 access entry subIndex).map (BitVec.setWidth 16)

/-- Store a value at one sub-index. -/
def store (memory : Memory) (entry : OdEntry) (subIndex : Nat) (value : BitVec 32) : Memory :=
  { memory with
    value := Function.update memory.value entry
      (Function.update (memory.value entry) subIndex value) }

/-- `OD_set_u32` with `odOrig`; `none` when the access fails. -/
def setU32 (memory : Memory) (access : OdAccess) (entry : Option OdEntry) (subIndex : Nat)
    (value : BitVec 32) : Option Memory :=
  match entry with
  | none => none
  | some entry =>
      if access.writable entry subIndex then some (memory.store entry subIndex value) else none

/-- `OD_set_u8` with `odOrig`. -/
def setU8 (memory : Memory) (access : OdAccess) (entry : Option OdEntry) (subIndex : Nat)
    (value : BitVec 8) : Option Memory :=
  memory.setU32 access entry subIndex (value.setWidth 32)

/-- `OD_set_i16` with `odOrig`. -/
def setI16 (memory : Memory) (access : OdAccess) (entry : Option OdEntry) (subIndex : Nat)
    (value : BitVec 16) : Option Memory :=
  memory.setU32 access entry subIndex (value.setWidth 32)

@[simp] theorem shape_extensionInit (memory : Memory) (entry : Option OdEntry)
    (owner : Option ExtensionOwner) : (memory.extensionInit entry owner).shape = memory.shape := by
  cases entry <;> rfl

@[simp] theorem value_extensionInit (memory : Memory) (entry : Option OdEntry)
    (owner : Option ExtensionOwner) : (memory.extensionInit entry owner).value = memory.value := by
  cases entry <;> rfl

theorem extension_extensionInit_self (memory : Memory) (entry : OdEntry)
    (owner : Option ExtensionOwner) :
    (memory.extensionInit (some entry) owner).extension entry = owner :=
  Function.update_self ..

theorem extension_extensionInit_of_ne (memory : Memory) {entry : Option OdEntry}
    {other : OdEntry} (owner : Option ExtensionOwner) (h : entry ≠ some other) :
    (memory.extensionInit entry owner).extension other = memory.extension other := by
  cases entry with
  | none => rfl
  | some entry => exact Function.update_of_ne (fun heq => h (by rw [heq])) ..

@[simp] theorem shape_store (memory : Memory) (entry : OdEntry) (subIndex : Nat)
    (value : BitVec 32) : (memory.store entry subIndex value).shape = memory.shape := rfl

@[simp] theorem extension_store (memory : Memory) (entry : OdEntry) (subIndex : Nat)
    (value : BitVec 32) : (memory.store entry subIndex value).extension = memory.extension := rfl

theorem value_store_self (memory : Memory) (entry : OdEntry) (subIndex : Nat)
    (value : BitVec 32) : (memory.store entry subIndex value).value entry subIndex = value := by
  simp [store]

theorem value_store_of_ne (memory : Memory) {entry other : OdEntry} {subIndex otherSub : Nat}
    (value : BitVec 32) (h : ¬(other = entry ∧ otherSub = subIndex)) :
    (memory.store entry subIndex value).value other otherSub = memory.value other otherSub := by
  unfold store
  by_cases hentry : other = entry
  · subst hentry
    have hsub : otherSub ≠ subIndex := fun heq => h ⟨rfl, heq⟩
    simp [hsub]
  · simp [hentry]

/-- A successful write stores at the entry it was given. -/
theorem exists_of_setU32 {memory after : Memory} {access : OdAccess} {entry : Option OdEntry}
    {subIndex : Nat} {value : BitVec 32}
    (h : memory.setU32 access entry subIndex value = some after) :
    ∃ target, entry = some target ∧ access.writable target subIndex = true ∧
      after = memory.store target subIndex value := by
  unfold setU32 at h
  split at h
  case h_1 => cases h
  case h_2 target =>
      split at h
      · exact ⟨target, rfl, by assumption, by simpa using h.symm⟩
      · cases h

end Memory

end CanopenRtt.Cia401
