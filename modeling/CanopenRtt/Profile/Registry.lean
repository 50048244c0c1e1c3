import CanopenRtt.Profile.Layout
import CanopenRtt.Support.SlotArray
import Mathlib.Data.BitVec
import Mathlib.Data.List.Perm.Subperm
import Mathlib.Logic.Function.Basic
/-!
# Ownership of logical devices

`profile/common/CO_profile_registry.c`: a table of declarations is accepted as a whole or not at
all. `read` answers for the Device type of a slot.
-/

namespace CanopenRtt.Profile

open CanopenRtt.Support

/-- `CO_profile_descriptor_t` -/
structure ProfileDescriptor where
  logicalDevice : Nat
  profileNumber : BitVec 16
  deriving DecidableEq

/-- `CO_profile_registry_result_t` -/
inductive RegistryResult where
  | ok
  | badArgument
  | invalidLogicalDevice
  | invalidProfileNumber
  | duplicateSlot
  | deviceTypeUnavailable
  | deviceTypeMismatch
  deriving DecidableEq

/-- `CO_profile_registry_diag_t`; the defaults are those of `diagReset`. -/
structure RegistryDiag where
  result : RegistryResult := .ok
  descriptorIndex : Nat := 0xFF
  logicalDevice : Nat := logicalDeviceCountMax
  profileNumber : BitVec 16 := 0
  deviceType : BitVec 32 := 0
  deriving DecidableEq

/-- `CO_profile_registry_t` -/
structure ProfileRegistry where
  owner : Fin logicalDeviceCountMax → BitVec 16 := fun _ => 0
  count : Nat := 0

/-- `CO_profileRegistryOwner` -/
def ProfileRegistry.ownerOf (registry : ProfileRegistry) (logicalDevice : Nat) : BitVec 16 :=
  if h : logicalDevice < logicalDeviceCountMax then registry.owner ⟨logicalDevice, h⟩ else 0

/-- The detail of a failure at a descriptor. -/
def refusal (result : RegistryResult) (item : ProfileDescriptor × Nat) (deviceType : BitVec 32) :
    RegistryDiag where
  result := result
  descriptorIndex := item.2
  logicalDevice := item.1.logicalDevice
  profileNumber := item.1.profileNumber
  deviceType := deviceType

/-- The loop body of `CO_profileRegistryBuild`. -/
def enrol (read : Nat → Option (BitVec 32)) (candidate : ProfileRegistry)
    (item : ProfileDescriptor × Nat) : ProfileRegistry × RegistryDiag :=
  if h : item.1.logicalDevice < logicalDeviceCountMax then
    if item.1.profileNumber = 0 then (candidate, refusal .invalidProfileNumber item 0)
    else if candidate.owner ⟨item.1.logicalDevice, h⟩ ≠ 0 then
      (candidate, refusal .duplicateSlot item 0)
    else
      match read item.1.logicalDevice with
      | none => (candidate, refusal .deviceTypeUnavailable item 0)
      | some deviceType =>
          if deviceType.setWidth 16 ≠ item.1.profileNumber then
            (candidate, refusal .deviceTypeMismatch item deviceType)
          else
            ({ owner := Function.update candidate.owner ⟨item.1.logicalDevice, h⟩
                item.1.profileNumber
               count := candidate.count + 1 }, {})
  else (candidate, refusal .invalidLogicalDevice item 0)

/-- `CO_profileRegistryBuild`: the destination and the detail. `supplied` says that the table and
the reader are given. -/
def registryBuild (supplied : Bool) (descriptors : List ProfileDescriptor)
    (read : Nat → Option (BitVec 32)) : ProfileRegistry × RegistryDiag :=
  if logicalDeviceCountMax < descriptors.length ∨ descriptors ≠ [] ∧ supplied = false then
    ({}, { result := .badArgument })
  else
    let built := runWhile {} (enrol read) {} descriptors.zipIdx
    if built.2 = {} then built else ({}, built.2)

/-! ## What is accepted -/

/-- The slot exists and its Device type names the declared profile. -/
def ProfileDescriptor.Admissible (read : Nat → Option (BitVec 32))
    (descriptor : ProfileDescriptor) : Prop :=
  descriptor.logicalDevice < logicalDeviceCountMax ∧ descriptor.profileNumber ≠ 0 ∧
    ∃ deviceType, read descriptor.logicalDevice = some deviceType ∧
      deviceType.setWidth 16 = descriptor.profileNumber

/-- A table that can be published: no slot is declared twice. -/
structure ValidTable (read : Nat → Option (BitVec 32)) (descriptors : List ProfileDescriptor) :
    Prop where
  admissible : ∀ descriptor ∈ descriptors, descriptor.Admissible read
  distinct : (descriptors.map ProfileDescriptor.logicalDevice).Nodup

/-- The registry holds exactly these declarations. -/
structure Publishes (registry : ProfileRegistry) (descriptors : List ProfileDescriptor) : Prop where
  owner : ∀ logicalDevice profileNumber, profileNumber ≠ 0 →
    (registry.ownerOf logicalDevice = profileNumber ↔
      ⟨logicalDevice, profileNumber⟩ ∈ descriptors)
  count : registry.count = descriptors.length

/-- Why the table is refused at a descriptor, with the first check that fails. -/
inductive Refused (read : Nat → Option (BitVec 32)) (done : List ProfileDescriptor)
    (descriptor : ProfileDescriptor) : RegistryResult → BitVec 32 → Prop where
  | invalidLogicalDevice (h : logicalDeviceCountMax ≤ descriptor.logicalDevice) :
      Refused read done descriptor .invalidLogicalDevice 0
  | invalidProfileNumber (hslot : descriptor.logicalDevice < logicalDeviceCountMax)
      (h : descriptor.profileNumber = 0) : Refused read done descriptor .invalidProfileNumber 0
  | duplicateSlot (hslot : descriptor.logicalDevice < logicalDeviceCountMax)
      (hprofile : descriptor.profileNumber ≠ 0)
      (h : descriptor.logicalDevice ∈ done.map ProfileDescriptor.logicalDevice) :
      Refused read done descriptor .duplicateSlot 0
  | deviceTypeUnavailable (hslot : descriptor.logicalDevice < logicalDeviceCountMax)
      (hprofile : descriptor.profileNumber ≠ 0)
      (hfresh : descriptor.logicalDevice ∉ done.map ProfileDescriptor.logicalDevice)
      (h : read descriptor.logicalDevice = none) :
      Refused read done descriptor .deviceTypeUnavailable 0
  | deviceTypeMismatch (hslot : descriptor.logicalDevice < logicalDeviceCountMax)
      (hprofile : descriptor.profileNumber ≠ 0)
      (hfresh : descriptor.logicalDevice ∉ done.map ProfileDescriptor.logicalDevice)
      (deviceType : BitVec 32) (hread : read descriptor.logicalDevice = some deviceType)
      (h : deviceType.setWidth 16 ≠ descriptor.profileNumber) :
      Refused read done descriptor .deviceTypeMismatch deviceType

section

variable {read : Nat → Option (BitVec 32)} {done descriptors : List ProfileDescriptor}
  {candidate : ProfileRegistry} {descriptor : ProfileDescriptor}

theorem Refused.ne_ok {result : RegistryResult} {deviceType : BitVec 32}
    (h : Refused read done descriptor result deviceType) : result ≠ .ok := by
  cases h <;> exact nofun

theorem refusal_ne {result : RegistryResult} (h : result ≠ .ok) (item : ProfileDescriptor × Nat)
    (deviceType : BitVec 32) : refusal result item deviceType ≠ {} :=
  fun heq => h (congrArg RegistryDiag.result heq)

theorem ownerOf_eq (h : descriptor.logicalDevice < logicalDeviceCountMax) :
    candidate.ownerOf descriptor.logicalDevice = candidate.owner ⟨descriptor.logicalDevice, h⟩ :=
  dif_pos h

theorem publishes_nil : Publishes {} [] := by
  refine ⟨fun logicalDevice profileNumber hprofile => ?_, rfl⟩
  have hzero : ({} : ProfileRegistry).ownerOf logicalDevice = 0 := by
    unfold ProfileRegistry.ownerOf
    split <;> rfl
  rw [hzero]
  simpa using Ne.symm hprofile

/-- A slot is taken exactly if it was declared before. -/
theorem Publishes.taken (h : Publishes candidate done)
    (hadmissible : ∀ other ∈ done, other.Admissible read) (logicalDevice : Nat) :
    candidate.ownerOf logicalDevice ≠ 0 ↔
      logicalDevice ∈ done.map ProfileDescriptor.logicalDevice := by
  constructor
  · intro htaken
    have hmem := (h.owner logicalDevice _ htaken).mp rfl
    exact List.mem_map.mpr ⟨_, hmem, rfl⟩
  · intro hmem
    obtain ⟨other, hother, rfl⟩ := List.mem_map.mp hmem
    have hprofile := (hadmissible other hother).2.1
    rw [(h.owner other.logicalDevice other.profileNumber hprofile).mpr hother]
    exact hprofile

theorem ownerOf_update (hslot : descriptor.logicalDevice < logicalDeviceCountMax)
    (logicalDevice count : Nat) :
    (ProfileRegistry.mk (Function.update candidate.owner ⟨descriptor.logicalDevice, hslot⟩
        descriptor.profileNumber) count).ownerOf logicalDevice =
      if logicalDevice = descriptor.logicalDevice then descriptor.profileNumber
      else candidate.ownerOf logicalDevice := by
  unfold ProfileRegistry.ownerOf
  by_cases hsame : logicalDevice = descriptor.logicalDevice
  · subst hsame
    rw [dif_pos hslot, if_pos rfl]
    exact Function.update_self ..
  · rw [if_neg hsame]
    split
    · exact Function.update_of_ne (fun heq => hsame (congrArg Fin.val heq)) ..
    · rfl

theorem Publishes.concat (h : Publishes candidate done)
    (hslot : descriptor.logicalDevice < logicalDeviceCountMax)
    (hfree : candidate.ownerOf descriptor.logicalDevice = 0) :
    Publishes
      ⟨Function.update candidate.owner ⟨descriptor.logicalDevice, hslot⟩ descriptor.profileNumber,
        candidate.count + 1⟩ (done ++ [descriptor]) := by
  refine ⟨fun logicalDevice profileNumber hnumber => ?_, ?_⟩
  · rw [ownerOf_update hslot, List.mem_append, List.mem_singleton,
      ← h.owner logicalDevice profileNumber hnumber]
    by_cases hsame : logicalDevice = descriptor.logicalDevice
    · subst hsame
      rw [if_pos rfl, hfree]
      constructor
      · rintro rfl
        exact .inr rfl
      · rintro (hzero | heq)
        · exact absurd hzero.symm hnumber
        · exact (congrArg ProfileDescriptor.profileNumber heq).symm
    · rw [if_neg hsame]
      constructor
      · exact .inl
      · rintro (hold | heq)
        · exact hold
        · exact absurd (congrArg ProfileDescriptor.logicalDevice heq) hsame
  · rw [List.length_append, List.length_singleton, h.count]

theorem enrol_cases (h : Publishes candidate done) (hvalid : ValidTable read done)
    (descriptor : ProfileDescriptor) (i : Nat) :
    ((enrol read candidate (descriptor, i)).2 = {} ∧
        Publishes (enrol read candidate (descriptor, i)).1 (done ++ [descriptor]) ∧
        ValidTable read (done ++ [descriptor])) ∨
      ∃ result deviceType, Refused read done descriptor result deviceType ∧
        (enrol read candidate (descriptor, i)).2 = refusal result (descriptor, i) deviceType := by
  unfold enrol
  dsimp only
  by_cases hslot : descriptor.logicalDevice < logicalDeviceCountMax
  · rw [dif_pos hslot]
    by_cases hprofile : descriptor.profileNumber = 0
    · rw [if_pos hprofile]
      exact .inr ⟨_, _, .invalidProfileNumber hslot hprofile, rfl⟩
    rw [if_neg hprofile]
    have htaken := h.taken hvalid.admissible descriptor.logicalDevice
    rw [ownerOf_eq hslot] at htaken
    by_cases hdeclared : descriptor.logicalDevice ∈ done.map ProfileDescriptor.logicalDevice
    · rw [if_pos (htaken.mpr hdeclared)]
      exact .inr ⟨_, _, .duplicateSlot hslot hprofile hdeclared, rfl⟩
    have hfree : candidate.owner ⟨descriptor.logicalDevice, hslot⟩ = 0 :=
      not_not.mp fun hne => hdeclared (htaken.mp hne)
    rw [if_neg (not_not_intro hfree)]
    cases hread : read descriptor.logicalDevice with
    | none => exact .inr ⟨_, _, .deviceTypeUnavailable hslot hprofile hdeclared hread, rfl⟩
    | some deviceType =>
        dsimp only
        by_cases hmatches : deviceType.setWidth 16 = descriptor.profileNumber
        · rw [if_neg (not_not_intro hmatches)]
          refine .inl ⟨rfl, h.concat hslot (by rw [ownerOf_eq hslot, hfree]), ?_, ?_⟩
          · intro other hother
            rcases List.mem_append.mp hother with hold | hnew
            · exact hvalid.admissible other hold
            · rw [List.mem_singleton.mp hnew]
              exact ⟨hslot, hprofile, deviceType, hread, hmatches⟩
          · rw [List.map_append, List.map_singleton, List.nodup_append]
            refine ⟨hvalid.distinct, List.nodup_singleton _, ?_⟩
            intro first hfirst second hsecond heq
            rw [List.mem_singleton] at hsecond
            exact hdeclared (by rwa [← hsecond, ← heq])
        · rw [if_pos hmatches]
          exact .inr ⟨_, _, .deviceTypeMismatch hslot hprofile hdeclared deviceType hread hmatches,
            rfl⟩
  · rw [dif_neg hslot]
    exact .inr ⟨_, _, .invalidLogicalDevice (Nat.not_lt.mp hslot), rfl⟩

theorem runWhile_enrol (h : Publishes candidate done) (hvalid : ValidTable read done)
    (rest : List ProfileDescriptor) :
    ((runWhile {} (enrol read) candidate (rest.zipIdx done.length)).2 = {} ∧
        Publishes (runWhile {} (enrol read) candidate (rest.zipIdx done.length)).1 (done ++ rest) ∧
        ValidTable read (done ++ rest)) ∨
      ∃ front failing back result deviceType, rest = front ++ failing :: back ∧
        ValidTable read (done ++ front) ∧ Refused read (done ++ front) failing result deviceType ∧
        (runWhile {} (enrol read) candidate (rest.zipIdx done.length)).2 =
          refusal result (failing, (done ++ front).length) deviceType := by
  induction rest generalizing candidate done with
  | nil =>
      left
      rw [List.append_nil]
      exact ⟨rfl, h, hvalid⟩
  | cons next rest ih =>
      rw [List.zipIdx_cons, runWhile]
      rcases enrol_cases h hvalid next done.length with
        ⟨hgood, hpublishes, hnext⟩ | ⟨result, deviceType, hrefused, hdiag⟩
      · rw [if_pos hgood]
        have hrest := ih hpublishes hnext
        rw [List.length_append, List.length_singleton, List.append_assoc,
          List.singleton_append] at hrest
        rcases hrest with hbuilt | ⟨front, failing, back, result, deviceType, rfl, hfront,
          hrefused, hdiag⟩
        · exact .inl hbuilt
        · rw [List.append_assoc, List.singleton_append] at hfront hrefused hdiag
          exact .inr ⟨next :: front, failing, back, result, deviceType, rfl, hfront, hrefused,
            hdiag⟩
      · rw [if_neg (by rw [hdiag]; exact refusal_ne hrefused.ne_ok _ _)]
        refine .inr ⟨[], next, rest, result, deviceType, rfl, ?_, ?_, ?_⟩
        · rwa [List.append_nil]
        · rwa [List.append_nil]
        · rwa [List.append_nil]

theorem ValidTable.length_le (h : ValidTable read descriptors) :
    descriptors.length ≤ logicalDeviceCountMax := by
  have hsub : descriptors.map ProfileDescriptor.logicalDevice ⊆
      List.range logicalDeviceCountMax := by
    intro logicalDevice hmem
    obtain ⟨descriptor, hdescriptor, rfl⟩ := List.mem_map.mp hmem
    exact List.mem_range.mpr (h.admissible descriptor hdescriptor).1
  have hlength := (List.subperm_of_subset h.distinct hsub).length_le
  rwa [List.length_map, List.length_range] at hlength

/-- The first descriptor that is refused makes the whole table invalid. -/
theorem Refused.not_valid {back : List ProfileDescriptor} {result : RegistryResult}
    {deviceType : BitVec 32} (h : Refused read done descriptor result deviceType) :
    ¬ ValidTable read (done ++ descriptor :: back) := by
  intro hvalid
  have hself := hvalid.admissible descriptor (List.mem_append_right _ List.mem_cons_self)
  cases h with
  | invalidLogicalDevice hslot => exact absurd hself.1 (Nat.not_lt.mpr hslot)
  | invalidProfileNumber hslot hprofile => exact hself.2.1 hprofile
  | duplicateSlot hslot hprofile hdeclared =>
      have hnodup := hvalid.distinct
      rw [List.map_append, List.map_cons, List.nodup_append] at hnodup
      exact hnodup.2.2 _ hdeclared _ List.mem_cons_self rfl
  | deviceTypeUnavailable hslot hprofile hfresh hread =>
      obtain ⟨deviceType, hsome, -⟩ := hself.2.2
      rw [hread] at hsome
      cases hsome
  | deviceTypeMismatch hslot hprofile hfresh deviceType hread hmatches =>
      obtain ⟨other, hsome, hother⟩ := hself.2.2
      rw [hread, Option.some_inj] at hsome
      rw [hsome] at hmatches
      exact hmatches hother

/-- The outcomes of a build. -/
inductive BuildResult (read : Nat → Option (BitVec 32)) (descriptors : List ProfileDescriptor) :
    ProfileRegistry × RegistryDiag → Prop where
  | published (registry : ProfileRegistry) (h : Publishes registry descriptors)
      (hvalid : ValidTable read descriptors) : BuildResult read descriptors (registry, {})
  | badArgument : BuildResult read descriptors ({}, { result := .badArgument })
  | refused (front back : List ProfileDescriptor) (failing : ProfileDescriptor)
      (result : RegistryResult) (deviceType : BitVec 32)
      (hsplit : descriptors = front ++ failing :: back) (hvalid : ValidTable read front)
      (h : Refused read front failing result deviceType) :
      BuildResult read descriptors ({}, refusal result (failing, front.length) deviceType)

theorem registryBuild_loop (descriptors : List ProfileDescriptor)
    (read : Nat → Option (BitVec 32)) :
    BuildResult read descriptors
        (if (runWhile {} (enrol read) {} descriptors.zipIdx).2 = {} then
          runWhile {} (enrol read) {} descriptors.zipIdx
        else ({}, (runWhile {} (enrol read) {} descriptors.zipIdx).2)) ∧
      ((runWhile {} (enrol read) {} descriptors.zipIdx).2 = {} ↔ ValidTable read descriptors) := by
  have hloop := @runWhile_enrol read [] {} publishes_nil ⟨by simp, List.nodup_nil⟩ descriptors
  simp only [List.nil_append, List.length_nil] at hloop
  generalize runWhile {} (enrol read) {} descriptors.zipIdx = built at hloop ⊢
  obtain ⟨registry, diag⟩ := built
  rcases hloop with ⟨rfl, hpublishes, hvalid⟩ |
    ⟨front, failing, back, result, deviceType, rfl, hvalid, hrefused, rfl⟩
  · rw [if_pos rfl]
    exact ⟨.published registry hpublishes hvalid, fun _ => hvalid, fun _ => rfl⟩
  · have hne := refusal_ne hrefused.ne_ok (failing, front.length) deviceType
    rw [if_neg hne]
    exact ⟨.refused front back failing result deviceType rfl hvalid hrefused,
      fun heq => absurd heq hne, fun htable => absurd htable hrefused.not_valid⟩

theorem registryBuild_cases (supplied : Bool) (descriptors : List ProfileDescriptor)
    (read : Nat → Option (BitVec 32)) :
    BuildResult read descriptors (registryBuild supplied descriptors read) := by
  unfold registryBuild
  split
  · exact .badArgument
  · exact (registryBuild_loop descriptors read).1

/-- A table that is supplied is published exactly if it is valid, in whatever order. -/
theorem registryBuild_ok_iff {supplied : Bool} (hsupplied : descriptors = [] ∨ supplied = true) :
    (registryBuild supplied descriptors read).2 = {} ↔ ValidTable read descriptors := by
  obtain ⟨-, hloop⟩ := registryBuild_loop descriptors read
  unfold registryBuild
  split
  · next hbad =>
      constructor
      · exact fun heq => absurd (congrArg RegistryDiag.result heq) nofun
      · intro hvalid
        rcases hbad with hlong | ⟨hsome, hnone⟩
        · exact absurd hvalid.length_le (Nat.not_le.mpr hlong)
        · rcases hsupplied with hempty | htrue
          · exact absurd hempty hsome
          · rw [htrue] at hnone
            cases hnone
  · rw [← hloop]
    dsimp only
    split
    · rfl
    · rfl

end

end CanopenRtt.Profile
