import Mathlib.Tactic.Common
/-!
# Logical-device profile layout

`profile/common/CO_profile_layout.h`. Indices are `uint16_t` values; none of the
sums below leaves that range.
-/

namespace CanopenRtt.Profile

def logicalDeviceCountMax : Nat := 8
def odBase : Nat := 0x6000
def odStride : Nat := 0x0800
def odCanonicalLast : Nat := 0x67FF
def indexInvalid : Nat := 0

def logicalDeviceValid (logicalDevice : Nat) : Bool :=
  logicalDevice < logicalDeviceCountMax

def canonicalIndexValid (canonicalIndex : Nat) : Bool :=
  odBase ≤ canonicalIndex && canonicalIndex ≤ odCanonicalLast

/-- Translate a canonical profile index into one logical-device block. -/
def profileIndex (logicalDevice canonicalIndex : Nat) : Nat :=
  if !logicalDeviceValid logicalDevice || !canonicalIndexValid canonicalIndex then indexInvalid
  else canonicalIndex + logicalDevice * odStride

theorem profileIndex_ne_invalid {logicalDevice canonicalIndex : Nat}
    (hdevice : logicalDeviceValid logicalDevice = true)
    (hindex : canonicalIndexValid canonicalIndex = true) :
    profileIndex logicalDevice canonicalIndex ≠ indexInvalid := by
  unfold profileIndex
  rw [if_neg (by simp [hdevice, hindex])]
  unfold canonicalIndexValid odBase at hindex
  rw [Bool.and_eq_true, decide_eq_true_eq, decide_eq_true_eq] at hindex
  unfold indexInvalid
  omega

/-- Within one logical device the translation loses nothing. -/
theorem profileIndex_injective {logicalDevice first second : Nat}
    (hdevice : logicalDeviceValid logicalDevice = true)
    (hfirst : canonicalIndexValid first = true) (hsecond : canonicalIndexValid second = true)
    (h : profileIndex logicalDevice first = profileIndex logicalDevice second) :
    first = second := by
  unfold profileIndex at h
  rw [if_neg (by simp [hdevice, hfirst]), if_neg (by simp [hdevice, hsecond])] at h
  omega

/-! ### Blocks of different logical devices -/

def pdosPerLogicalDevice : Nat := 64
def pdoNumberInvalid : Nat := 0

def profileDeviceTypeIndex (logicalDevice : Nat) : Nat :=
  profileIndex logicalDevice odCanonicalLast

/-- Translate a profile-local PDO number into the number of the device. -/
def profilePdoNumber (logicalDevice localPdoNumber : Nat) : Nat :=
  if !logicalDeviceValid logicalDevice || localPdoNumber = 0 ||
      pdosPerLogicalDevice < localPdoNumber then pdoNumberInvalid
  else logicalDevice * pdosPerLogicalDevice + localPdoNumber

section

variable {first second : Nat} (hfirst : logicalDeviceValid first = true)
  (hsecond : logicalDeviceValid second = true)

include hfirst hsecond

/-- An index of a profile block names its logical device. -/
theorem profileIndex_device {i j : Nat} (hi : canonicalIndexValid i = true)
    (hj : canonicalIndexValid j = true) (h : profileIndex first i = profileIndex second j) :
    first = second := by
  unfold profileIndex at h
  rw [if_neg (by simp [hfirst, hi]), if_neg (by simp [hsecond, hj])] at h
  unfold canonicalIndexValid odBase odCanonicalLast at hi hj
  rw [Bool.and_eq_true, decide_eq_true_eq, decide_eq_true_eq] at hi hj
  unfold odStride at h
  omega

/-- A PDO number names its logical device. -/
theorem profilePdoNumber_device {n m : Nat} (hn : 1 ≤ n ∧ n ≤ pdosPerLogicalDevice)
    (hm : 1 ≤ m ∧ m ≤ pdosPerLogicalDevice)
    (h : profilePdoNumber first n = profilePdoNumber second m) : first = second := by
  have hvalid {device number : Nat} (hdevice : logicalDeviceValid device = true)
      (hnumber : 1 ≤ number ∧ number ≤ pdosPerLogicalDevice) :
      profilePdoNumber device number = device * pdosPerLogicalDevice + number := by
    unfold profilePdoNumber
    rw [if_neg]
    simp only [hdevice, Bool.or_eq_true, decide_eq_true_eq]
    simp only [Bool.not_true, Bool.false_eq_true, false_or]
    omega
  rw [hvalid hfirst hn, hvalid hsecond hm] at h
  unfold pdosPerLogicalDevice at hn hm h
  omega

end

end CanopenRtt.Profile
