import Mathlib.Logic.Function.Basic
import Mathlib.Tactic.Common
/-!
# Byte bitmaps

A set of numbers kept as one bit each in an array of bytes: item `i` is bit
`i & 7` of byte `i >> 3`.
-/

namespace CanopenRtt.Support

abbrev Bitmap := Nat → BitVec 8

namespace Bitmap

/-- The bitmap of no item. -/
def empty : Bitmap := fun _ => 0#8

def mask (item : Nat) : BitVec 8 := 1#8 <<< (item &&& 7)

def test (bitmap : Bitmap) (item : Nat) : Bool := bitmap (item >>> 3) &&& mask item ≠ 0#8

def set (bitmap : Bitmap) (item : Nat) : Bitmap :=
  Function.update bitmap (item >>> 3) (bitmap (item >>> 3) ||| mask item)

def clear (bitmap : Bitmap) (item : Nat) : Bitmap :=
  Function.update bitmap (item >>> 3) (bitmap (item >>> 3) &&& ~~~mask item)

theorem shiftRight_three (item : Nat) : item >>> 3 = item / 8 := by
  rw [Nat.shiftRight_eq_div_pow]

theorem and_seven (item : Nat) : item &&& 7 = item % 8 :=
  Nat.and_two_pow_sub_one_eq_mod item 3

theorem getLsbD_mask (item bit : Nat) :
    (mask item).getLsbD bit = decide (bit = item % 8) := by
  rw [mask, and_seven, ← BitVec.twoPow_eq, BitVec.getLsbD_twoPow]
  have hlt : item % 8 < 8 := Nat.mod_lt item (by decide)
  simp [hlt, eq_comm]

/-- A test reads one bit. -/
theorem test_eq_getLsbD (bitmap : Bitmap) (item : Nat) :
    test bitmap item = (bitmap (item / 8)).getLsbD (item % 8) := by
  have hlt : item % 8 < 8 := Nat.mod_lt item (by decide)
  rw [test, shiftRight_three]
  by_cases hbit : (bitmap (item / 8)).getLsbD (item % 8) = true
  · rw [hbit, decide_eq_true_eq]
    intro hzero
    have hand := congrArg (fun byte : BitVec 8 => byte.getLsbD (item % 8)) hzero
    simp [getLsbD_mask, hbit] at hand
  · rw [Bool.not_eq_true] at hbit
    rw [hbit, decide_eq_false_iff_not, not_not]
    apply BitVec.eq_of_getLsbD_eq
    intro bit _
    rw [BitVec.getLsbD_and, getLsbD_mask]
    by_cases hsame : bit = item % 8
    · simp [hsame, hbit]
    · simp [hsame]

@[simp] theorem test_empty (item : Nat) : test empty item = false := by
  rw [test_eq_getLsbD]
  simp [empty]

@[simp] theorem test_set (bitmap : Bitmap) (item other : Nat) :
    test (set bitmap item) other = (decide (item = other) || test bitmap other) := by
  have hlt : other % 8 < 8 := Nat.mod_lt other (by decide)
  rw [test_eq_getLsbD, test_eq_getLsbD, set, shiftRight_three]
  by_cases hbyte : other / 8 = item / 8
  · rw [hbyte, Function.update_self, BitVec.getLsbD_or, getLsbD_mask, Bool.or_comm]
    have hiff : other % 8 = item % 8 ↔ item = other := by omega
    simp [hiff]
  · have hne : item ≠ other := fun h => hbyte (by rw [h])
    rw [Function.update_of_ne hbyte]
    simp [hne]

@[simp] theorem test_clear (bitmap : Bitmap) (item other : Nat) :
    test (clear bitmap item) other = (decide (item ≠ other) && test bitmap other) := by
  have hlt : other % 8 < 8 := Nat.mod_lt other (by decide)
  rw [test_eq_getLsbD, test_eq_getLsbD, clear, shiftRight_three]
  by_cases hbyte : other / 8 = item / 8
  · rw [hbyte, Function.update_self, BitVec.getLsbD_and, BitVec.getLsbD_not,
      getLsbD_mask, Bool.and_comm]
    have hiff : other % 8 = item % 8 ↔ item = other := by omega
    simp [hiff, hlt]
  · have hne : item ≠ other := fun h => hbyte (by rw [h])
    rw [Function.update_of_ne hbyte]
    simp [hne]

end Bitmap

end CanopenRtt.Support
