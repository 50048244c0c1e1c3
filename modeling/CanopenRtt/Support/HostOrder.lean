import CanopenRtt.Support.ByteMedium
import Mathlib.Tactic.Ring
/-!
# Numbers in the byte order of the host

`hostBytes bigEndian width value` is the memory image of an unsigned number of
`width` bytes; `hostValue` reads one back.
-/

namespace CanopenRtt.Support

/-- The low `width` bytes of a number, the lowest first. -/
def lowBytes : Nat → Nat → List Byte
  | 0, _ => []
  | width + 1, value => BitVec.ofNat 8 value :: lowBytes width (value / 256)

/-- The number whose bytes are given, the lowest first. -/
def lowValue : List Byte → Nat
  | [] => 0
  | byte :: bytes => byte.toNat + 256 * lowValue bytes

def hostBytes (bigEndian : Bool) (width value : Nat) : List Byte :=
  if bigEndian then (lowBytes width value).reverse else lowBytes width value

def hostValue (bigEndian : Bool) (bytes : List Byte) : Nat :=
  if bigEndian then lowValue bytes.reverse else lowValue bytes

theorem length_lowBytes (width value : Nat) : (lowBytes width value).length = width := by
  induction width generalizing value with
  | zero => rfl
  | succ width ih => rw [lowBytes, List.length_cons, ih]

@[simp] theorem length_hostBytes (bigEndian : Bool) (width value : Nat) :
    (hostBytes bigEndian width value).length = width := by
  unfold hostBytes
  split
  · rw [List.length_reverse, length_lowBytes]
  · exact length_lowBytes width value

theorem lowValue_lowBytes (width value : Nat) :
    lowValue (lowBytes width value) = value % 256 ^ width := by
  induction width generalizing value with
  | zero => rw [Nat.pow_zero, Nat.mod_one, lowBytes, lowValue]
  | succ width ih =>
      calc
        lowValue (lowBytes (width + 1) value)
            = value % 256 + 256 * (value / 256 % 256 ^ width) := by
          rw [lowBytes, lowValue, ih, BitVec.toNat_ofNat]
        _ = value % (256 * 256 ^ width) := (Nat.mod_mul).symm
        _ = value % 256 ^ (width + 1) := by rw [Nat.pow_succ, Nat.mul_comm]

/-- Numbers that fit their width are read back. -/
theorem hostValue_hostBytes (bigEndian : Bool) {width value : Nat} (h : value < 256 ^ width) :
    hostValue bigEndian (hostBytes bigEndian width value) = value := by
  unfold hostValue hostBytes
  cases bigEndian with
  | true =>
      rw [if_pos rfl, if_pos rfl, List.reverse_reverse, lowValue_lowBytes, Nat.mod_eq_of_lt h]
  | false =>
      rw [if_neg (by decide), if_neg (by decide), lowValue_lowBytes, Nat.mod_eq_of_lt h]

theorem lowValue_lt (bytes : List Byte) : lowValue bytes < 256 ^ bytes.length := by
  induction bytes with
  | nil => exact Nat.zero_lt_one
  | cons byte bytes ih =>
      have hbyte := byte.isLt
      rw [lowValue, List.length_cons, Nat.pow_succ]
      omega

theorem hostValue_lt (bigEndian : Bool) {width : Nat} {bytes : List Byte}
    (h : bytes.length ≤ width) : hostValue bigEndian bytes < 256 ^ width := by
  have hwidth : 256 ^ bytes.length ≤ 256 ^ width := Nat.pow_le_pow_right (by decide) h
  unfold hostValue
  cases bigEndian with
  | true =>
      have hlt := lowValue_lt bytes.reverse
      rw [List.length_reverse] at hlt
      rw [if_pos rfl]
      omega
  | false =>
      have hlt := lowValue_lt bytes
      rw [if_neg (by decide)]
      omega

theorem lowBytes_lowValue (bytes : List Byte) : lowBytes bytes.length (lowValue bytes) = bytes := by
  induction bytes with
  | nil => rfl
  | cons byte bytes ih =>
      have hbyte := byte.isLt
      have hfirst : BitVec.ofNat 8 (byte.toNat + 256 * lowValue bytes) = byte := by
        apply BitVec.eq_of_toNat_eq
        rw [BitVec.toNat_ofNat]
        omega
      have hrest : (byte.toNat + 256 * lowValue bytes) / 256 = lowValue bytes := by omega
      rw [List.length_cons, lowValue, lowBytes, hfirst, hrest, ih]

/-- Bytes are the image of the number they hold. -/
theorem hostBytes_hostValue (bigEndian : Bool) {width : Nat} {bytes : List Byte}
    (h : bytes.length = width) : hostBytes bigEndian width (hostValue bigEndian bytes) = bytes := by
  unfold hostValue hostBytes
  cases bigEndian with
  | true =>
      have hreversed := lowBytes_lowValue bytes.reverse
      rw [List.length_reverse, h] at hreversed
      rw [if_pos rfl, if_pos rfl, hreversed, List.reverse_reverse]
  | false => rw [if_neg (by decide), if_neg (by decide), ← h, lowBytes_lowValue]

end CanopenRtt.Support
