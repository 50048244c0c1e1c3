import Mathlib.Order.Basic
/-!
# Time between readings of a wrapping counter

A counter with a period shows the time modulo that period. The time between two readings is
known as long as they are less than a period apart.
-/

namespace CanopenRtt.Support

/-- The time between two readings of a counter. -/
def elapsed (period now previous : Nat) : Nat :=
  if now < previous then period - previous + now else now - previous

/-- The quotients of two times that are less than a period apart. -/
theorem div_cases {period t t' : Nat} (hle : t ≤ t') (hclose : t' < t + period) :
    t' / period = t / period ∨ t' / period = t / period + 1 := by
  have hpositive : 0 < period := by omega
  have hlow : t / period ≤ t' / period := Nat.div_le_div_right hle
  have hhigh : t' / period ≤ (t + period) / period := Nat.div_le_div_right (Nat.le_of_lt hclose)
  rw [Nat.add_div_right t hpositive] at hhigh
  omega

theorem elapsed_mod {period t t' : Nat} (hle : t ≤ t') (hclose : t' < t + period) :
    elapsed period (t' % period) (t % period) = t' - t := by
  have hpositive : 0 < period := by omega
  have hfirst := Nat.div_add_mod t period
  have hlast := Nat.div_add_mod t' period
  have hbelow := Nat.mod_lt t hpositive
  have hbelow' := Nat.mod_lt t' hpositive
  unfold elapsed
  rcases div_cases hle hclose with hsame | hnext
  · rw [hsame] at hlast
    rw [if_neg (by omega)]
    omega
  · rw [hnext, Nat.mul_add, Nat.mul_one] at hlast
    rw [if_pos (by omega)]
    omega

/-- The last of the times, or the base. -/
def latest : Nat → List Nat → Nat
  | base, [] => base
  | _, t :: ts => latest t ts

end CanopenRtt.Support
