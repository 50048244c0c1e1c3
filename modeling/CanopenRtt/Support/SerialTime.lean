import Mathlib.Data.BitVec
import Mathlib.Tactic.Ring
/-!
# Deadlines on a wrapping clock

A clock of `w` bits shows `tick w t` at time `t`. A deadline counts as reached
when the signed difference to it is not negative, which is right as long as the
deadline lies at most half a period ahead.
-/

namespace CanopenRtt.Support

variable {w : Nat}

/-- What the clock shows at time `t`. -/
def tick (w t : Nat) : BitVec w := BitVec.ofNat w t

/-- The wrapping comparison of a time with a deadline. -/
def reached (now deadline : BitVec w) : Bool := 0 ≤ (now - deadline).toInt

theorem tick_add (t d : Nat) : tick w t + tick w d = tick w (t + d) :=
  (BitVec.ofNat_add t d).symm

theorem toInt_neg_tick {e : Nat} (hpos : 0 < e) (hsmall : e ≤ 2 ^ w) :
    (-tick (w + 1) e).toInt = -e := by
  have hpow : 2 ^ (w + 1) = 2 * 2 ^ w := by ring
  have hmod : e % 2 ^ (w + 1) = e := Nat.mod_eq_of_lt (by omega)
  have hneg : (2 ^ (w + 1) - e) % 2 ^ (w + 1) = 2 ^ (w + 1) - e := Nat.mod_eq_of_lt (by omega)
  rw [BitVec.toInt_eq_toNat_cond, BitVec.toNat_neg, tick, BitVec.toNat_ofNat, hmod, hneg]
  rw [if_neg (by omega)]
  push_cast [Nat.cast_sub (show e ≤ 2 ^ (w + 1) by omega)]
  ring

/-- A reached deadline that is not more than half a period ahead has passed. -/
theorem le_of_reached {now deadline : Nat}
    (h : reached (tick (w + 1) now) (tick (w + 1) deadline) = true)
    (hclose : deadline ≤ now + 2 ^ w) : deadline ≤ now := by
  by_contra hahead
  obtain ⟨e, rfl⟩ := Nat.exists_eq_add_of_lt (Nat.lt_of_not_le hahead)
  have hdiff : tick (w + 1) now - tick (w + 1) (now + e + 1) = -tick (w + 1) (e + 1) := by
    rw [Nat.add_assoc, ← tick_add]
    simp
  have hnonneg := of_decide_eq_true h
  rw [hdiff, toInt_neg_tick (Nat.succ_pos e) (by omega)] at hnonneg
  omega

end CanopenRtt.Support
