import Mathlib.Tactic.Common
/-!
# Words compared under a mask

Two words agree on a mask when no selected bit differs. A smaller mask asks for
less, and agreement on one mask is an equivalence.
-/

namespace CanopenRtt.Support

variable {w : Nat} {mask inner : BitVec w} {x y z : BitVec w}

/-- No bit that `mask` selects differs. -/
def AgreeOn (mask x y : BitVec w) : Prop := (x ^^^ y) &&& mask = 0#w

instance : Decidable (AgreeOn mask x y) := inferInstanceAs (Decidable (_ = _))

theorem agreeOn_iff : AgreeOn mask x y ↔
    ∀ i, mask.getLsbD i = true → x.getLsbD i = y.getLsbD i := by
  unfold AgreeOn
  constructor
  · intro h i hi
    have hbit := congrArg (fun word : BitVec w => word.getLsbD i) h
    simpa [hi] using hbit
  · intro h
    apply BitVec.eq_of_getLsbD_eq
    intro i _
    have hbit := h i
    cases hmask : mask.getLsbD i with
    | false => simp [hmask]
    | true => simp [hmask, hbit hmask]

theorem and_not_eq_zero_iff : mask &&& ~~~inner = 0#w ↔
    ∀ i, mask.getLsbD i = true → inner.getLsbD i = true := by
  constructor
  · intro h i hi
    have hlt := BitVec.lt_of_getLsbD hi
    have hbit := congrArg (fun word : BitVec w => word.getLsbD i) h
    simpa [hi, hlt] using hbit
  · intro h
    apply BitVec.eq_of_getLsbD_eq
    intro i _
    have hbit := h i
    cases hmask : mask.getLsbD i with
    | false => simp [hmask]
    | true => simp [hmask, hbit hmask]

theorem AgreeOn.symm (h : AgreeOn mask x y) : AgreeOn mask y x :=
  agreeOn_iff.mpr fun i hi => (agreeOn_iff.mp h i hi).symm

theorem AgreeOn.trans (h : AgreeOn mask x y) (h' : AgreeOn mask y z) : AgreeOn mask x z :=
  agreeOn_iff.mpr fun i hi => (agreeOn_iff.mp h i hi).trans (agreeOn_iff.mp h' i hi)

/-- A mask that selects fewer bits. -/
theorem AgreeOn.mono (h : AgreeOn inner x y)
    (hle : ∀ i, mask.getLsbD i = true → inner.getLsbD i = true) : AgreeOn mask x y :=
  agreeOn_iff.mpr fun i hi => agreeOn_iff.mp h i (hle i hi)

@[simp] theorem agreeOn_zero : AgreeOn 0#w x y := by
  simp [AgreeOn]

end CanopenRtt.Support
