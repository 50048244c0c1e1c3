import Mathlib.Data.List.GetD
/-!
# Byte-addressed media with faulty accesses

A medium maps addresses to bytes. A write that is not reported as done may have
applied any of its bytes; `Wrote` is what a caller may rely on. An access ends
with its result, with a failure that is reported, or with the loss of power.
-/

namespace CanopenRtt.Support

abbrev Byte := BitVec 8

abbrev Medium := Nat → Byte

/-- The bytes from `offset` on. -/
def slice (m : Medium) (offset len : Nat) : List Byte :=
  (List.range len).map fun i => m (offset + i)

/-- Put the bytes of `data` that `applied` selects at `offset`. -/
def patch (applied : Nat → Bool) (m : Medium) (offset : Nat) (data : List Byte) : Medium :=
  fun i => if offset ≤ i ∧ i < offset + data.length ∧ applied i then data.getD (i - offset) 0
    else m i

/-- How an access ended. -/
inductive Access (α : Type*) where
  | done (result : α)
  | failed
  | powerLost
  deriving DecidableEq

/-- Erased storage reads as `0xFF`. -/
def Erased (m : Medium) : Prop := ∀ i, m i = 0xFF

/-- A write of `data` at `offset` took `before` to `after`. The first write may
clear erased storage. -/
structure Wrote (before after : Medium) (offset : Nat) (data : List Byte)
    (outcome : Access Unit) : Prop where
  complete : outcome = .done () → slice after offset data.length = data
  bytes : ∀ i, after i = before i ∨ data[i - offset]? = some (after i) ∧ offset ≤ i ∨
    Erased before ∧ after i = 0

@[simp] theorem length_slice (m : Medium) (offset len : Nat) :
    (slice m offset len).length = len := by
  simp [slice]

theorem getElem?_slice (m : Medium) (offset : Nat) {len i : Nat} (h : i < len) :
    (slice m offset len)[i]? = some (m (offset + i)) := by
  simp [slice, h]

theorem slice_add (m : Medium) (offset a b : Nat) :
    slice m offset (a + b) = slice m offset a ++ slice m (offset + a) b := by
  unfold slice
  rw [List.range_add, List.map_append, List.map_map]
  congr 1
  apply List.map_congr_left
  intro i _
  exact congrArg m (Nat.add_assoc offset a i).symm

theorem slice_congr {m m' : Medium} {offset len : Nat}
    (h : ∀ i, offset ≤ i → i < offset + len → m i = m' i) :
    slice m offset len = slice m' offset len := by
  unfold slice
  apply List.map_congr_left
  intro i hi
  have hlt : i < len := List.mem_range.mp hi
  exact h (offset + i) (by omega) (by omega)

theorem slice_ext_iff {m : Medium} {offset : Nat} {data : List Byte} :
    slice m offset data.length = data ↔
      ∀ i, i < data.length → data[i]? = some (m (offset + i)) := by
  constructor
  · intro h i hi
    rw [← getElem?_slice m offset hi, h]
  · intro h
    apply List.ext_getElem?
    intro i
    by_cases hi : i < data.length
    · rw [getElem?_slice m offset hi, h i hi]
    · rw [List.getElem?_eq_none (by simpa using hi), List.getElem?_eq_none (by simpa using hi)]

theorem patch_apply_of_inside {applied : Nat → Bool} {m : Medium} {offset i : Nat}
    {data : List Byte} (hi : i < data.length) (happlied : applied (offset + i) = true) :
    data[i]? = some (patch applied m offset data (offset + i)) := by
  unfold patch
  rw [if_pos ⟨by omega, by omega, happlied⟩, Nat.add_sub_cancel_left,
    List.getD_eq_getElem data 0 hi]
  exact List.getElem?_eq_getElem hi

theorem slice_patch_all (m : Medium) (offset : Nat) (data : List Byte) :
    slice (patch (fun _ => true) m offset data) offset data.length = data :=
  slice_ext_iff.mpr fun _ hi => patch_apply_of_inside hi rfl

/-- A byte after a partial write is the old one or the one written. -/
theorem patch_apply_cases (applied : Nat → Bool) (m : Medium) (offset : Nat)
    (data : List Byte) (i : Nat) :
    patch applied m offset data i = m i ∨
      data[i - offset]? = some (patch applied m offset data i) ∧ offset ≤ i := by
  by_cases h : offset ≤ i ∧ i < offset + data.length ∧ applied i
  · have hinside := @patch_apply_of_inside applied m offset (i - offset) data (by omega)
    rw [show offset + (i - offset) = i by omega] at hinside
    exact .inr ⟨hinside h.2.2, h.1⟩
  · exact .inl (if_neg h)

end CanopenRtt.Support
