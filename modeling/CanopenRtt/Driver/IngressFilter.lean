import CanopenRtt.Support.MaskedWord
import CanopenRtt.Support.TableLoop
/-!
# The compiler of the CAN ingress rules

`port/rtthread/CO_can_filter_RTT.c` up to the programming of the filter banks. The
active entries of `rxArray` become at most `capacity` mask rules; data and remote
frames never share one.
-/

namespace CanopenRtt.Driver

open Support

/-- `RT_CAN_DTR` and `RT_CAN_RTR`. -/
inductive FrameType where
  | dtr
  | rtr
  deriving DecidableEq

/-- `CO_RTT_CAN_STD_MASK` -/
def stdMask : BitVec 16 := 0x7FF#16

/-- `CO_RTT_CAN_RTR_FLAG` -/
def rtrFlag : BitVec 16 := 0x800#16

/-- `CO_CANrx_t`. Pointers are addresses, a missing callback is `NULL`. -/
structure CanRx where
  ident : BitVec 16
  mask : BitVec 16
  object : Nat
  callback : Option Nat
  deriving DecidableEq

/-- An entry after the `memset` of `CO_CANmodule_init`. -/
def CanRx.empty : CanRx where
  ident := 0#16
  mask := 0#16
  object := 0
  callback := none

/-- The frame type that the RTR bit of `ident` selects. -/
def CanRx.frameType (rx : CanRx) : FrameType :=
  if rx.ident &&& rtrFlag ≠ 0#16 then .rtr else .dtr

/-- `co_rtt_can_ingress_rule_t`, normalized to the bits of a standard identifier. -/
structure IngressRule where
  id : BitVec 16
  mask : BitVec 16
  rtr : FrameType
  id_std : id &&& stdMask = id
  mask_std : mask &&& stdMask = mask
  deriving DecidableEq

/-- A standard frame on the bus. -/
structure StdFrame where
  id : BitVec 11
  rtr : FrameType
  deriving DecidableEq

/-- The identifier as the driver stores it. -/
def StdFrame.ident (frame : StdFrame) : BitVec 16 := frame.id.setWidth 16

/-- What a filter bank in mask mode lets through. -/
def IngressRule.Accepts (rule : IngressRule) (frame : StdFrame) : Prop :=
  rule.rtr = frame.rtr ∧ AgreeOn rule.mask frame.ident rule.id

instance (rule : IngressRule) (frame : StdFrame) : Decidable (rule.Accepts frame) :=
  inferInstanceAs (Decidable (_ ∧ _))

abbrev RuleTable := Table IngressRule

/-- The frames that some rule of the table lets through. -/
def Accepts (rules : RuleTable) (frame : StdFrame) : Prop :=
  rules.Any fun rule => rule.Accepts frame

theorem and_and_stdMask (x y : BitVec 16) :
    x &&& (y &&& stdMask) &&& stdMask = x &&& (y &&& stdMask) := by
  rw [BitVec.and_assoc, BitVec.and_assoc, BitVec.and_self]

theorem and_stdMask_self (x : BitVec 16) : x &&& stdMask &&& stdMask = x &&& stdMask := by
  rw [BitVec.and_assoc, BitVec.and_self]

/-- The zero-mask rule, which lets every frame of its type through. -/
def broadRule (frameType : FrameType) : IngressRule where
  id := 0#16
  mask := 0#16
  rtr := frameType
  id_std := BitVec.zero_and
  mask_std := BitVec.zero_and

/-- No entry is in use. -/
def emptyTable : RuleTable where
  entry _ := broadRule .dtr
  count := 0

/-! ### Single rules -/

/-- `co_rtt_filter_specificity` -/
def filterSpecificity (mask : BitVec 16) : Nat :=
  (List.range 16).countP fun bit => (mask &&& stdMask).getLsbD bit

/-- `co_rtt_filter_rule_covers` -/
def filterRuleCovers (outer inner : IngressRule) : Bool :=
  if outer.rtr ≠ inner.rtr then false
  else
    let outerMask := outer.mask &&& stdMask
    let innerMask := inner.mask &&& stdMask
    decide (outerMask &&& ~~~innerMask = 0#16) &&
      decide ((outer.id ^^^ inner.id) &&& outerMask = 0#16)

/-- `co_rtt_filter_merge` -/
def filterMerge (left right : IngressRule) : IngressRule :=
  let differing := (left.id ^^^ right.id) &&& stdMask
  let mask := left.mask &&& right.mask &&& ~~~differing &&& stdMask
  { id := left.id &&& mask
    mask := mask
    rtr := left.rtr
    id_std := and_and_stdMask ..
    mask_std := and_stdMask_self .. }

theorem accepts_broadRule (frame : StdFrame) : (broadRule frame.rtr).Accepts frame :=
  ⟨rfl, agreeOn_zero⟩

theorem accepts_of_covers {outer inner : IngressRule} {frame : StdFrame}
    (h : filterRuleCovers outer inner = true) (hinner : inner.Accepts frame) :
    outer.Accepts frame := by
  unfold filterRuleCovers at h
  split at h
  · contradiction
  · rename_i hsame
    have htype : outer.rtr = inner.rtr := not_not.mp hsame
    rw [outer.mask_std, inner.mask_std, Bool.and_eq_true, decide_eq_true_eq,
      decide_eq_true_eq] at h
    obtain ⟨hmask, hid⟩ := h
    refine ⟨htype.trans hinner.1, ?_⟩
    have hframe : AgreeOn outer.mask frame.ident inner.id :=
      hinner.2.mono (and_not_eq_zero_iff.mp hmask)
    have hids : AgreeOn outer.mask outer.id inner.id := hid
    exact hframe.trans hids.symm

/-- A bit that the merged mask selects is selected by both and has one value. -/
theorem getLsbD_mask_filterMerge {left right : IngressRule} {i : Nat}
    (h : (filterMerge left right).mask.getLsbD i = true) :
    left.mask.getLsbD i = true ∧ right.mask.getLsbD i = true ∧
      left.id.getLsbD i = right.id.getLsbD i := by
  unfold filterMerge at h
  simp only [BitVec.getLsbD_and, BitVec.getLsbD_not, BitVec.getLsbD_xor, Bool.and_eq_true,
    Bool.not_eq_true', Bool.and_eq_false_iff, decide_eq_true_eq] at h
  obtain ⟨⟨⟨hleft, hright⟩, -, hdiffering⟩, hstd⟩ := h
  refine ⟨hleft, hright, ?_⟩
  rcases hdiffering with hequal | hoff
  · simpa using hequal
  · rw [hstd] at hoff
    contradiction

theorem agreeOn_filterMerge (left right : IngressRule) :
    AgreeOn (filterMerge left right).mask left.id (filterMerge left right).id := by
  refine agreeOn_iff.mpr fun i hi => ?_
  have hid : (filterMerge left right).id = left.id &&& (filterMerge left right).mask := rfl
  rw [hid, BitVec.getLsbD_and, hi, Bool.and_true]

theorem accepts_filterMerge_left {left right : IngressRule} {frame : StdFrame}
    (h : left.Accepts frame) : (filterMerge left right).Accepts frame := by
  refine ⟨h.1, ?_⟩
  have hframe : AgreeOn (filterMerge left right).mask frame.ident left.id :=
    h.2.mono fun i hi => (getLsbD_mask_filterMerge hi).1
  exact hframe.trans (agreeOn_filterMerge left right)

theorem accepts_filterMerge_right {left right : IngressRule} {frame : StdFrame}
    (hsame : left.rtr = right.rtr) (h : right.Accepts frame) :
    (filterMerge left right).Accepts frame := by
  refine ⟨hsame.trans h.1, ?_⟩
  have hframe : AgreeOn (filterMerge left right).mask frame.ident right.id :=
    h.2.mono fun i hi => (getLsbD_mask_filterMerge hi).2.1
  have hids : AgreeOn (filterMerge left right).mask right.id left.id :=
    agreeOn_iff.mpr fun i hi => (getLsbD_mask_filterMerge hi).2.2.symm
  exact (hframe.trans hids).trans (agreeOn_filterMerge left right)

/-- A merge that lets a frame through which neither rule does. -/
def Lossy (left right : IngressRule) : Prop :=
  ∃ frame, (filterMerge left right).Accepts frame ∧ ¬ left.Accepts frame ∧ ¬ right.Accepts frame

theorem accepts_or_of_not_lossy {left right : IngressRule} {frame : StdFrame}
    (hexact : ¬ Lossy left right) (h : (filterMerge left right).Accepts frame) :
    left.Accepts frame ∨ right.Accepts frame := by
  by_contra hneither
  rw [not_or] at hneither
  exact hexact ⟨frame, h, hneither.1, hneither.2⟩

/-! ### Compaction -/

/-- The local state of `co_rtt_filter_compact` at the head of its inner loop. -/
structure Scan where
  rules : RuleTable
  i : Nat
  j : Nat

/-- One pass of the inner loop, or the step of the outer one; `none` ends the function. -/
def Scan.step (scan : Scan) : Option Scan :=
  if scan.i < scan.rules.count then
    if scan.j < scan.rules.count then
      if filterRuleCovers (scan.rules.entry scan.i) (scan.rules.entry scan.j) then
        some { scan with rules := scan.rules.remove scan.j }
      else if filterRuleCovers (scan.rules.entry scan.j) (scan.rules.entry scan.i) then
        -- `removed_i` leaves the inner loop and keeps `i`
        some { rules := scan.rules.remove scan.i, i := scan.i, j := scan.i + 1 }
      else some { scan with j := scan.j + 1 }
    else some { scan with i := scan.i + 1, j := scan.i + 2 }
  else none

def Scan.start (rules : RuleTable) : Scan where
  rules := rules
  i := 0
  j := 1

/-- Bounds the passes that are left. -/
def Scan.remaining (scan : Scan) : Nat :=
  (scan.rules.count - scan.i) * (scan.rules.count + 2) + (scan.rules.count - scan.j)

/-- `co_rtt_filter_compact` -/
def filterCompact (rules : RuleTable) : RuleTable :=
  (iterate Scan.step (Scan.start rules).remaining (Scan.start rules)).rules

/-- What a pass does to the table and to the indices. -/
theorem Scan.step_cases {scan next : Scan} (h : scan.step = some next) :
    scan.i < scan.rules.count ∧
      ((scan.j < scan.rules.count ∧
          filterRuleCovers (scan.rules.entry scan.i) (scan.rules.entry scan.j) = true ∧
          next = { scan with rules := scan.rules.remove scan.j }) ∨
        (scan.j < scan.rules.count ∧
          filterRuleCovers (scan.rules.entry scan.j) (scan.rules.entry scan.i) = true ∧
          next = { rules := scan.rules.remove scan.i, i := scan.i, j := scan.i + 1 }) ∨
        (scan.j < scan.rules.count ∧ next = { scan with j := scan.j + 1 }) ∨
        (scan.rules.count ≤ scan.j ∧ next = { scan with i := scan.i + 1, j := scan.i + 2 })) := by
  unfold Scan.step at h
  split at h
  · rename_i hi
    refine ⟨hi, ?_⟩
    split at h
    · rename_i hj
      split at h
      · rename_i hcovers
        exact Or.inl ⟨hj, hcovers, (Option.some.inj h).symm⟩
      · split at h
        · rename_i hcovers
          exact Or.inr (Or.inl ⟨hj, hcovers, (Option.some.inj h).symm⟩)
        · exact Or.inr (Or.inr (Or.inl ⟨hj, (Option.some.inj h).symm⟩))
    · rename_i hj
      exact Or.inr (Or.inr (Or.inr ⟨Nat.le_of_not_lt hj, (Option.some.inj h).symm⟩))
  · contradiction

theorem Scan.remaining_lt {scan next : Scan} (h : scan.step = some next) :
    next.remaining < scan.remaining := by
  -- each removal shortens the table, each other pass moves an index
  obtain ⟨hi, ⟨hj, -, rfl⟩ | ⟨hj, -, rfl⟩ | ⟨hj, rfl⟩ | ⟨hj, rfl⟩⟩ := Scan.step_cases h
  · unfold Scan.remaining
    dsimp only
    rw [Table.count_remove _ hj]
    have hrows : (scan.rules.count - 1 - scan.i) * (scan.rules.count - 1 + 2) ≤
        (scan.rules.count - scan.i) * (scan.rules.count + 2) :=
      Nat.mul_le_mul (by omega) (by omega)
    omega
  · unfold Scan.remaining
    dsimp only
    rw [Table.count_remove _ hi]
    have hrows : (scan.rules.count - 1 - scan.i) * (scan.rules.count - 1 + 2) ≤
        (scan.rules.count - scan.i - 1) * (scan.rules.count + 2) :=
      Nat.mul_le_mul (by omega) (by omega)
    have hrow : (scan.rules.count - scan.i) * (scan.rules.count + 2) =
        (scan.rules.count - scan.i - 1) * (scan.rules.count + 2) + (scan.rules.count + 2) := by
      rw [← Nat.succ_mul]
      congr 1
      omega
    omega
  · unfold Scan.remaining
    dsimp only
    omega
  · unfold Scan.remaining
    dsimp only
    have hrow : (scan.rules.count - scan.i) * (scan.rules.count + 2) =
        (scan.rules.count - (scan.i + 1)) * (scan.rules.count + 2) + (scan.rules.count + 2) := by
      rw [← Nat.succ_mul]
      congr 1
      omega
    omega

/-- The indices of a scan differ, and the table has kept its frames. -/
structure Scan.Keeps (rules : RuleTable) (scan : Scan) : Prop where
  ordered : scan.i < scan.j
  count : scan.rules.count ≤ rules.count
  accepts : ∀ frame, Accepts scan.rules frame ↔ Accepts rules frame

theorem Scan.Keeps.step {rules : RuleTable} {scan next : Scan} (h : scan.Keeps rules)
    (hstep : scan.step = some next) : next.Keeps rules := by
  obtain ⟨hordered, hcount, haccepts⟩ := h
  obtain ⟨hi, ⟨hj, hcovers, rfl⟩ | ⟨hj, hcovers, rfl⟩ | ⟨hj, rfl⟩ | ⟨hj, rfl⟩⟩ :=
    Scan.step_cases hstep
  · refine ⟨hordered, ?_, fun frame => ?_⟩
    · dsimp only
      rw [Table.count_remove _ hj]
      omega
    · rw [← haccepts]
      exact Table.any_remove hi hj (Nat.ne_of_lt hordered) (accepts_of_covers hcovers)
  · refine ⟨Nat.lt_succ_self _, ?_, fun frame => ?_⟩
    · dsimp only
      rw [Table.count_remove _ hi]
      omega
    · rw [← haccepts]
      exact Table.any_remove hj hi (Nat.ne_of_gt hordered) (accepts_of_covers hcovers)
  · exact ⟨Nat.lt_succ_of_lt hordered, hcount, haccepts⟩
  · exact ⟨Nat.lt_succ_self _, hcount, haccepts⟩

theorem filterCompact_keeps (rules : RuleTable) :
    Scan.Keeps rules (iterate Scan.step (Scan.start rules).remaining (Scan.start rules)) :=
  iterate_invariant (fun _ _ h hstep => Scan.Keeps.step h hstep) _
    ⟨Nat.zero_lt_one, Nat.le_refl _, fun _ => Iff.rfl⟩

theorem accepts_filterCompact (rules : RuleTable) (frame : StdFrame) :
    Accepts (filterCompact rules) frame ↔ Accepts rules frame :=
  (filterCompact_keeps rules).accepts frame

theorem count_filterCompact (rules : RuleTable) :
    (filterCompact rules).count ≤ rules.count :=
  (filterCompact_keeps rules).count

/-- The loops end by their own conditions. -/
theorem filterCompact_halts (rules : RuleTable) :
    Scan.step (iterate Scan.step (Scan.start rules).remaining (Scan.start rules)) = none :=
  iterate_halts (fun _ _ => Scan.remaining_lt) (Nat.le_refl _)

end CanopenRtt.Driver
