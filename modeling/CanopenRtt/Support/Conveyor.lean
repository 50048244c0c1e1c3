import Mathlib.Order.Monotone.Basic
import Mathlib.Order.Nat
/-!
# Orders that travel behind the positions they answer

An agent moves along the positions `0, 1, 2, …` and shows its position from time
to time. An observer reads what was shown, late but never backwards, and sends
the order that answers the position it has seen. Orders come into force in the
order they were sent. An agent that advances only under the order for its own
position is then never more than one step ahead of the order in force, and no
late order is for a position it has still to reach.
-/

namespace CanopenRtt.Support

/-- An order is named by the position it answers. The agent starts under the order
`base`, and everything sent or shown since is kept. -/
structure Conveyor where
  base : Nat
  sent : List Nat
  applied : Nat
  shown : List Nat
  observed : Nat
  position : Nat

namespace Conveyor

/-- The shown position that was observed last. -/
def seen (c : Conveyor) : Nat := c.shown.getD c.observed 0

/-- The order in force. -/
def inForce (c : Conveyor) : Nat := (c.sent.take c.applied).getLastD c.base

/-- Sent orders follow the observed positions, and observed positions the agent. -/
structure Ordered (c : Conveyor) : Prop where
  sent_sorted : c.sent.Pairwise (· ≤ ·)
  shown_sorted : c.shown.Pairwise (· ≤ ·)
  sent_le : ∀ order ∈ c.sent, c.base ≤ order ∧ order ≤ c.seen
  shown_le : ∀ shown ∈ c.shown, shown ≤ c.position
  observed_lt : c.observed < c.shown.length
  applied_le : c.applied ≤ c.sent.length
  lag : c.position ≤ c.inForce + 1

inductive Move (c : Conveyor) : Conveyor → Prop where
  | send (hseen : c.base ≤ c.seen) : Move c { c with sent := c.sent ++ [c.seen] }
  | apply (hsent : c.applied < c.sent.length) : Move c { c with applied := c.applied + 1 }
  | observe (index : Nat) (hforward : c.observed ≤ index) (hshown : index < c.shown.length) :
      Move c { c with observed := index }
  | publish : Move c { c with shown := c.shown ++ [c.position] }
  | advance (horder : c.position ≤ c.inForce) : Move c { c with position := c.position + 1 }

variable {c c' : Conveyor}

theorem seen_eq (h : c.observed < c.shown.length) : c.seen = c.shown[c.observed] := by
  rw [seen, List.getD_eq_getElem?_getD, List.getElem?_eq_getElem h, Option.getD_some]

theorem seen_publish (h : c.observed < c.shown.length) :
    ({ c with shown := c.shown ++ [c.position] } : Conveyor).seen = c.seen := by
  have hlater : c.observed < (c.shown ++ [c.position]).length := by
    rw [List.length_append]
    omega
  rw [@seen_eq { c with shown := c.shown ++ [c.position] } hlater, seen_eq h]
  exact List.getElem_append_left h

theorem Ordered.seen_mem (h : c.Ordered) : c.seen ∈ c.shown := by
  rw [seen_eq h.observed_lt]
  exact List.getElem_mem h.observed_lt

theorem Ordered.seen_le (h : c.Ordered) : c.seen ≤ c.position :=
  h.shown_le _ h.seen_mem

/-- What was shown earlier is not ahead of what was seen. -/
theorem Ordered.le_seen (h : c.Ordered) {index : Nat} (hindex : index ≤ c.observed)
    (hlt : index < c.shown.length) : c.shown[index] ≤ c.seen := by
  rw [seen_eq h.observed_lt]
  rcases hindex.eq_or_lt with rfl | hearlier
  · exact le_rfl
  · exact List.pairwise_iff_getElem.mp h.shown_sorted _ _ hlt h.observed_lt hearlier

/-- The order in force is the base order or one that was sent. -/
theorem inForce_cases (c : Conveyor) : c.inForce = c.base ∨ c.inForce ∈ c.sent := by
  unfold inForce
  cases hlast : (c.sent.take c.applied).getLast? with
  | none =>
      left
      rw [List.getLastD_eq_getLast?, hlast, Option.getD_none]
  | some order =>
      right
      rw [List.getLastD_eq_getLast?, hlast, Option.getD_some]
      exact List.mem_of_mem_take (List.mem_of_getLast? hlast)

theorem Ordered.base_le (h : c.Ordered) : c.base ≤ c.inForce := by
  rcases c.inForce_cases with hbase | hsent
  · exact hbase.ge
  · exact (h.sent_le _ hsent).1

/-- An order that has been sent answers no position ahead of the agent. -/
theorem Ordered.inForce_le (h : c.Ordered) : c.inForce = c.base ∨ c.inForce ≤ c.position := by
  rcases c.inForce_cases with hbase | hsent
  · exact .inl hbase
  · exact .inr ((h.sent_le _ hsent).2.trans h.seen_le)

theorem Ordered.inForce_le_seen (h : c.Ordered) (hbase : c.base ≤ c.seen) : c.inForce ≤ c.seen := by
  rcases c.inForce_cases with hfirst | hsent
  · rw [hfirst]
    exact hbase
  · exact (h.sent_le _ hsent).2

/-- The order in force is the last one of those applied. -/
theorem le_inForce (hsorted : c.sent.Pairwise (· ≤ ·)) {order : Nat}
    (hmem : order ∈ c.sent.take c.applied) : order ≤ c.inForce := by
  have hne : c.sent.take c.applied ≠ [] := List.ne_nil_of_mem hmem
  have htaken : (c.sent.take c.applied).Pairwise (· ≤ ·) :=
    hsorted.sublist (List.take_sublist _ _)
  rw [inForce, List.getLastD_eq_getLast?, List.getLast?_eq_some_getLast hne, Option.getD_some]
  rw [← List.dropLast_concat_getLast hne] at hmem htaken
  rcases List.mem_append.mp hmem with hfirst | hlast
  · exact (List.pairwise_append.mp htaken).2.2 _ hfirst _ (List.mem_singleton_self _)
  · exact (List.mem_singleton.mp hlast).le

theorem inForce_send (happlied : c.applied ≤ c.sent.length) (order : Nat) :
    ({ c with sent := c.sent ++ [order] } : Conveyor).inForce = c.inForce := by
  unfold inForce
  dsimp only
  rw [List.take_append_of_le_length happlied]

theorem inForce_apply (hsent : c.applied < c.sent.length) :
    ({ c with applied := c.applied + 1 } : Conveyor).inForce = c.sent[c.applied] := by
  unfold inForce
  dsimp only
  rw [List.take_succ_eq_append_getElem hsent, List.getLastD_concat]

/-- Orders come into force in the order of their positions. -/
theorem Ordered.inForce_le_next (h : c.Ordered) (hsent : c.applied < c.sent.length) :
    c.inForce ≤ c.sent[c.applied] := by
  have hsorted : ({ c with applied := c.applied + 1 } : Conveyor).sent.Pairwise (· ≤ ·) :=
    h.sent_sorted
  cases htaken : c.sent.take c.applied with
  | nil =>
      rw [inForce, htaken]
      exact (h.sent_le _ (List.getElem_mem hsent)).1
  | cons order orders =>
      have hmem : c.inForce ∈ c.sent.take c.applied := by
        rw [inForce, htaken, List.getLastD_eq_getLast?,
          List.getLast?_eq_some_getLast (List.cons_ne_nil _ _), Option.getD_some]
        exact List.getLast_mem _
      rw [← inForce_apply hsent]
      apply le_inForce hsorted
      have hgrown : c.sent.take c.applied <+: c.sent.take (c.applied + 1) :=
        List.take_prefix_take_left (Nat.le_succ _)
      exact hgrown.subset hmem

/-! ## Runs -/

/-- What a run may only add to. -/
structure Extends (c c' : Conveyor) : Prop where
  base : c'.base = c.base
  sent : c.sent <+: c'.sent
  applied : c.applied ≤ c'.applied
  shown : c.shown <+: c'.shown
  observed : c.observed ≤ c'.observed
  position : c.position ≤ c'.position

theorem Extends.refl (c : Conveyor) : c.Extends c :=
  ⟨rfl, List.prefix_rfl, le_rfl, List.prefix_rfl, le_rfl, le_rfl⟩

theorem Extends.trans {c₁ c₂ c₃ : Conveyor} (h₁ : c₁.Extends c₂) (h₂ : c₂.Extends c₃) :
    c₁.Extends c₃ where
  base := h₂.base.trans h₁.base
  sent := h₁.sent.trans h₂.sent
  applied := h₁.applied.trans h₂.applied
  shown := h₁.shown.trans h₂.shown
  observed := h₁.observed.trans h₂.observed
  position := h₁.position.trans h₂.position

theorem Move.extends (h : Move c c') : c.Extends c' := by
  have hrefl := Extends.refl c
  cases h with
  | send => exact { hrefl with sent := List.prefix_append _ _ }
  | apply => exact { hrefl with applied := Nat.le_succ _ }
  | observe index hforward => exact { hrefl with observed := hforward }
  | publish => exact { hrefl with shown := List.prefix_append _ _ }
  | advance => exact { hrefl with position := Nat.le_succ _ }

/-- Sorted lists stay sorted when nothing smaller is appended. -/
theorem pairwise_concat {orders : List Nat} (h : orders.Pairwise (· ≤ ·)) {last : Nat}
    (hle : ∀ order ∈ orders, order ≤ last) : (orders ++ [last]).Pairwise (· ≤ ·) := by
  rw [List.pairwise_append]
  refine ⟨h, List.pairwise_singleton _ _, ?_⟩
  intro order horder other hother
  rw [List.mem_singleton.mp hother]
  exact hle order horder

/-- Every move keeps the orders behind the positions. -/
theorem Ordered.move (h : c.Ordered) (hmove : Move c c') : c'.Ordered := by
  cases hmove with
  | send hseen =>
      have hinForce := inForce_send h.applied_le c.seen
      refine { h with sent_sorted := ?_, sent_le := ?_, applied_le := ?_, lag := ?_ }
      · exact pairwise_concat h.sent_sorted fun order horder => (h.sent_le order horder).2
      · intro order horder
        rcases List.mem_append.mp horder with hold | hnew
        · exact h.sent_le order hold
        · rw [List.mem_singleton.mp hnew]
          exact ⟨hseen, le_rfl⟩
      · have hlength : (c.sent ++ [c.seen]).length = c.sent.length + 1 := List.length_append
        have happlied := h.applied_le
        dsimp only
        omega
      · rw [hinForce]
        exact h.lag
  | apply hsent =>
      have hinForce := inForce_apply hsent
      refine { h with applied_le := hsent, lag := ?_ }
      have hbehind := h.inForce_le_next hsent
      have hlag := h.lag
      rw [hinForce]
      dsimp only
      omega
  | observe index hforward hshown =>
      have hseen : c.seen ≤ ({ c with observed := index } : Conveyor).seen := by
        rw [seen_eq h.observed_lt, seen_eq hshown]
        rcases hforward.eq_or_lt with heq | hlt
        · simp only [heq, le_refl]
        · exact List.pairwise_iff_getElem.mp h.shown_sorted _ _ _ _ hlt
      refine { h with sent_le := ?_, observed_lt := hshown }
      intro order horder
      obtain ⟨hbase, hle⟩ := h.sent_le order horder
      exact ⟨hbase, hle.trans hseen⟩
  | publish =>
      have hobserved : c.observed < (c.shown ++ [c.position]).length := by
        have hlt := h.observed_lt
        rw [List.length_append]
        omega
      have hseen := seen_publish h.observed_lt
      refine { h with shown_sorted := ?_, sent_le := ?_, shown_le := ?_, observed_lt := hobserved }
      · exact pairwise_concat h.shown_sorted h.shown_le
      · rw [hseen]
        exact h.sent_le
      · intro shown hmem
        rcases List.mem_append.mp hmem with hold | hnew
        · exact h.shown_le shown hold
        · exact (List.mem_singleton.mp hnew).le
  | advance horder =>
      refine { h with shown_le := ?_, lag := ?_ }
      · intro shown hmem
        exact (h.shown_le shown hmem).trans (Nat.le_succ _)
      · have hinForce :
            ({ c with position := c.position + 1 } : Conveyor).inForce = c.inForce := rfl
        rw [hinForce]
        dsimp only
        omega

/-- A conveyor whose later states only add to the earlier ones. -/
theorem extends_of_le {c : Nat → Conveyor} (h : ∀ n, (c n).Extends (c (n + 1))) {n m : Nat}
    (hle : n ≤ m) : (c n).Extends (c m) := by
  induction m, hle using Nat.le_induction with
  | base => exact Extends.refl _
  | succ m _ ih => exact ih.trans (h m)

/-- When every order sent is applied some day, an order once sent is some day in
force for good, or a later one is. -/
theorem inForce_of_sent {c : Nat → Conveyor} (hordered : ∀ n, (c n).Ordered)
    (hextends : ∀ n, (c n).Extends (c (n + 1)))
    (hdelivered : ∀ n, ∃ m, n ≤ m ∧ (c n).sent.length ≤ (c m).applied) {n order : Nat}
    (hsent : order ∈ (c n).sent) :
    ∃ m, n ≤ m ∧ ∀ k, m ≤ k → order ≤ (c k).inForce ∧ 0 < (c k).applied := by
  obtain ⟨m, hnm, happlied⟩ := hdelivered n
  refine ⟨m, hnm, fun k hmk => ?_⟩
  have hsentLater := (extends_of_le hextends (hnm.trans hmk)).sent
  have htaken := happlied.trans (extends_of_le hextends hmk).applied
  have hlength : 0 < (c n).sent.length := List.length_pos_of_mem hsent
  constructor
  · apply le_inForce (hordered k).sent_sorted
    exact (List.prefix_take_iff.mpr ⟨hsentLater, htaken⟩).subset hsent
  · omega

end Conveyor

end CanopenRtt.Support
