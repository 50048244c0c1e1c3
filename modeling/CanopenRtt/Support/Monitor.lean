import Mathlib.Tactic.Common
/-!
# Monitors

A monitor reads the events of a run one after the other and rejects the run at the first event
that it does not permit. Events that open and close one account alternate in an accepted run.
-/

namespace CanopenRtt.Support

variable {σ ε : Type*} {check : σ → ε → Option σ}

/-- The monitor permits all events and ends in `final`. -/
def Accepts (check : σ → ε → Option σ) (start : σ) (events : List ε) (final : σ) : Prop :=
  events.foldlM check start = some final

theorem accepts_nil {s t : σ} : Accepts check s [] t ↔ s = t := by
  unfold Accepts
  exact Option.some_inj

theorem accepts_cons {s t : σ} {event : ε} {events : List ε} :
    Accepts check s (event :: events) t ↔
      ∃ m, check s event = some m ∧ Accepts check m events t := by
  unfold Accepts
  rw [List.foldlM_cons]
  exact Option.bind_eq_some_iff

theorem accepts_singleton {s t : σ} {event : ε} :
    Accepts check s [event] t ↔ check s event = some t := by
  rw [accepts_cons]
  constructor
  · rintro ⟨m, hcheck, hnil⟩
    rw [accepts_nil] at hnil
    rw [← hnil]
    exact hcheck
  · exact fun hcheck => ⟨t, hcheck, accepts_nil.mpr rfl⟩

theorem Accepts.append {s m t : σ} {first second : List ε} (h : Accepts check s first m)
    (h' : Accepts check m second t) : Accepts check s (first ++ second) t := by
  unfold Accepts at h h' ⊢
  rw [List.foldlM_append, h]
  exact h'

/-- Events that do not move the monitor. -/
theorem accepts_of_idle {s : σ} {events : List ε} (h : ∀ event ∈ events, check s event = some s) :
    Accepts check s events s := by
  induction events with
  | nil => exact accepts_nil.mpr rfl
  | cons event events ih =>
      rw [List.forall_mem_cons] at h
      exact accepts_cons.mpr ⟨s, h.1, ih h.2⟩

/-- What holds of the monitor after each accepted event holds at the end. -/
theorem Accepts.invariant {Inv : σ → Prop} {s t : σ} {events : List ε}
    (h : Accepts check s events t)
    (hstep : ∀ s event t, Inv s → check s event = some t → Inv t) (hstart : Inv s) : Inv t := by
  induction events generalizing s with
  | nil =>
      rw [accepts_nil] at h
      rwa [← h]
  | cons event events ih =>
      obtain ⟨m, hcheck, hrest⟩ := accepts_cons.mp h
      exact ih hrest (hstep s event m hstart hcheck)

/-- Events that open an account and events that close it alternate. -/
theorem Accepts.countP {level : σ → Bool} {opens closes : ε → Bool} {s t : σ} {events : List ε}
    (h : Accepts check s events t)
    (hstep : ∀ s event t, check s event = some t →
      (level s).toNat + (opens event).toNat = (level t).toNat + (closes event).toNat) :
    (level s).toNat + events.countP opens = (level t).toNat + events.countP closes := by
  induction events generalizing s with
  | nil =>
      rw [accepts_nil] at h
      rw [h]
      rfl
  | cons event events ih =>
      obtain ⟨m, hcheck, hrest⟩ := accepts_cons.mp h
      have hevent := hstep s event m hcheck
      have hevents := ih hrest
      rw [List.countP_cons, List.countP_cons]
      cases hopens : opens event <;> cases hcloses : closes event <;>
        simp only [hopens, hcloses, Bool.toNat_true, Bool.toNat_false] at hevent ⊢ <;>
        simp only [if_true, Bool.false_eq_true, if_false] <;> omega

/-! ## Events that agree with what was before them -/

/-- Every event agrees with the events before it. -/
def EachAfter (agrees : List ε → ε → Prop) (events : List ε) : Prop :=
  ∀ before event after, events = before ++ event :: after → agrees before event

theorem eachAfter_nil {agrees : List ε → ε → Prop} : EachAfter agrees [] := by
  intro before event after hsplit
  simp at hsplit

theorem EachAfter.concat {agrees : List ε → ε → Prop} {events : List ε} {event : ε}
    (h : EachAfter agrees events) (hlast : agrees events event) :
    EachAfter agrees (events ++ [event]) := by
  intro before other after hsplit
  rcases List.eq_nil_or_concat after with rfl | ⟨initial, last, rfl⟩
  · obtain ⟨rfl, hsame⟩ := List.append_inj' hsplit rfl
    cases hsame
    exact hlast
  · rw [List.concat_eq_append, ← List.cons_append, ← List.append_assoc] at hsplit
    exact h before other initial (List.append_inj' hsplit rfl).1

end CanopenRtt.Support
