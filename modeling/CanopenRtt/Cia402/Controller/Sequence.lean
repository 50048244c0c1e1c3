import CanopenRtt.Cia402.Controller.Pulse
/-!
# A process call that sequences a target

A call with a fresh Statusword outside the fault path, a valid target and no
Fault Reset pulse runs the sequencer. The call that first sees a state always
commands it; a later one may find the transition timeout expired.
-/

namespace CanopenRtt.Cia402.Controller

/-- A fresh observation of a recognized state. -/
def Feedback.Shows (feedback : Feedback) (state : State) : Prop :=
  feedback.statuswordValid = true ∧ decodeStatusword feedback.statusword = state ∧ state ≠ .unknown

theorem view_of_shows {axis : Axis} {feedback : Feedback} {state : State}
    (h : feedback.Shows state) (timeDifference : UInt32) :
    (observe axis feedback timeDifference).1.view = some state := by
  obtain ⟨hvalid, hstate, hknown⟩ := h
  rw [view_observe, if_pos hvalid, recognize, hstate, if_neg hknown]

/-- What `observe` makes of a recognized Statusword. -/
theorem observe_of_shows {axis : Axis} {feedback : Feedback} {state : State}
    (h : feedback.Shows state) (timeDifference : UInt32) :
    observe axis feedback timeDifference =
      if axis.view = some state then
        ({ axis with
            feedbackElapsed := 0
            remoteStatusword := feedback.statusword
            remoteStatuswordInvalid := false }, false)
      else
        ({ axis with
            feedbackElapsed := 0
            remoteStatusword := feedback.statusword
            remoteState := state
            remoteStateValid := true
            remoteStatuswordInvalid := false
            transitionElapsed := 0
            transitionFrom := state
            pendingCommand := .unknown }, true) := by
  obtain ⟨hvalid, hstate, hknown⟩ := h
  unfold observe
  rw [if_pos hvalid]
  dsimp only
  rw [hstate, if_neg hknown]
  by_cases hview : axis.view = some state
  · rw [if_pos hview]
    obtain ⟨hold, hsame⟩ := Axis.view_eq_some_iff.mp hview
    obtain ⟨⟩ := axis
    dsimp only at hold hsame
    subst hold hsame
    simp
  · rw [if_neg hview]
    rw [Axis.view_eq_some_iff, not_and] at hview
    by_cases hold : axis.remoteStateValid = true
    · rw [if_pos (by simp [hold, hview hold])]
    · rw [if_pos (by simp [hold])]

/-- A fresh observation outside the fault path leaves the rest of the call to the
sequencer. -/
theorem process_of_shows {axis : Axis} {feedback : Feedback} {state : State}
    (h : feedback.Shows state) (hpulse : axis.faultResetPulseHigh = false)
    (htarget : axis.targetValid = true) (hnormal : state.faulted = false)
    (timeDifference : UInt32) :
    process axis feedback timeDifference =
      sequenceTarget
        { (observe axis feedback timeDifference).1 with faultResetRequested := false }
        (observe axis feedback timeDifference).2 timeDifference := by
  obtain ⟨hstale, hinvalid, hvalid, hstate⟩ :=
    observe_fresh axis timeDifference h.1 (by rw [h.2.1]; exact h.2.2)
  rw [h.2.1] at hstate
  have hreaction : state ≠ .faultReactionActive := by
    rintro rfl
    exact absurd hnormal (by decide)
  have hfault : state ≠ .fault := by
    rintro rfl
    exact absurd hnormal (by decide)
  unfold process processObserved
  dsimp only
  rw [if_neg (by simp [hpulse]), if_neg (by simp [hstale]), if_neg (by simp [hinvalid]),
    if_neg (by simp [hvalid]), if_neg (by rw [hstate]; exact hreaction),
    if_neg (by rw [hstate]; exact hfault), if_neg (by simp [htarget])]

theorem process_of_change {axis : Axis} {feedback : Feedback} {state : State}
    (h : feedback.Shows state) (hpulse : axis.faultResetPulseHigh = false)
    (htarget : axis.targetValid = true) (hnormal : state.faulted = false)
    (hchange : axis.view ≠ some state) (hdistant : state ≠ targetState axis.target)
    (hopen : (commandForTarget state axis.target).2 = false) (timeDifference : UInt32) :
    (process axis feedback timeDifference).2 =
      commandUpdate (commandForTarget state axis.target).1 {} := by
  rw [process_of_shows h hpulse htarget hnormal, observe_of_shows h, if_neg hchange]
  unfold sequenceTarget
  dsimp only
  rw [if_neg hdistant, if_neg (by simp [hopen])]
  have hfresh : ¬ (axis.config.transitionTimeout ≠ timeoutDisabled ∧
      axis.config.transitionTimeout ≤ 0) := by
    rintro ⟨hne, hle⟩
    exact hne (UInt32.le_antisymm hle (UInt32.zero_le))
  simp only [if_true]
  rw [if_neg hfresh]

/-- A call that sees a distant state commands it, or reports the transition timeout. -/
theorem process_of_distant {axis : Axis} {feedback : Feedback} {state : State}
    (h : feedback.Shows state) (hpulse : axis.faultResetPulseHigh = false)
    (htarget : axis.targetValid = true) (hnormal : state.faulted = false)
    (hdistant : state ≠ targetState axis.target)
    (hopen : (commandForTarget state axis.target).2 = false) (timeDifference : UInt32) :
    (process axis feedback timeDifference).2 =
        commandUpdate (commandForTarget state axis.target).1 {} ∨
      (process axis feedback timeDifference).1.result = .transitionTimeout := by
  have hstate : (observe axis feedback timeDifference).1.remoteState = state :=
    (Axis.view_eq_some_iff.mp (view_of_shows h timeDifference)).2
  have hsame := target_observe axis feedback timeDifference
  rw [process_of_shows h hpulse htarget hnormal]
  generalize observe axis feedback timeDifference = observed at hstate hsame ⊢
  unfold sequenceTarget setResult
  dsimp only
  rw [hstate, hsame, if_neg hdistant, if_neg (by simp [hopen])]
  split_ifs
  · exact .inr rfl
  · exact .inl rfl
  · exact .inr rfl
  · exact .inl rfl

theorem valid_commandUpdate {command : Command} (hknown : command ≠ .unknown) :
    (commandUpdate command {}).valid = true := by
  cases command <;> first | rfl | exact absurd rfl hknown

/-- What a call without a pulse and without a view of the fault path keeps, and what it
may emit. -/
structure Sequenced (axis : Axis) (outcome : Axis × ControlwordUpdate) : Prop where
  targetValid : outcome.1.targetValid = axis.targetValid
  target : outcome.1.target = axis.target
  low : outcome.1.faultResetPulseHigh = false
  view : outcome.1.view = axis.view
  command : outcome.2.valid = true → ∃ state, axis.view = some state ∧
    state ≠ targetState axis.target ∧
    outcome.2 = commandUpdate (commandForTarget state axis.target).1 {}

theorem Processed.sequenced {axis : Axis} {outcome : Axis × ControlwordUpdate}
    (h : Processed axis outcome) (hpulse : axis.faultResetPulseHigh = false)
    (hnormal : ∀ state, axis.view = some state → state.faulted = false) :
    Sequenced axis outcome := by
  have hsilent : ∀ {P : Prop}, ({} : ControlwordUpdate).valid = true → P :=
    fun hvalid => absurd hvalid Bool.false_ne_true
  cases h with
  | low result hhigh => exact absurd (hpulse.symm.trans hhigh) Bool.false_ne_true
  | blind => exact ⟨rfl, rfl, hpulse, rfl, hsilent⟩
  | reaction _ hview => exact absurd (hnormal _ hview) (by decide)
  | faulted _ hview => exact absurd (hnormal _ hview) (by decide)
  | high _ hview => exact absurd (hnormal _ hview) (by decide)
  | silent => exact ⟨rfl, rfl, hpulse, rfl, hsilent⟩
  | command transition _ state hview _ _ hdistant =>
      exact ⟨rfl, rfl, hpulse, rfl, fun _ => ⟨state, hview, hdistant, rfl⟩⟩

end CanopenRtt.Cia402.Controller
