import CanopenRtt.Support.Outputs
import CanopenRtt.Cia402.Controller.Core
/-!
# The Fault Reset pulse of the Controller core

A run of the Controller is a list of calls. What one process call may do is said
once, by cases; the order of the emitted updates, the origin of a Fault Reset
high and the life of a motion target follow from it.
-/

namespace CanopenRtt.Cia402.Controller

open CanopenRtt.Support

/-- A call of the Controller API on one axis. -/
inductive Call where
  | setTarget (code : Int)
  | clearTarget
  | requestFaultReset
  | reset
  | process (feedback : Option Feedback) (timeDifference : UInt32) (updateGiven : Bool)
  deriving DecidableEq

def step (axis : Axis) : Call → Axis
  | .setTarget code => (setTarget axis code).1
  | .clearTarget => clearTarget axis
  | .requestFaultReset => (requestFaultReset axis).1
  | .reset => reset axis
  | .process feedback timeDifference updateGiven =>
      (processCall axis feedback timeDifference updateGiven).1

/-- The update a call returns, when it is valid. -/
def emitted (axis : Axis) : Call → Option ControlwordUpdate
  | .process feedback timeDifference updateGiven =>
      let update := (processCall axis feedback timeDifference updateGiven).2
      if update.valid then some update else none
  | _ => none

/-- The axis after a list of calls. -/
def axisAfter (config : Config) (calls : List Call) : Axis :=
  run step (init config) calls

/-- The updates emitted by a list of calls, in order. -/
def updates (config : Config) (calls : List Call) : List ControlwordUpdate :=
  outputs step emitted (init config) calls

/-! ## The last recognized remote state -/

/-- The remote state a Statusword shows. -/
def recognize (statusword : Word) : Option State :=
  if decodeStatusword statusword = .unknown then none else some (decodeStatusword statusword)

/-- What a call changes in the last recognized remote state. -/
def recognizeStep (view : Option State) : Call → Option State
  | .process (some feedback) _ true =>
      if feedback.statuswordValid then recognize feedback.statusword else view
  | .reset => none
  | _ => view

/-- The last recognized remote state, read off the calls. -/
def recognized (calls : List Call) : Option State :=
  run recognizeStep none calls

def Axis.view (axis : Axis) : Option State :=
  if axis.remoteStateValid then some axis.remoteState else none

theorem Axis.view_eq_some_iff {axis : Axis} {state : State} :
    axis.view = some state ↔ axis.remoteStateValid = true ∧ axis.remoteState = state := by
  unfold Axis.view
  split_ifs with hvalid <;> simp [hvalid]

/-! ## One process call -/

/-- What `observe` does to the axis: a new view, and the timers. -/
theorem observe_frame (axis : Axis) (feedback : Feedback) (timeDifference : UInt32) :
    ∃ state statusword valid invalid transition age start pending,
      (observe axis feedback timeDifference).1 =
        { axis with
          remoteState := state
          remoteStatusword := statusword
          remoteStateValid := valid
          remoteStatuswordInvalid := invalid
          transitionElapsed := transition
          feedbackElapsed := age
          transitionFrom := start
          pendingCommand := pending } := by
  unfold observe
  dsimp only
  split_ifs <;> exact ⟨_, _, _, _, _, _, _, _, rfl⟩

@[simp] theorem targetValid_observe (axis : Axis) (feedback : Feedback)
    (timeDifference : UInt32) :
    (observe axis feedback timeDifference).1.targetValid = axis.targetValid := by
  obtain ⟨_, _, _, _, _, _, _, _, hframe⟩ := observe_frame axis feedback timeDifference
  rw [hframe]

@[simp] theorem target_observe (axis : Axis) (feedback : Feedback) (timeDifference : UInt32) :
    (observe axis feedback timeDifference).1.target = axis.target := by
  obtain ⟨_, _, _, _, _, _, _, _, hframe⟩ := observe_frame axis feedback timeDifference
  rw [hframe]

@[simp] theorem faultResetRequested_observe (axis : Axis) (feedback : Feedback)
    (timeDifference : UInt32) :
    (observe axis feedback timeDifference).1.faultResetRequested = axis.faultResetRequested := by
  obtain ⟨_, _, _, _, _, _, _, _, hframe⟩ := observe_frame axis feedback timeDifference
  rw [hframe]

@[simp] theorem faultResetPulseHigh_observe (axis : Axis) (feedback : Feedback)
    (timeDifference : UInt32) :
    (observe axis feedback timeDifference).1.faultResetPulseHigh = axis.faultResetPulseHigh := by
  obtain ⟨_, _, _, _, _, _, _, _, hframe⟩ := observe_frame axis feedback timeDifference
  rw [hframe]

theorem view_observe (axis : Axis) (feedback : Feedback) (timeDifference : UInt32) :
    (observe axis feedback timeDifference).1.view =
      if feedback.statuswordValid then recognize feedback.statusword else axis.view := by
  unfold observe recognize
  by_cases hvalid : feedback.statuswordValid = true
  · rw [if_pos hvalid, if_pos hvalid]
    dsimp only
    by_cases hunknown : decodeStatusword feedback.statusword = .unknown
    · rw [if_pos hunknown, if_pos hunknown]
      rfl
    · rw [if_neg hunknown, if_neg hunknown]
      split_ifs <;> rfl
  · rw [if_neg hvalid, if_neg hvalid]
    dsimp only
    unfold Axis.view
    rfl

/-- A fresh recognized Statusword is neither stale nor invalid. -/
theorem observe_fresh (axis : Axis) {feedback : Feedback} (timeDifference : UInt32)
    (hvalid : feedback.statuswordValid = true)
    (hknown : decodeStatusword feedback.statusword ≠ .unknown) :
    feedbackTimedOut (observe axis feedback timeDifference).1 = false ∧
      (observe axis feedback timeDifference).1.remoteStatuswordInvalid = false ∧
      (observe axis feedback timeDifference).1.remoteStateValid = true ∧
      (observe axis feedback timeDifference).1.remoteState =
        decodeStatusword feedback.statusword := by
  have hfresh : ∀ timeout : UInt32, ¬ (timeout ≠ timeoutDisabled ∧ timeout ≤ 0) := by
    rintro timeout ⟨hne, hle⟩
    exact hne (UInt32.le_antisymm hle (UInt32.zero_le))
  unfold observe
  generalize decodeStatusword feedback.statusword = decoded at hknown ⊢
  rw [if_pos hvalid]
  dsimp only
  rw [if_neg hknown]
  split_ifs <;> simpa [feedbackTimedOut] using hfresh axis.config.feedbackTimeout

/-- No current view of the remote state. -/
def Axis.Blind (axis : Axis) : Prop :=
  feedbackTimedOut axis = true ∨ axis.remoteStatuswordInvalid = true ∨ axis.remoteStateValid = false

/-- What the part of a process call after `observe` may do. -/
inductive Processed (axis : Axis) : Axis × ControlwordUpdate → Prop where
  /-- the low update that ends a pulse -/
  | low (result : Result) (hpulse : axis.faultResetPulseHigh = true) :
      Processed axis
        ({ axis with
            faultResetPulseHigh := false
            pendingCommand := .disableVoltage
            result := result }, lowUpdate)
  /-- no current view of the remote state -/
  | blind (result : Result) (hpulse : axis.faultResetPulseHigh = false)
      (hblind : axis.Blind) :
      Processed axis ({ axis with result := result }, {})
  | reaction (hpulse : axis.faultResetPulseHigh = false)
      (hview : axis.view = some .faultReactionActive) :
      Processed axis
        (setResult { clearTargetRuntime axis with faultResetRequested := false }
          .waitFaultReaction, {})
  | faulted (hpulse : axis.faultResetPulseHigh = false) (hview : axis.view = some .fault)
      (hrequest : axis.faultResetRequested = false) :
      Processed axis (setResult (clearTargetRuntime axis) .remoteFault, {})
  /-- the high update that starts a pulse -/
  | high (hpulse : axis.faultResetPulseHigh = false) (hview : axis.view = some .fault)
      (hrequest : axis.faultResetRequested = true) :
      Processed axis
        (setResult { clearTargetRuntime axis with
            faultResetRequested := false
            faultResetPulseHigh := true
            pendingCommand := .faultReset } .inProgress,
          { value := 0x0080, mask := pdsControlwordMask, valid := true })
  /-- outside the fault path, without an update -/
  | silent (transition : UInt32) (result : Result) (hpulse : axis.faultResetPulseHigh = false)
      (state : State) (hview : axis.view = some state) (hstate : state.faulted = false) :
      Processed axis
        ({ axis with
            faultResetRequested := false
            transitionElapsed := transition
            pendingCommand := .unknown
            result := result }, {})
  /-- outside the fault path, the next command towards the target -/
  | command (transition : UInt32) (hpulse : axis.faultResetPulseHigh = false)
      (state : State) (hview : axis.view = some state) (hstate : state.faulted = false)
      (htarget : axis.targetValid = true) (hdistant : state ≠ targetState axis.target)
      (hopen : (commandForTarget state axis.target).2 = false) :
      Processed axis
        ({ axis with
            faultResetRequested := false
            transitionElapsed := transition
            pendingCommand := (commandForTarget state axis.target).1
            result := .inProgress },
          commandUpdate (commandForTarget state axis.target).1 {})

theorem processed_deassertPulse {axis : Axis} (hpulse : axis.faultResetPulseHigh = true) :
    Processed axis (deassertPulse axis) := by
  unfold deassertPulse setResult
  dsimp only
  split_ifs
  · exact .low .feedbackTimeout hpulse
  · exact .low .statusUnknown hpulse
  · exact .low .remoteFault hpulse
  · exact .low .idle hpulse

theorem processed_sequenceTarget {axis : Axis} {state : State}
    (hpulse : axis.faultResetPulseHigh = false) (hview : axis.view = some state)
    (hstate : state.faulted = false) (htarget : axis.targetValid = true) (stateChanged : Bool)
    (timeDifference : UInt32) :
    Processed axis
      (sequenceTarget { axis with faultResetRequested := false } stateChanged timeDifference) := by
  obtain ⟨-, rfl⟩ := Axis.view_eq_some_iff.mp hview
  unfold sequenceTarget setResult
  dsimp only
  split_ifs with hreached hblocked hchanged htimeout htimeout
  · exact .silent 0 .targetReached hpulse _ hview hstate
  · exact .silent _ .policyBlocked hpulse _ hview hstate
  · exact .silent _ .transitionTimeout hpulse _ hview hstate
  · exact .command _ hpulse _ hview hstate htarget hreached (Bool.not_eq_true _ ▸ hblocked)
  · exact .silent _ .transitionTimeout hpulse _ hview hstate
  · exact .command _ hpulse _ hview hstate htarget hreached (Bool.not_eq_true _ ▸ hblocked)

theorem processed_observed (axis : Axis) (stateChanged : Bool) (timeDifference : UInt32) :
    Processed axis (processObserved axis stateChanged timeDifference) := by
  unfold processObserved
  dsimp only
  by_cases hpulse : axis.faultResetPulseHigh = true
  · rw [if_pos hpulse]
    exact processed_deassertPulse hpulse
  rw [if_neg hpulse]
  rw [Bool.not_eq_true] at hpulse
  by_cases hstale : feedbackTimedOut axis = true
  · rw [if_pos hstale]
    exact .blind .feedbackTimeout hpulse (Or.inl hstale)
  rw [if_neg hstale]
  by_cases hinvalid : axis.remoteStatuswordInvalid = true
  · rw [if_pos hinvalid]
    exact .blind .statusUnknown hpulse (Or.inr (Or.inl hinvalid))
  rw [if_neg hinvalid]
  by_cases hvalid : axis.remoteStateValid = true
  · have hview : axis.view = some axis.remoteState := Axis.view_eq_some_iff.mpr ⟨hvalid, rfl⟩
    rw [if_neg (by simp [hvalid])]
    by_cases hreaction : axis.remoteState = .faultReactionActive
    · rw [if_pos hreaction]
      exact .reaction hpulse (hreaction ▸ hview)
    rw [if_neg hreaction]
    by_cases hfault : axis.remoteState = .fault
    · rw [if_pos hfault]
      rw [hfault] at hview
      by_cases hrequest : axis.faultResetRequested = true
      · exact if_pos hrequest ▸ .high hpulse hview hrequest
      · exact if_neg hrequest ▸ .faulted hpulse hview (by simpa using hrequest)
    rw [if_neg hfault]
    have hstate : axis.remoteState.faulted = false := by
      rw [← Bool.not_eq_true, faulted_iff]
      rintro (h | h)
      · exact hreaction h
      · exact hfault h
    by_cases htarget : axis.targetValid = true
    · rw [if_neg (by simp [htarget])]
      exact processed_sequenceTarget hpulse hview hstate htarget stateChanged timeDifference
    · rw [if_pos (by simpa using htarget)]
      exact .silent 0 .idle hpulse _ hview hstate
  · rw [if_pos (by simpa using hvalid)]
    exact .blind _ hpulse (Or.inr (Or.inr (by simpa using hvalid)))

theorem process_processed (axis : Axis) (feedback : Feedback) (timeDifference : UInt32) :
    Processed (observe axis feedback timeDifference).1 (process axis feedback timeDifference) :=
  processed_observed _ _ _

/-- A blind call has the old view, or none. -/
theorem view_of_blind {axis : Axis} {feedback : Feedback} {timeDifference : UInt32}
    (hblind : (observe axis feedback timeDifference).1.Blind) :
    (observe axis feedback timeDifference).1.view = none ∨
      (observe axis feedback timeDifference).1.view = axis.view := by
  have hview := view_observe axis feedback timeDifference
  by_cases hvalid : feedback.statuswordValid = true
  · rw [if_pos hvalid, recognize] at hview
    by_cases hunknown : decodeStatusword feedback.statusword = .unknown
    · rw [if_pos hunknown] at hview
      exact Or.inl hview
    · obtain ⟨hfresh, hinvalid, hknown, -⟩ :=
        observe_fresh axis timeDifference hvalid hunknown
      rw [Axis.Blind, hfresh, hinvalid, hknown] at hblind
      simp at hblind
  · rw [if_neg hvalid] at hview
    exact Or.inr hview

/-! ## Bit 7 of an update -/

def ControlwordUpdate.high (update : ControlwordUpdate) : Bool :=
  update.valid && faultResetBit update.value

theorem high_commandForTarget (state : State) (target : Target) :
    (commandUpdate (commandForTarget state target).1 {}).high = false := by
  rw [← Bool.not_eq_true, ControlwordUpdate.high, Bool.and_eq_true]
  rintro ⟨-, hbit⟩
  exact commandForTarget_ne_faultReset state target ((faultResetBit_commandUpdate _).mp hbit)

theorem high_lowUpdate : lowUpdate.high = false := by decide

theorem high_empty : ControlwordUpdate.high {} = false := by decide

theorem high_faultReset :
    ControlwordUpdate.high { value := 0x0080, mask := pdsControlwordMask, valid := true } =
      true := by
  decide

/-- The pulse flag after a process call is the bit 7 of its update. -/
theorem Processed.pulse_eq_high {axis : Axis} {outcome : Axis × ControlwordUpdate}
    (h : Processed axis outcome) : outcome.1.faultResetPulseHigh = outcome.2.high := by
  cases h with
  | low result hpulse => exact high_lowUpdate.symm
  | blind result hpulse hblind => exact hpulse
  | reaction hpulse hview => exact hpulse
  | faulted hpulse hview hrequest => exact hpulse
  | high hpulse hview hrequest => exact high_faultReset.symm
  | silent transition result hpulse state hview hstate => exact hpulse
  | command transition hpulse state hview hstate htarget hdistant hopen =>
      rw [high_commandForTarget]
      exact hpulse

/-- A high update comes from a request, in a call that has FAULT in view. -/
theorem Processed.of_high {axis : Axis} {outcome : Axis × ControlwordUpdate}
    (h : Processed axis outcome) (hhigh : outcome.2.high = true) :
    axis.view = some .fault ∧ axis.faultResetRequested = true := by
  cases h with
  | high hpulse hview hrequest => exact ⟨hview, hrequest⟩
  | command transition hpulse state hview hstate htarget hdistant hopen =>
      rw [high_commandForTarget] at hhigh
      contradiction
  | low result hpulse => exact absurd (high_lowUpdate.symm.trans hhigh) Bool.false_ne_true
  | _ => exact absurd (high_empty.symm.trans hhigh) Bool.false_ne_true

/-- While a pulse is high the next update is the low one. -/
theorem Processed.of_pulse {axis : Axis} {outcome : Axis × ControlwordUpdate}
    (h : Processed axis outcome) (hpulse : axis.faultResetPulseHigh = true) :
    outcome.2 = lowUpdate := by
  cases h with
  | low result hpulse => rfl
  | _ => simp_all

/-! ## The recovery invariant -/

/-- A motion target and the recovery from a fault exclude each other. -/
structure Recovering (axis : Axis) : Prop where
  pulse : axis.faultResetPulseHigh = true →
    axis.targetValid = false ∧ axis.faultResetRequested = false
  requested : axis.faultResetRequested = true → axis.targetValid = false
  faulted : ∀ state, axis.view = some state → state.faulted = true → axis.targetValid = false

theorem recovering_init (config : Config) : Recovering (init config) where
  pulse := fun _ => ⟨rfl, rfl⟩
  requested := fun _ => rfl
  faulted := fun _ _ _ => rfl

theorem recovering_reset (axis : Axis) : Recovering (reset axis) where
  pulse := fun _ => ⟨rfl, rfl⟩
  requested := fun _ => rfl
  faulted := fun _ _ _ => rfl

/-- An accepted target is set outside recovery, and is the only thing set. -/
theorem setTarget_cases (axis : Axis) (code : Int) :
    (setTarget axis code).1 = axis ∨
      ∃ target transition start pending result,
        (setTarget axis code).1 =
          { axis with
            target := target
            targetValid := true
            transitionElapsed := transition
            transitionFrom := start
            pendingCommand := pending
            result := result } ∧
          (setTarget axis code).2 = true ∧ targetOfCode code = some target ∧
          axis.faultResetRequested = false ∧ axis.faultResetPulseHigh = false ∧
          ∀ state, axis.view = some state → state.faulted = false := by
  unfold setTarget
  cases hcode : targetOfCode code with
  | none => exact Or.inl rfl
  | some target =>
      dsimp only
      by_cases hrecovery : (axis.faultResetRequested || axis.faultResetPulseHigh
          || (axis.remoteStateValid && axis.remoteState.faulted)) = true
      · rw [if_pos hrecovery]
        exact Or.inl rfl
      rw [if_neg hrecovery]
      by_cases hrepeated : (axis.targetValid && decide (axis.target = target)) = true
      · rw [if_pos hrepeated]
        exact Or.inl rfl
      · rw [if_neg hrepeated]
        right
        simp only [Bool.or_eq_true, not_or, Bool.not_eq_true] at hrecovery
        obtain ⟨⟨hrequested, hpulse⟩, hfaulted⟩ := hrecovery
        refine ⟨target, _, _, _, _, rfl, rfl, rfl, hrequested, hpulse, ?_⟩
        intro state hview
        obtain ⟨hvalid, rfl⟩ := Axis.view_eq_some_iff.mp hview
        simpa [hvalid] using hfaulted

theorem recovering_setTarget {axis : Axis} (h : Recovering axis) (code : Int) :
    Recovering (setTarget axis code).1 := by
  rcases setTarget_cases axis code with
    hsame | ⟨target, _, _, _, _, hset, -, -, hreq, hpulse, hview⟩
  · rw [hsame]
    exact h
  · rw [hset]
    exact {
      pulse := fun h => absurd h (by simp [hpulse])
      requested := fun h => absurd h (by simp [hreq])
      faulted := fun state h hfaulted => absurd (hview state h) (by simp [hfaulted]) }

theorem recovering_clearTarget {axis : Axis} (h : Recovering axis) :
    Recovering (clearTarget axis) where
  pulse := fun hpulse => ⟨rfl, (h.pulse hpulse).2⟩
  requested := fun _ => rfl
  faulted := fun _ _ _ => rfl

/-- An accepted request is made in FAULT, and is the only thing set. -/
theorem requestFaultReset_cases (axis : Axis) :
    (requestFaultReset axis).1 = axis ∧ (requestFaultReset axis).2 = false ∨
      (requestFaultReset axis).1 = { axis with faultResetRequested := true } ∧
        (requestFaultReset axis).2 = true ∧ axis.view = some .fault ∧
        axis.faultResetPulseHigh = false := by
  unfold requestFaultReset
  split_ifs with hrejected
  · exact Or.inl ⟨rfl, rfl⟩
  · right
    simp only [Bool.or_eq_true, not_or, Bool.not_eq_true, Bool.not_eq_false', decide_eq_true_eq,
      ne_eq, not_not] at hrejected
    obtain ⟨⟨⟨hvalid, hfault⟩, -⟩, hpulse⟩ := hrejected
    exact ⟨rfl, rfl, Axis.view_eq_some_iff.mpr ⟨by simpa using hvalid, by simpa using hfault⟩,
      hpulse⟩

theorem recovering_requestFaultReset {axis : Axis} (h : Recovering axis) :
    Recovering (requestFaultReset axis).1 := by
  rcases requestFaultReset_cases axis with ⟨hsame, -⟩ | ⟨hset, -, hview, hpulse⟩
  · rw [hsame]
    exact h
  · rw [hset]
    exact {
      pulse := fun h => absurd h (by simp [hpulse])
      requested := fun _ => h.faulted .fault hview rfl
      faulted := h.faulted }

theorem recovering_setResult {axis : Axis} (h : Recovering axis) (result : Result) :
    Recovering (setResult axis result) where
  pulse := h.pulse
  requested := h.requested
  faulted := h.faulted

theorem Processed.view_eq {axis : Axis} {outcome : Axis × ControlwordUpdate}
    (h : Processed axis outcome) : outcome.1.view = axis.view := by
  cases h <;> rfl

theorem Processed.recovering {axis : Axis} {outcome : Axis × ControlwordUpdate}
    (h : Processed axis outcome)
    (hpulse : axis.faultResetPulseHigh = true →
      axis.targetValid = false ∧ axis.faultResetRequested = false)
    (hrequested : axis.faultResetRequested = true → axis.targetValid = false)
    (hfaulted : axis.Blind → ∀ state, axis.view = some state → state.faulted = true →
      axis.targetValid = false) :
    Recovering outcome.1 := by
  have hview := h.view_eq
  cases h with
  | low result hhigh =>
      obtain ⟨htarget, hrequest⟩ := hpulse hhigh
      exact ⟨fun _ => ⟨htarget, hrequest⟩, fun _ => htarget, fun _ _ _ => htarget⟩
  | blind result hlow hblind => exact ⟨hpulse, hrequested, hfaulted hblind⟩
  | reaction hlow hreaction => exact ⟨fun _ => ⟨rfl, rfl⟩, fun _ => rfl, fun _ _ _ => rfl⟩
  | faulted hlow hfault hrequest =>
      exact ⟨fun _ => ⟨rfl, hrequest⟩, fun _ => rfl, fun _ _ _ => rfl⟩
  | high hlow hfault hrequest => exact ⟨fun _ => ⟨rfl, rfl⟩, fun _ => rfl, fun _ _ _ => rfl⟩
  | silent transition result hlow state hstate hoperational
  | command transition hlow state hstate hoperational =>
      refine ⟨fun hhigh => ?_, fun hrequest => ?_, fun other hother hfault => ?_⟩
      · exact absurd (hlow.symm.trans hhigh) Bool.false_ne_true
      · exact absurd hrequest Bool.false_ne_true
      · rw [hview, hstate, Option.some.injEq] at hother
        rw [← hother, hoperational] at hfault
        exact absurd hfault Bool.false_ne_true

theorem recovering_process {axis : Axis} (h : Recovering axis) (feedback : Feedback)
    (timeDifference : UInt32) : Recovering (process axis feedback timeDifference).1 := by
  refine (process_processed axis feedback timeDifference).recovering ?_ ?_ ?_
  · simpa using h.pulse
  · simpa using h.requested
  · intro hblind state hview hfault
    rw [targetValid_observe]
    rcases view_of_blind hblind with hnone | hold
    · rw [hnone] at hview
      contradiction
    · exact h.faulted state (hold ▸ hview) hfault

theorem recovering_step {axis : Axis} (h : Recovering axis) (call : Call) :
    Recovering (step axis call) := by
  cases call with
  | setTarget code => exact recovering_setTarget h code
  | clearTarget => exact recovering_clearTarget h
  | requestFaultReset => exact recovering_requestFaultReset h
  | reset => exact recovering_reset axis
  | process feedback timeDifference updateGiven =>
      cases feedback with
      | none => exact recovering_setResult h .statusUnknown
      | some feedback =>
          cases updateGiven with
          | false => exact recovering_setResult h .statusUnknown
          | true => exact recovering_process h feedback timeDifference

/-! ## The view of a run -/

theorem view_step (axis : Axis) (call : Call) :
    (step axis call).view = recognizeStep axis.view call := by
  cases call with
  | setTarget code =>
      rcases setTarget_cases axis code with hsame | ⟨_, _, _, _, _, hset, -⟩
      · exact congrArg Axis.view hsame
      · exact (congrArg Axis.view hset).trans rfl
  | clearTarget => rfl
  | requestFaultReset =>
      rcases requestFaultReset_cases axis with ⟨hsame, -⟩ | ⟨hset, -⟩
      · exact congrArg Axis.view hsame
      · exact (congrArg Axis.view hset).trans rfl
  | reset => rfl
  | process feedback timeDifference updateGiven =>
      cases feedback with
      | none => rfl
      | some feedback =>
          cases updateGiven with
          | false => rfl
          | true =>
              exact (process_processed axis feedback timeDifference).view_eq.trans
                (view_observe axis feedback timeDifference)

theorem view_axisAfter (config : Config) (calls : List Call) :
    (axisAfter config calls).view = recognized calls := by
  unfold axisAfter recognized
  induction calls using List.reverseRecOn with
  | nil => rfl
  | append_singleton calls call ih => rw [run_concat, run_concat, view_step, ih]

/-! ## The emitted updates -/

theorem emitted_eq_some_iff {axis : Axis} {call : Call} {update : ControlwordUpdate} :
    emitted axis call = some update ↔
      ∃ feedback timeDifference, call = .process (some feedback) timeDifference true ∧
        (process axis feedback timeDifference).2 = update ∧ update.valid = true := by
  constructor
  · intro h
    cases call with
    | process feedback timeDifference updateGiven =>
        cases feedback with
        | none => exact absurd h (by simp [emitted, processCall])
        | some feedback =>
            cases updateGiven with
            | false => exact absurd h (by simp [emitted, processCall])
            | true =>
                by_cases hvalid : (process axis feedback timeDifference).2.valid = true
                · have hupdate : some (process axis feedback timeDifference).2 = some update :=
                    (if_pos hvalid).symm.trans h
                  obtain rfl := Option.some.inj hupdate
                  exact ⟨feedback, timeDifference, rfl, rfl, hvalid⟩
                · exact absurd ((if_neg hvalid).symm.trans h) (by simp)
    | _ => exact absurd h (by simp [emitted])
  · rintro ⟨feedback, timeDifference, rfl, rfl, hvalid⟩
    exact if_pos hvalid

theorem ControlwordUpdate.valid_of_high {update : ControlwordUpdate}
    (h : update.high = true) : update.valid = true :=
  (Bool.and_eq_true _ _ ▸ h).1

theorem emitted_process {axis : Axis} {feedback : Feedback} {timeDifference : UInt32}
    (h : (process axis feedback timeDifference).2.valid = true) :
    emitted axis (.process (some feedback) timeDifference true) =
      some (process axis feedback timeDifference).2 :=
  if_pos h

/-- A pulse is ended by the next valid process call. -/
theorem process_of_pulse {axis : Axis} (h : axis.faultResetPulseHigh = true)
    (feedback : Feedback) (timeDifference : UInt32) :
    (process axis feedback timeDifference).2 = lowUpdate := by
  apply (process_processed axis feedback timeDifference).of_pulse
  rw [faultResetPulseHigh_observe]
  exact h

/-- A call which emits nothing keeps the pulse flag. -/
theorem pulse_of_silent {axis : Axis} {call : Call} (h : emitted axis call = none) :
    (step axis call).faultResetPulseHigh = axis.faultResetPulseHigh := by
  cases call with
  | setTarget code =>
      rcases setTarget_cases axis code with hsame | ⟨_, _, _, _, _, hset, -⟩
      · exact congrArg Axis.faultResetPulseHigh hsame
      · exact (congrArg Axis.faultResetPulseHigh hset).trans rfl
  | clearTarget => rfl
  | requestFaultReset =>
      rcases requestFaultReset_cases axis with ⟨hsame, -⟩ | ⟨hset, -⟩
      · exact congrArg Axis.faultResetPulseHigh hsame
      · exact (congrArg Axis.faultResetPulseHigh hset).trans rfl
  | reset => rfl
  | process feedback timeDifference updateGiven =>
      cases feedback with
      | none => rfl
      | some feedback =>
          cases updateGiven with
          | false => rfl
          | true =>
              have hnew := (process_processed axis feedback timeDifference).pulse_eq_high
              have hlow : (process axis feedback timeDifference).2.high = false := by
                rw [← Bool.not_eq_true]
                intro hhigh
                rw [emitted_process (ControlwordUpdate.valid_of_high hhigh)] at h
                contradiction
              have hold : axis.faultResetPulseHigh = false := by
                rw [← Bool.not_eq_true]
                intro hpulse
                have hupdate := process_of_pulse hpulse feedback timeDifference
                have hvalid : (process axis feedback timeDifference).2.valid = true := by
                  rw [hupdate]
                  rfl
                rw [emitted_process hvalid] at h
                contradiction
              rw [hold, ← hlow]
              exact hnew

/-- The pulse flag remembers the bit 7 of the last update. -/
def PulseLatch (axis : Axis) (last : Option ControlwordUpdate) : Prop :=
  axis.faultResetPulseHigh = true ↔ ∃ update, last = some update ∧ update.high = true

theorem pulseLatch_silent (axis : Axis) (call : Call) (last : Option ControlwordUpdate)
    (h : PulseLatch axis last) (hsilent : emitted axis call = none) :
    PulseLatch (step axis call) last := by
  unfold PulseLatch
  rw [pulse_of_silent hsilent]
  exact h

theorem pulseLatch_emitted (axis : Axis) (call : Call) (last : Option ControlwordUpdate)
    (update : ControlwordUpdate) (_ : PulseLatch axis last)
    (hemitted : emitted axis call = some update) :
    PulseLatch (step axis call) (some update) := by
  obtain ⟨feedback, timeDifference, rfl, rfl, -⟩ := emitted_eq_some_iff.mp hemitted
  have hpulse : (step axis (.process (some feedback) timeDifference true)).faultResetPulseHigh =
      (process axis feedback timeDifference).2.high :=
    (process_processed axis feedback timeDifference).pulse_eq_high
  unfold PulseLatch
  rw [hpulse]
  simp

theorem pulseLatch_init (config : Config) : PulseLatch (init config) none := by
  simp [PulseLatch, init]

theorem pulseLatch_axisAfter (config : Config) (calls : List Call) :
    PulseLatch (axisAfter config calls) (updates config calls).getLast? :=
  lastOutput_invariant pulseLatch_silent pulseLatch_emitted (pulseLatch_init config) calls

/-- A high update is followed by the low one. -/
theorem updates_isChain (config : Config) (calls : List Call) :
    (updates config calls).IsChain fun update next => update.high = true → next = lowUpdate := by
  refine outputs_isChain pulseLatch_silent pulseLatch_emitted ?_ (pulseLatch_init config) calls
  intro axis call previous next hlatch hnext hhigh
  obtain ⟨feedback, timeDifference, rfl, rfl, -⟩ := emitted_eq_some_iff.mp hnext
  exact process_of_pulse (hlatch.mpr ⟨previous, rfl, hhigh⟩) feedback timeDifference

/-! ## The origin of a high update and of a motion target -/

/-- A pending request waits for a view of FAULT, or was just accepted in it. -/
theorem requested_latch (axis : Axis) (call : Call) (h : Recovering axis)
    (hrequested : (step axis call).faultResetRequested = true) :
    (call = .requestFaultReset ∧ (requestFaultReset axis).2 = true ∧ axis.view = some .fault) ∨
      axis.faultResetRequested = true ∧ emitted axis call = none := by
  cases call with
  | setTarget code =>
      refine Or.inr ⟨?_, rfl⟩
      rcases setTarget_cases axis code with hsame | ⟨_, _, _, _, _, hset, -⟩
      · exact hsame ▸ hrequested
      · exact (congrArg Axis.faultResetRequested hset).symm.trans hrequested
  | clearTarget => exact Or.inr ⟨hrequested, rfl⟩
  | requestFaultReset =>
      rcases requestFaultReset_cases axis with ⟨hsame, -⟩ | ⟨-, haccepted, hview, -⟩
      · exact Or.inr ⟨hsame ▸ hrequested, rfl⟩
      · exact Or.inl ⟨rfl, haccepted, hview⟩
  | reset => exact absurd hrequested (by simp [step, reset, init])
  | process feedback timeDifference updateGiven =>
      right
      cases feedback with
      | none => exact ⟨hrequested, rfl⟩
      | some feedback =>
          cases updateGiven with
          | false => exact ⟨hrequested, rfl⟩
          | true =>
              have hold := faultResetRequested_observe axis feedback timeDifference
              have hpulse := faultResetPulseHigh_observe axis feedback timeDifference
              have hprocessed := process_processed axis feedback timeDifference
              have hstep : (process axis feedback timeDifference).1.faultResetRequested = true :=
                hrequested
              have hsilent : (process axis feedback timeDifference).2.valid = false →
                  emitted axis (.process (some feedback) timeDifference true) = none :=
                fun hvalid => if_neg (by simp [processCall, hvalid])
              generalize process axis feedback timeDifference = outcome at *
              cases hprocessed with
              | low result hhigh =>
                  rw [hpulse] at hhigh
                  rw [← hold]
                  exact absurd ((h.pulse hhigh).2.symm.trans (hold ▸ hstep)) Bool.false_ne_true
              | blind result hlow hblind => exact ⟨hold ▸ hstep, hsilent rfl⟩
              | faulted hlow hfault hrequest =>
                  exact absurd (hrequest.symm.trans hstep) Bool.false_ne_true
              | _ => exact absurd hstep Bool.false_ne_true

theorem Processed.target_kept {axis : Axis} {outcome : Axis × ControlwordUpdate}
    (h : Processed axis outcome) (hvalid : outcome.1.targetValid = true) :
    axis.targetValid = true ∧ outcome.1.target = axis.target := by
  cases h with
  | reaction hlow hreaction => exact absurd hvalid Bool.false_ne_true
  | faulted hlow hfault hrequest => exact absurd hvalid Bool.false_ne_true
  | high hlow hfault hrequest => exact absurd hvalid Bool.false_ne_true
  | _ => exact ⟨hvalid, rfl⟩

/-- A call which observes the remote axis on its fault path. -/
def Call.ObservesFault : Call → Prop
  | .process (some feedback) _ true =>
      feedback.statuswordValid = true ∧ (decodeStatusword feedback.statusword).faulted = true
  | _ => False

/-- A valid target was accepted just now, or is kept by a call that observes no fault. -/
theorem target_latch (target : Target) (axis : Axis) (call : Call) (h : Recovering axis)
    (htarget : (step axis call).targetValid = true ∧ (step axis call).target = target) :
    (∃ code, call = .setTarget code ∧ targetOfCode code = some target ∧
        (setTarget axis code).2 = true) ∨
      (axis.targetValid = true ∧ axis.target = target) ∧ ¬ call.ObservesFault := by
  cases call with
  | setTarget code =>
      rcases setTarget_cases axis code with hsame | ⟨chosen, _, _, _, _, hset, haccepted, hcode, -⟩
      · exact Or.inr ⟨hsame ▸ htarget, id⟩
      · have hchosen : chosen = target := (congrArg Axis.target hset).symm.trans htarget.2
        exact Or.inl ⟨code, rfl, hchosen ▸ hcode, haccepted⟩
  | clearTarget => exact absurd htarget.1 Bool.false_ne_true
  | requestFaultReset =>
      right
      rcases requestFaultReset_cases axis with ⟨hsame, -⟩ | ⟨hset, -⟩
      · exact ⟨hsame ▸ htarget, id⟩
      · exact ⟨⟨(congrArg Axis.targetValid hset).symm.trans htarget.1,
          (congrArg Axis.target hset).symm.trans htarget.2⟩, id⟩
  | reset => exact absurd htarget.1 Bool.false_ne_true
  | process feedback timeDifference updateGiven =>
      right
      cases feedback with
      | none => exact ⟨htarget, id⟩
      | some feedback =>
          cases updateGiven with
          | false => exact ⟨htarget, id⟩
          | true =>
              obtain ⟨hvalid, hkept⟩ :=
                (process_processed axis feedback timeDifference).target_kept htarget.1
              rw [targetValid_observe] at hvalid
              rw [target_observe] at hkept
              refine ⟨⟨hvalid, hkept ▸ htarget.2⟩, ?_⟩
              rintro ⟨hfresh, hfaulted⟩
              have hview := view_step axis (.process (some feedback) timeDifference true)
              have hknown : decodeStatusword feedback.statusword ≠ .unknown := by
                intro hunknown
                rw [hunknown] at hfaulted
                exact Bool.false_ne_true hfaulted
              rw [recognizeStep, if_pos hfresh, recognize, if_neg hknown] at hview
              have hcleared := (recovering_step h _).faulted _ hview hfaulted
              exact Bool.false_ne_true (hcleared.symm.trans htarget.1)

/-! ## The discipline of a run -/

/-- The Fault Reset pulse discipline of a list of calls. -/
structure PulseDiscipline (config : Config) (calls : List Call) : Prop where
  /-- the next valid process call after a high update, and no call before it, emits
  the low update -/
  lowNext : ∀ update, (updates config calls).getLast? = some update → update.high = true →
    ∀ feedback timeDifference,
      (process (axisAfter config calls) feedback timeDifference).2 = lowUpdate
  alternate : (updates config calls).IsChain
    fun update next => update.high = true → next = lowUpdate
  /-- a high update: FAULT is the last recognized state, and a request accepted in
  FAULT has waited for it -/
  requested : ∀ feedback timeDifference,
    (process (axisAfter config calls) feedback timeDifference).2.high = true →
      recognized (calls ++ [.process (some feedback) timeDifference true]) = some .fault ∧
        ∃ earlier later, calls = earlier ++ .requestFaultReset :: later ∧
          recognized earlier = some .fault ∧
          (requestFaultReset (axisAfter config earlier)).2 = true ∧
          outputs step emitted (axisAfter config (earlier ++ [.requestFaultReset])) later = []
  /-- a target: accepted, with no fault observed since -/
  target : (axisAfter config calls).targetValid = true →
    ∃ earlier code later, calls = earlier ++ .setTarget code :: later ∧
      targetOfCode code = some (axisAfter config calls).target ∧
      (setTarget (axisAfter config earlier) code).2 = true ∧
      ∀ call ∈ later, ¬ call.ObservesFault

/-- The call that accepted a request, and the calls that let it wait. -/
theorem requested_held (config : Config) (calls : List Call)
    (h : (axisAfter config calls).faultResetRequested = true) :
    HeldSince step
      (fun axis call => call = .requestFaultReset ∧ (requestFaultReset axis).2 = true ∧
        axis.view = some .fault)
      (fun axis call => emitted axis call = none) (init config) calls :=
  heldSince_of_latch Recovering (fun axis => axis.faultResetRequested = true)
    (fun _ call hinv _ => recovering_step hinv call)
    (fun axis call hinv _ hrequested => requested_latch axis call hinv hrequested)
    (recovering_init config) Bool.false_ne_true (everyStep_of_forall (fun _ _ => trivial) _ _) h

theorem requested_origin (config : Config) (calls : List Call)
    (h : (axisAfter config calls).faultResetRequested = true) :
    ∃ earlier later, calls = earlier ++ .requestFaultReset :: later ∧
      recognized earlier = some .fault ∧
      (requestFaultReset (axisAfter config earlier)).2 = true ∧
      outputs step emitted (axisAfter config (earlier ++ [.requestFaultReset])) later = [] := by
  obtain ⟨earlier, call, later, rfl, ⟨rfl, haccepted, hview⟩, hlater⟩ :=
    requested_held config calls h
  have hrecognized := view_axisAfter config earlier
  exact ⟨earlier, later, rfl, hrecognized.symm.trans hview, haccepted,
    (outputs_eq_nil_iff _ _).mpr hlater⟩

/-- The call that accepted a target, and the calls that kept it. -/
theorem target_held (config : Config) (calls : List Call) (target : Target)
    (h : (axisAfter config calls).targetValid = true ∧
      (axisAfter config calls).target = target) :
    HeldSince step
      (fun axis call => ∃ code, call = .setTarget code ∧ targetOfCode code = some target ∧
        (setTarget axis code).2 = true)
      (fun _ call => ¬ call.ObservesFault) (init config) calls :=
  heldSince_of_latch Recovering
    (fun axis => axis.targetValid = true ∧ axis.target = target)
    (fun _ call hinv _ => recovering_step hinv call)
    (fun axis call hinv _ htarget => target_latch target axis call hinv htarget)
    (recovering_init config) (fun hvalid => Bool.false_ne_true hvalid.1)
    (everyStep_of_forall (fun _ _ => trivial) _ _) h

theorem target_origin (config : Config) (calls : List Call)
    (h : (axisAfter config calls).targetValid = true) :
    ∃ earlier code later, calls = earlier ++ .setTarget code :: later ∧
      targetOfCode code = some (axisAfter config calls).target ∧
      (setTarget (axisAfter config earlier) code).2 = true ∧
      ∀ call ∈ later, ¬ call.ObservesFault := by
  obtain ⟨earlier, call, later, hcalls, ⟨code, rfl, hcode, haccepted⟩, hlater⟩ :=
    target_held config calls _ ⟨h, rfl⟩
  exact ⟨earlier, code, later, hcalls, hcode, haccepted, (everyStep_inputs _ _).mp hlater⟩

theorem pulseDiscipline_of_calls (config : Config) (calls : List Call) :
    PulseDiscipline config calls where
  lowNext := by
    intro update hlast hhigh feedback timeDifference
    have hlatch := pulseLatch_axisAfter config calls
    exact process_of_pulse (hlatch.mpr ⟨update, hlast, hhigh⟩) feedback timeDifference
  alternate := updates_isChain config calls
  requested := by
    intro feedback timeDifference hhigh
    have hprocessed := process_processed (axisAfter config calls) feedback timeDifference
    obtain ⟨hview, hrequested⟩ := hprocessed.of_high hhigh
    rw [faultResetRequested_observe] at hrequested
    refine ⟨?_, requested_origin config calls hrequested⟩
    have hafter := view_axisAfter config
      (calls ++ [.process (some feedback) timeDifference true])
    rw [← hafter, axisAfter, run_concat]
    exact hprocessed.view_eq.trans hview
  target := target_origin config calls

end CanopenRtt.Cia402.Controller
