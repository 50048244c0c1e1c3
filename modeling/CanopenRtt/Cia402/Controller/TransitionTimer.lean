import CanopenRtt.Cia402.Controller.Sequence
/-!
# The transition timeout of the Controller core

A watch next to the axis remembers the last recognized remote state and how long
it has been shown, in unbounded microseconds. The transition timer agrees with
the watch as long as no unrecognized Statusword takes away the view of a state
that still has to be left: the next recognized Statusword then counts as a state
change, and the timer starts again.
-/

namespace CanopenRtt.Cia402.Controller

open CanopenRtt.Support

/-! ## Saturating addition -/

theorem toNat_saturatingAddU32 (value increment : UInt32) :
    (saturatingAddU32 value increment).toNat =
      min (value.toNat + increment.toNat) uint32Max.toNat := by
  have hmax : uint32Max.toNat = 4294967295 := rfl
  have hroom : (uint32Max - value).toNat = uint32Max.toNat - value.toNat := by
    apply UInt32.toNat_sub_of_le
    rw [UInt32.le_iff_toNat_le, hmax]
    have := value.toNat_lt
    omega
  unfold saturatingAddU32
  split_ifs with hfull
  · rw [UInt32.lt_iff_toNat_lt, hroom] at hfull
    omega
  · rw [UInt32.lt_iff_toNat_lt, hroom] at hfull
    rw [UInt32.toNat_add]
    have := value.toNat_lt
    omega

/-- A saturating sum as a value of its own. -/
theorem exists_saturatingAddU32 (value increment : UInt32) :
    ∃ sum, saturatingAddU32 value increment = sum ∧
      sum.toNat = min (value.toNat + increment.toNat) uint32Max.toNat :=
  ⟨_, rfl, toNat_saturatingAddU32 value increment⟩

/-! ## The watch -/

/-- The axis, the last recognized remote state, and the time since that state was
first seen or the target was set. -/
structure Watch where
  axis : Axis
  lastSeen : Option State := none
  dwell : Nat := 0
  deriving DecidableEq

/-- A call that sets a target the axis does not have. -/
def newTarget (axis : Axis) (code : Int) : Bool :=
  (setTarget axis code).2 && !(axis.targetValid && targetOfCode code = some axis.target)

/-- The state a feedback shows, if it shows one. -/
def Feedback.shown (feedback : Feedback) : Option State :=
  if feedback.statuswordValid then recognize feedback.statusword else none

/-- Only a change from one recognized state to another restarts the watch: missing
feedback and an unrecognized Statusword let it run on. -/
def Watch.see (watch : Watch) (axis : Axis) (shown : Option State) (timeDifference : UInt32) :
    Watch :=
  match shown with
  | some state =>
      if watch.lastSeen = some state then
        { watch with axis := axis, dwell := watch.dwell + timeDifference.toNat }
      else { axis := axis, lastSeen := some state, dwell := 0 }
  | none => { watch with axis := axis, dwell := watch.dwell + timeDifference.toNat }

/-- A new target restarts the watch too. A call refused for its arguments takes no time. -/
def watchStep (watch : Watch) (call : Call) : Watch :=
  let axis := step watch.axis call
  match call with
  | .setTarget code =>
      if newTarget watch.axis code then { axis := axis, lastSeen := watch.axis.view, dwell := 0 }
      else { watch with axis := axis }
  | .reset => { axis := axis }
  | .process (some feedback) timeDifference true =>
      watch.see axis feedback.shown timeDifference
  | _ => { watch with axis := axis }

@[simp] theorem axis_watchStep (watch : Watch) (call : Call) :
    (watchStep watch call).axis = step watch.axis call := by
  unfold watchStep Watch.see
  split
  · split_ifs <;> rfl
  · rfl
  · split
    · split_ifs <;> rfl
    · rfl
  · rfl

/-- The state has to be left for the target, and a command leads on. -/
def Axis.Leaves (axis : Axis) (state : State) : Prop :=
  axis.targetValid = true ∧ state.faulted = false ∧ state ≠ targetState axis.target ∧
    (commandForTarget state axis.target).2 = false

instance (axis : Axis) (state : State) : Decidable (axis.Leaves state) := by
  unfold Axis.Leaves
  infer_instance

/-- The call does not take away the view of a state that has to be left. -/
def KeepsView (watch : Watch) (call : Call) : Prop :=
  ∀ feedback timeDifference, call = .process (some feedback) timeDifference true →
    feedback.statuswordValid = true → feedback.shown = none →
      ∀ state, watch.axis.view = some state → ¬ watch.axis.Leaves state

/-- A call that observes a state that has to be left reports the transition timeout,
without an update, exactly when the configured time has passed in that state. -/
def TimesOut (watch : Watch) (call : Call) : Prop :=
  ∀ feedback timeDifference state, call = .process (some feedback) timeDifference true →
    feedback.shown = some state → watch.axis.Leaves state →
      (((process watch.axis feedback timeDifference).1.result = .transitionTimeout ∧
          (process watch.axis feedback timeDifference).2.valid = false) ↔
        watch.axis.config.transitionTimeout.toNat ≤ (watchStep watch call).dwell)

/-! ## The sequencer in a state that has to be left -/

/-- The transition time a call leaves behind. -/
def countTransition (axis : Axis) (stateChanged : Bool) (timeDifference : UInt32) : UInt32 :=
  if stateChanged then axis.transitionElapsed
  else saturatingAddU32 axis.transitionElapsed timeDifference

theorem sequenceTarget_of_leaves {axis : Axis} (h : axis.Leaves axis.remoteState)
    (stateChanged : Bool) (timeDifference : UInt32) :
    sequenceTarget axis stateChanged timeDifference =
      if axis.config.transitionTimeout ≠ timeoutDisabled ∧
          axis.config.transitionTimeout ≤ countTransition axis stateChanged timeDifference then
        (setResult
          { axis with
            transitionElapsed := countTransition axis stateChanged timeDifference
            pendingCommand := .unknown } .transitionTimeout, {})
      else
        (setResult
          { axis with
            transitionElapsed := countTransition axis stateChanged timeDifference
            pendingCommand := (commandForTarget axis.remoteState axis.target).1 } .inProgress,
          commandUpdate (commandForTarget axis.remoteState axis.target).1 {}) := by
  obtain ⟨-, -, hdistant, hopen⟩ := h
  unfold sequenceTarget countTransition
  generalize saturatingAddU32 axis.transitionElapsed timeDifference = counted
  dsimp only
  rw [if_neg hdistant, if_neg (by simp [hopen])]
  cases stateChanged
  · simp only [Bool.false_eq_true, if_false]
  · simp only [if_true]

theorem transitionElapsed_sequenceTarget {axis : Axis} (h : axis.Leaves axis.remoteState)
    (stateChanged : Bool) (timeDifference : UInt32) :
    (sequenceTarget axis stateChanged timeDifference).1.transitionElapsed =
      countTransition axis stateChanged timeDifference := by
  rw [sequenceTarget_of_leaves h]
  split_ifs <;> rfl

theorem sequenceTarget_times_out_iff {axis : Axis} (h : axis.Leaves axis.remoteState)
    (hfinite : axis.config.transitionTimeout ≠ timeoutDisabled) (stateChanged : Bool)
    (timeDifference : UInt32) :
    ((sequenceTarget axis stateChanged timeDifference).1.result = .transitionTimeout ∧
        (sequenceTarget axis stateChanged timeDifference).2.valid = false) ↔
      axis.config.transitionTimeout ≤ countTransition axis stateChanged timeDifference := by
  rw [sequenceTarget_of_leaves h]
  by_cases hexpired :
      axis.config.transitionTimeout ≤ countTransition axis stateChanged timeDifference
  · rw [if_pos ⟨hfinite, hexpired⟩]
    exact iff_of_true ⟨rfl, rfl⟩ hexpired
  · rw [if_neg fun hboth => hexpired hboth.2]
    refine iff_of_false ?_ hexpired
    rintro ⟨hresult, -⟩
    exact Result.noConfusion hresult

/-! ## A process call in such a state -/

theorem shows_of_shown {feedback : Feedback} {state : State}
    (h : feedback.shown = some state) : feedback.Shows state := by
  unfold Feedback.shown recognize at h
  by_cases hvalid : feedback.statuswordValid = true
  · rw [if_pos hvalid] at h
    by_cases hunknown : decodeStatusword feedback.statusword = .unknown
    · rw [if_pos hunknown] at h
      contradiction
    · rw [if_neg hunknown, Option.some.injEq] at h
      exact ⟨hvalid, h, h ▸ hunknown⟩
  · rw [if_neg hvalid] at h
    contradiction

theorem not_valid_of_missing {feedback : Feedback} (h : ¬ feedback.statuswordValid = true) :
    feedback.shown = none := if_neg h

theorem observe_of_missing {axis : Axis} {feedback : Feedback}
    (h : ¬ feedback.statuswordValid = true) (timeDifference : UInt32) :
    observe axis feedback timeDifference =
      ({ axis with
          feedbackElapsed := saturatingAddU32 axis.feedbackElapsed timeDifference }, false) := by
  unfold observe
  exact if_neg h

/-- Missing feedback only ages the axis. -/
theorem observe_of_missing_aged {axis : Axis} {feedback : Feedback}
    (h : ¬ feedback.statuswordValid = true) (timeDifference : UInt32) :
    ∃ age, observe axis feedback timeDifference = ({ axis with feedbackElapsed := age }, false) :=
  ⟨_, observe_of_missing h timeDifference⟩

/-- The observed axis may be left to the sequencer also without fresh feedback. -/
theorem process_of_missing {axis : Axis} {feedback : Feedback} {state : State}
    (h : ¬ feedback.statuswordValid = true) (hview : axis.view = some state)
    (hdisabled : axis.config.feedbackTimeout = timeoutDisabled)
    (hinvalid : axis.remoteStatuswordInvalid = false) (hpulse : axis.faultResetPulseHigh = false)
    (htarget : axis.targetValid = true) (hnormal : state.faulted = false)
    (timeDifference : UInt32) :
    process axis feedback timeDifference =
      sequenceTarget
        { axis with
          feedbackElapsed := saturatingAddU32 axis.feedbackElapsed timeDifference
          faultResetRequested := false } false timeDifference := by
  obtain ⟨hvalid, rfl⟩ := Axis.view_eq_some_iff.mp hview
  have hreaction : axis.remoteState ≠ .faultReactionActive := by
    intro hstate
    rw [hstate] at hnormal
    exact absurd hnormal (by decide)
  have hfault : axis.remoteState ≠ .fault := by
    intro hstate
    rw [hstate] at hnormal
    exact absurd hnormal (by decide)
  unfold process
  rw [observe_of_missing h]
  generalize saturatingAddU32 axis.feedbackElapsed timeDifference = age
  unfold processObserved feedbackTimedOut
  dsimp only
  rw [if_neg (by simp [hpulse]), if_neg (by simp [hdisabled]), if_neg (by simp [hinvalid]),
    if_neg (by simp [hvalid]), if_neg hreaction, if_neg hfault, if_neg (by simp [htarget])]

/-- What a call does to the transition time of a state that has to be left. -/
structure Counts (axis : Axis) (feedback : Feedback) (timeDifference : UInt32)
    (counted : UInt32) : Prop where
  elapsed : (process axis feedback timeDifference).1.transitionElapsed = counted
  times_out : axis.config.transitionTimeout ≠ timeoutDisabled →
    (((process axis feedback timeDifference).1.result = .transitionTimeout ∧
        (process axis feedback timeDifference).2.valid = false) ↔
      axis.config.transitionTimeout ≤ counted)

theorem counts_of_sequenced {axis observed : Axis} {feedback : Feedback} {timeDifference : UInt32}
    {stateChanged : Bool} {counted : UInt32}
    (h : process axis feedback timeDifference =
      sequenceTarget observed stateChanged timeDifference)
    (hconfig : observed.config = axis.config) (hleaves : observed.Leaves observed.remoteState)
    (hcounted : countTransition observed stateChanged timeDifference = counted) :
    Counts axis feedback timeDifference counted where
  elapsed := by rw [h, transitionElapsed_sequenceTarget hleaves, hcounted]
  times_out := by
    intro hfinite
    rw [h, sequenceTarget_times_out_iff hleaves (hconfig ▸ hfinite), hconfig, hcounted]

theorem counts_of_shown {axis : Axis} {feedback : Feedback} {state : State}
    (h : feedback.shown = some state) (hpulse : axis.faultResetPulseHigh = false)
    (hleaves : axis.Leaves state) (timeDifference : UInt32) :
    Counts axis feedback timeDifference
      (if axis.view = some state then saturatingAddU32 axis.transitionElapsed timeDifference
        else 0) := by
  have hshows := shows_of_shown h
  have hprocess := process_of_shows hshows hpulse hleaves.1 hleaves.2.1 timeDifference
  rw [observe_of_shows hshows] at hprocess
  by_cases hsame : axis.view = some state
  · obtain ⟨-, rfl⟩ := Axis.view_eq_some_iff.mp hsame
    rw [if_pos hsame] at hprocess ⊢
    exact counts_of_sequenced hprocess rfl hleaves (if_neg Bool.false_ne_true)
  · rw [if_neg hsame] at hprocess ⊢
    exact counts_of_sequenced hprocess rfl hleaves (if_pos rfl)

theorem counts_of_missing {axis : Axis} {feedback : Feedback} {state : State}
    (h : ¬ feedback.statuswordValid = true) (hview : axis.view = some state)
    (hdisabled : axis.config.feedbackTimeout = timeoutDisabled)
    (hinvalid : axis.remoteStatuswordInvalid = false) (hpulse : axis.faultResetPulseHigh = false)
    (hleaves : axis.Leaves state) (timeDifference : UInt32) :
    Counts axis feedback timeDifference
      (saturatingAddU32 axis.transitionElapsed timeDifference) := by
  have hprocess := process_of_missing h hview hdisabled hinvalid hpulse hleaves.1 hleaves.2.1
    timeDifference
  obtain ⟨-, rfl⟩ := Axis.view_eq_some_iff.mp hview
  generalize saturatingAddU32 axis.feedbackElapsed timeDifference = age at hprocess
  exact counts_of_sequenced hprocess rfl hleaves (if_neg Bool.false_ne_true)

/-! ## The timer agrees with the watch -/

theorem Processed.frame {axis : Axis} {outcome : Axis × ControlwordUpdate}
    (h : Processed axis outcome) :
    outcome.1.config = axis.config ∧
      outcome.1.remoteStatuswordInvalid = axis.remoteStatuswordInvalid := by
  cases h <;> exact ⟨rfl, rfl⟩

theorem config_process (axis : Axis) (feedback : Feedback) (timeDifference : UInt32) :
    (process axis feedback timeDifference).1.config = axis.config := by
  obtain ⟨_, _, _, _, _, _, _, _, hframe⟩ := observe_frame axis feedback timeDifference
  have hobserved : (observe axis feedback timeDifference).1.config = axis.config := by rw [hframe]
  exact (process_processed axis feedback timeDifference).frame.1.trans hobserved

/-- A view of the remote state is not invalid. -/
def Axis.Clear (axis : Axis) : Prop :=
  ∀ state, axis.view = some state → axis.remoteStatuswordInvalid = false

theorem clear_observe {axis : Axis} (h : axis.Clear) (feedback : Feedback)
    (timeDifference : UInt32) : (observe axis feedback timeDifference).1.Clear := by
  intro state hview
  by_cases hvalid : feedback.statuswordValid = true
  · rw [view_observe, if_pos hvalid, recognize] at hview
    by_cases hunknown : decodeStatusword feedback.statusword = .unknown
    · rw [if_pos hunknown] at hview
      contradiction
    · exact (observe_fresh axis timeDifference hvalid hunknown).2.1
  · rw [view_observe, if_neg hvalid] at hview
    obtain ⟨age, hobserved⟩ := @observe_of_missing_aged axis _ hvalid timeDifference
    rw [hobserved]
    exact h state hview

theorem clear_process {axis : Axis} (h : axis.Clear) (feedback : Feedback)
    (timeDifference : UInt32) : (process axis feedback timeDifference).1.Clear := by
  have hprocessed := process_processed axis feedback timeDifference
  intro state hview
  rw [hprocessed.frame.2]
  exact clear_observe h feedback timeDifference state (hprocessed.view_eq ▸ hview)

/-- A state that has to be left after a call had to be left before it. -/
theorem leaves_of_process {axis : Axis} {feedback : Feedback} {timeDifference : UInt32}
    {state : State} (h : (process axis feedback timeDifference).1.Leaves state) :
    axis.Leaves state := by
  obtain ⟨hvalid, hnormal, hdistant, hopen⟩ := h
  obtain ⟨hbefore, hsame⟩ := (process_processed axis feedback timeDifference).target_kept hvalid
  rw [targetValid_observe] at hbefore
  rw [target_observe] at hsame
  exact ⟨hbefore, hnormal, hsame ▸ hdistant, hsame ▸ hopen⟩

/-- The transition timer, saturated, agrees with the watch in a state that has to be left. -/
structure Timed (config : Config) (watch : Watch) : Prop where
  config_eq : watch.axis.config = config
  recovering : Recovering watch.axis
  clear : watch.axis.Clear
  seen : ∀ state, watch.axis.view = some state → watch.lastSeen = some state
  lost : watch.axis.view = none → ∀ state, watch.lastSeen = some state →
    ¬ watch.axis.Leaves state
  elapsed : ∀ state, watch.axis.view = some state → watch.axis.Leaves state →
    watch.axis.transitionElapsed.toNat = min watch.dwell uint32Max.toNat

theorem Recovering.pulse_low {axis : Axis} (h : Recovering axis)
    (htarget : axis.targetValid = true) :
    axis.faultResetPulseHigh = false := by
  rw [← Bool.not_eq_true]
  intro hpulse
  exact Bool.false_ne_true ((h.pulse hpulse).1.symm.trans htarget)

theorem timed_init (config : Config) : Timed config { axis := init config } where
  config_eq := rfl
  recovering := recovering_init config
  clear := fun _ _ => rfl
  seen := fun _ hview => hview
  lost := fun _ _ hseen => absurd hseen (Option.some_ne_none _).symm
  elapsed := fun state hview => by
    have hnone : (init config).view = none := rfl
    rw [hnone] at hview
    contradiction

/-- The watch after a process call, and what the call counts. -/
theorem watchStep_counts {config : Config} {watch : Watch} (h : Timed config watch)
    (hdisabled : config.feedbackTimeout = timeoutDisabled) {feedback : Feedback}
    {timeDifference : UInt32} {state : State} (hleaves : watch.axis.Leaves state)
    (hview : (observe watch.axis feedback timeDifference).1.view = some state) :
    ∃ counted, Counts watch.axis feedback timeDifference counted ∧
      counted.toNat =
        min (watchStep watch (.process (some feedback) timeDifference true)).dwell
          uint32Max.toNat := by
  have hpulse := h.recovering.pulse_low hleaves.1
  by_cases hvalid : feedback.statuswordValid = true
  · have hshown : feedback.shown = some state := by
      rw [Feedback.shown, if_pos hvalid]
      rwa [view_observe, if_pos hvalid] at hview
    refine ⟨_, counts_of_shown hshown hpulse hleaves timeDifference, ?_⟩
    unfold watchStep Watch.see
    dsimp only
    rw [hshown]
    dsimp only
    by_cases hsame : watch.axis.view = some state
    · rw [if_pos hsame, if_pos (h.seen state hsame), toNat_saturatingAddU32,
        h.elapsed state hsame hleaves]
      dsimp only
      omega
    · have hchanged : watch.lastSeen ≠ some state := by
        intro hseen
        cases hbefore : watch.axis.view with
        | none => exact h.lost hbefore state hseen hleaves
        | some other =>
            have hother := (h.seen other hbefore).symm.trans hseen
            exact hsame (hbefore.trans hother)
      rw [if_neg hsame, if_neg hchanged]
      rfl
  · rw [view_observe, if_neg hvalid] at hview
    refine ⟨_, counts_of_missing hvalid hview (h.config_eq ▸ hdisabled) (h.clear state hview)
      hpulse hleaves timeDifference, ?_⟩
    unfold watchStep Watch.see
    dsimp only
    rw [not_valid_of_missing hvalid]
    dsimp only
    rw [toNat_saturatingAddU32, h.elapsed state hview hleaves]
    omega

theorem timed_process {config : Config} {watch : Watch} (h : Timed config watch)
    (hdisabled : config.feedbackTimeout = timeoutDisabled) (feedback : Feedback)
    (timeDifference : UInt32)
    (hkeeps : KeepsView watch (.process (some feedback) timeDifference true)) :
    Timed config (watchStep watch (.process (some feedback) timeDifference true)) := by
  have hstep : (watchStep watch (.process (some feedback) timeDifference true)).axis =
      (process watch.axis feedback timeDifference).1 := axis_watchStep _ _
  have hview := (process_processed watch.axis feedback timeDifference).view_eq
  refine ⟨?_, ?_, ?_, ?_, ?_, ?_⟩
  · rw [hstep, config_process, h.config_eq]
  · rw [hstep]
    exact recovering_process h.recovering feedback timeDifference
  · rw [hstep]
    exact clear_process h.clear feedback timeDifference
  · intro state hseen
    rw [hstep, hview, view_observe] at hseen
    by_cases hvalid : feedback.statuswordValid = true
    · rw [if_pos hvalid] at hseen
      have hshown : feedback.shown = some state := by rw [Feedback.shown, if_pos hvalid, hseen]
      unfold watchStep Watch.see
      dsimp only
      rw [hshown]
      dsimp only
      split_ifs with hsame
      · exact hsame
      · rfl
    · rw [if_neg hvalid] at hseen
      unfold watchStep Watch.see
      dsimp only
      rw [not_valid_of_missing hvalid]
      exact h.seen state hseen
  · intro hblind state hseen hleaves
    rw [hstep] at hblind hleaves
    rw [hview, view_observe] at hblind
    have hbefore := leaves_of_process hleaves
    have hshown : feedback.shown = none := by
      unfold Feedback.shown
      by_cases hvalid : feedback.statuswordValid = true
      · rw [if_pos hvalid] at hblind ⊢
        exact hblind
      · exact if_neg hvalid
    have hlast : watch.lastSeen = some state := by
      unfold watchStep Watch.see at hseen
      dsimp only at hseen
      rw [hshown] at hseen
      exact hseen
    cases hold : watch.axis.view with
    | none => exact h.lost hold state hlast hbefore
    | some other =>
        have hother : other = state :=
          Option.some.inj ((h.seen other hold).symm.trans hlast)
        subst hother
        by_cases hvalid : feedback.statuswordValid = true
        · exact hkeeps feedback timeDifference rfl hvalid hshown other hold hbefore
        · rw [if_neg hvalid, hold] at hblind
          contradiction
  · intro state hseen hleaves
    rw [hstep] at hseen hleaves ⊢
    rw [hview] at hseen
    obtain ⟨counted, hcounts, hcounted⟩ :=
      watchStep_counts h hdisabled (leaves_of_process hleaves) hseen
    rw [hcounts.elapsed, hcounted]

/-- A call that leaves the view and the timer alone keeps the agreement. -/
theorem Timed.keep {config : Config} {watch after : Watch} (h : Timed config watch)
    (hrecovering : Recovering after.axis) (hconfig : after.axis.config = watch.axis.config)
    (hview : after.axis.view = watch.axis.view)
    (hinvalid : after.axis.remoteStatuswordInvalid = watch.axis.remoteStatuswordInvalid)
    (hlast : after.lastSeen = watch.lastSeen) (hdwell : after.dwell = watch.dwell)
    (hleaves : ∀ state, after.axis.Leaves state → watch.axis.Leaves state ∧
      after.axis.transitionElapsed = watch.axis.transitionElapsed) : Timed config after where
  config_eq := hconfig.trans h.config_eq
  recovering := hrecovering
  clear := fun state hseen => hinvalid.trans (h.clear state (hview ▸ hseen))
  seen := fun state hseen => hlast.trans (h.seen state (hview ▸ hseen))
  lost := fun hblind state hseen hafter =>
    h.lost (hview ▸ hblind) state (hlast ▸ hseen) (hleaves state hafter).1
  elapsed := fun state hseen hafter => by
    rw [(hleaves state hafter).2, hdwell]
    exact h.elapsed state (hview ▸ hseen) (hleaves state hafter).1

/-- A new target starts its transition time; any other call leaves the axis as it is. -/
theorem setTarget_newTarget_cases (axis : Axis) (code : Int) :
    newTarget axis code = false ∧ (setTarget axis code).1 = axis ∨
      newTarget axis code = true ∧ ∃ target start, (setTarget axis code).1 =
        { axis with
          target := target
          targetValid := true
          transitionElapsed := 0
          transitionFrom := start
          pendingCommand := .unknown
          result := .inProgress } := by
  unfold newTarget setTarget
  cases hcode : targetOfCode code with
  | none => exact Or.inl ⟨rfl, rfl⟩
  | some target =>
      dsimp only
      by_cases hrefused : (axis.faultResetRequested || axis.faultResetPulseHigh
          || (axis.remoteStateValid && axis.remoteState.faulted)) = true
      · rw [if_pos hrefused]
        exact Or.inl ⟨rfl, rfl⟩
      rw [if_neg hrefused]
      by_cases hrepeated : (axis.targetValid && decide (axis.target = target)) = true
      · rw [if_pos hrepeated]
        refine Or.inl ⟨?_, rfl⟩
        rw [Bool.and_eq_true, decide_eq_true_eq] at hrepeated
        obtain ⟨hvalid, rfl⟩ := hrepeated
        rw [hvalid, decide_eq_true rfl]
        rfl
      · rw [if_neg hrepeated]
        refine Or.inr ⟨?_, target, _, rfl⟩
        rw [Bool.and_eq_true, decide_eq_true_eq, not_and] at hrepeated
        rw [Bool.true_and, Bool.not_eq_true', Bool.and_eq_false_imp]
        intro hvalid
        exact decide_eq_false fun hsame => hrepeated hvalid (Option.some.inj hsame).symm

theorem timed_setTarget {config : Config} {watch : Watch} (h : Timed config watch) (code : Int) :
    Timed config (watchStep watch (.setTarget code)) := by
  have hrecovering := recovering_setTarget h.recovering code
  unfold watchStep step
  dsimp only
  rcases setTarget_newTarget_cases watch.axis code with ⟨hold, hsame⟩ | ⟨hnew, target, start, hset⟩
  · rw [if_neg (by simp [hold]), hsame]
    exact h
  · rw [if_pos hnew]
    rw [hset] at hrecovering ⊢
    exact {
      config_eq := h.config_eq
      recovering := hrecovering
      clear := h.clear
      seen := fun state hseen => hseen
      lost := fun hblind state hseen => absurd (hseen.symm.trans hblind) (Option.some_ne_none _)
      elapsed := fun _ _ _ => (Nat.zero_min _).symm }

theorem timed_watchStep {config : Config} {watch : Watch} {call : Call}
    (hdisabled : config.feedbackTimeout = timeoutDisabled) (h : Timed config watch)
    (hkeeps : KeepsView watch call) : Timed config (watchStep watch call) := by
  cases call with
  | setTarget code => exact timed_setTarget h code
  | clearTarget =>
      refine h.keep (recovering_clearTarget h.recovering) rfl rfl rfl rfl rfl ?_
      rintro state ⟨hvalid, -⟩
      exact absurd hvalid Bool.false_ne_true
  | requestFaultReset =>
      have hrecovering := recovering_requestFaultReset h.recovering
      unfold watchStep step
      rcases requestFaultReset_cases watch.axis with ⟨hsame, -⟩ | ⟨hset, -⟩
      · rw [hsame]
        exact h
      · rw [hset] at hrecovering ⊢
        exact h.keep hrecovering rfl rfl rfl rfl rfl fun _ hleaves => ⟨hleaves, rfl⟩
  | reset =>
      have hnone : (reset watch.axis).view = none := rfl
      exact {
        config_eq := h.config_eq
        recovering := recovering_reset watch.axis
        clear := fun _ _ => rfl
        seen := fun state hseen => absurd (hseen.symm.trans hnone) (Option.some_ne_none _)
        lost := fun _ state hseen => absurd hseen (Option.some_ne_none _).symm
        elapsed := fun state hseen => absurd (hseen.symm.trans hnone) (Option.some_ne_none _) }
  | process feedback timeDifference updateGiven =>
      cases feedback with
      | none =>
          exact h.keep (recovering_setResult h.recovering .statusUnknown) rfl rfl rfl rfl rfl
            fun _ hleaves => ⟨hleaves, rfl⟩
      | some feedback =>
          cases updateGiven with
          | false =>
              exact h.keep (recovering_setResult h.recovering .statusUnknown) rfl rfl rfl rfl rfl
                fun _ hleaves => ⟨hleaves, rfl⟩
          | true => exact timed_process h hdisabled feedback timeDifference hkeeps

theorem timesOut_of_timed {config : Config} {watch : Watch} {call : Call}
    (hdisabled : config.feedbackTimeout = timeoutDisabled)
    (hfinite : config.transitionTimeout ≠ timeoutDisabled) (h : Timed config watch) :
    TimesOut watch call := by
  rintro feedback timeDifference state rfl hshown hleaves
  obtain ⟨hfresh, hstate, hknown⟩ := shows_of_shown hshown
  have hview : (observe watch.axis feedback timeDifference).1.view = some state :=
    view_of_shows ⟨hfresh, hstate, hknown⟩ timeDifference
  obtain ⟨counted, hcounts, hcounted⟩ := watchStep_counts h hdisabled hleaves hview
  rw [hcounts.times_out (h.config_eq ▸ hfinite), UInt32.le_iff_toNat_le, hcounted]
  have hbound : watch.axis.config.transitionTimeout.toNat ≤ uint32Max.toNat :=
    Nat.le_of_lt_succ watch.axis.config.transitionTimeout.toNat_lt
  omega

/-- In every run of the Controller with a finite transition timeout and no feedback
timeout, and whose calls keep the view of a state that has to be left, a call that
observes such a state times out exactly when the configured time has passed in it. -/
theorem transitionTimeout_of_calls (config : Config)
    (hdisabled : config.feedbackTimeout = timeoutDisabled)
    (hfinite : config.transitionTimeout ≠ timeoutDisabled) (calls : List Call)
    (hkeeps : EveryStep watchStep KeepsView { axis := init config } calls) :
    EveryStep watchStep TimesOut { axis := init config } calls :=
  everyStep_of_invariant (fun _ _ h hstep => timed_watchStep hdisabled h hstep)
    (fun _ _ h _ => timesOut_of_timed hdisabled hfinite h) (timed_init config) hkeeps

/-- A drive that stays in SWITCH ON DISABLED, seen, missed and seen again. -/
def stalledCalls : List Call :=
  [.setTarget 3, .process (some ⟨true, 0x0040⟩) 0 true, .process (some ⟨false, 0⟩) 600 true,
    .process (some ⟨true, 0x0040⟩) 400 true]

theorem transitionTimeout_stalled :
    EveryStep watchStep KeepsView { axis := init ⟨1000, 0⟩ } stalledCalls ∧
      EveryStep watchStep TimesOut { axis := init ⟨1000, 0⟩ } stalledCalls ∧
      (run watchStep { axis := init ⟨1000, 0⟩ } stalledCalls).axis.result = .transitionTimeout := by
  have hkeeps : EveryStep watchStep KeepsView { axis := init ⟨1000, 0⟩ } stalledCalls := by
    refine ⟨?_, ?_, ?_, ?_, trivial⟩
    · intro feedback timeDifference hcall
      contradiction
    · intro feedback timeDifference hcall hvalid hunknown
      cases hcall
      exact absurd hunknown (by decide)
    · intro feedback timeDifference hcall hvalid
      cases hcall
      exact absurd hvalid (by decide)
    · intro feedback timeDifference hcall hvalid hunknown
      cases hcall
      exact absurd hunknown (by decide)
  exact ⟨hkeeps, transitionTimeout_of_calls ⟨1000, 0⟩ rfl (by decide) stalledCalls hkeeps,
    by decide +kernel⟩

/-- An unrecognized Statusword between two equal recognized ones restarts the timer: the
drive has been in SWITCH ON DISABLED for the whole timeout, and is commanded on. -/
def lostViewCalls : List Call :=
  [.setTarget 3, .process (some ⟨true, 0x0040⟩) 0 true, .process (some ⟨true, 0x0011⟩) 1000 true]

theorem transitionTimeout_lostView :
    (run watchStep { axis := init ⟨1000, 0⟩ } lostViewCalls).axis.Leaves .switchOnDisabled ∧
      (run watchStep { axis := init ⟨1000, 0⟩ } lostViewCalls).dwell = 1000 ∧
      (process (run watchStep { axis := init ⟨1000, 0⟩ } lostViewCalls).axis
        ⟨true, 0x0040⟩ 0).1.result = .inProgress ∧
      (process (run watchStep { axis := init ⟨1000, 0⟩ } lostViewCalls).axis
        ⟨true, 0x0040⟩ 0).2.value = 0x0006 ∧
      ¬ EveryStep watchStep TimesOut { axis := init ⟨1000, 0⟩ }
        (lostViewCalls ++ [.process (some ⟨true, 0x0040⟩) 0 true]) := by
  have hresult : (process (run watchStep { axis := init ⟨1000, 0⟩ } lostViewCalls).axis
      ⟨true, 0x0040⟩ 0).1.result = .inProgress := by decide +kernel
  have hleaves : (run watchStep { axis := init ⟨1000, 0⟩ } lostViewCalls).axis.Leaves
      .switchOnDisabled := by decide +kernel
  refine ⟨hleaves, by decide +kernel, hresult, by decide +kernel, ?_⟩
  intro hevery
  obtain ⟨-, hlast, -⟩ := (everyStep_append _ _ _).mp hevery
  have hlaw := hlast ⟨true, 0x0040⟩ 0 .switchOnDisabled rfl (by decide) hleaves
  have hreached := hlaw.mpr (by decide +kernel)
  rw [hresult] at hreached
  exact Result.noConfusion hreached.1

end CanopenRtt.Cia402.Controller
