import CanopenRtt.Cia402.Device.Ownership
/-!
# The diagnostic contract and the product poll

The diagnosis follows the fault path: an active fault is only found there, and
the fault path is never without an active fault or a recorded contract failure.
A contract failure outside the fault path has one source, the Error-code restore
of a bind; while no such restore fails, every pass outside the fault path polls
the product.
-/

namespace CanopenRtt.Cia402.Device

open CanopenRtt.Support

/-- The diagnosis of an axis matches its state. -/
structure Control.Diagnosed (c : Control) : Prop where
  active_faulted : c.diagnosis.active = true → c.state.faulted = true
  faulted_recorded : c.state.faulted = true →
    c.diagnosis.active = true ∨ c.diagnosis.contractFailed = true

/-- A contract failure is only recorded in the fault path. -/
def Control.Supervised (c : Control) : Prop :=
  c.diagnosis.contractFailed = true → c.state.faulted = true

/-! ## One pass -/

theorem DiagLatch.recorded {source : LatchSource} {d d' : DiagRuntime} {actions : List Action}
    (h : DiagLatch source d d' actions) : d'.active = true ∨ d'.contractFailed = true := by
  cases h with
  | suppressed hactive => exact .inl hactive
  | rejected => exact .inr rfl
  | latched => exact .inl rfl

theorem FaultEntry.diagnosed {source : LatchSource} {c c' : Control} {actions : List Action}
    (h : FaultEntry source c c' actions) : c'.Diagnosed ∧ c'.Supervised := by
  obtain ⟨hlatch⟩ := h
  exact ⟨⟨fun _ => rfl, fun _ => hlatch.recorded⟩, fun _ => rfl⟩

/-- The fault reaction keeps the diagnosis and stays in the fault path. -/
theorem Control.reacted_diagnosed {c : Control} (hstate : c.state = .faultReactionActive)
    (h : c.Diagnosed) (inputs : PassInputs) :
    (c.reacted inputs).Diagnosed ∧ (c.reacted inputs).Supervised := by
  have hfaulted := c.reacted_state inputs hstate
  refine ⟨⟨fun _ => hfaulted, fun _ => ?_⟩, fun _ => hfaulted⟩
  exact h.faulted_recorded (by rw [hstate]; rfl)

theorem Control.Diagnosed.inactive {c : Control} (h : c.Diagnosed)
    (hstate : c.state.faulted = false) : c.diagnosis.active = false := by
  by_contra hactive
  rw [Bool.not_eq_false] at hactive
  exact absurd (hstate.symm.trans (h.active_faulted hactive)) Bool.false_ne_true

/-- A move between states outside the fault path that keeps the diagnosis. -/
theorem Control.Diagnosed.of_state {c c' : Control} (h : c.Diagnosed)
    (hdiagnosis : c'.diagnosis = c.diagnosis) (hbefore : c.state.faulted = false)
    (hafter : c'.state.faulted = false) : c'.Diagnosed := by
  have hinactive := h.inactive hbefore
  constructor
  · intro hactive
    rw [hdiagnosis, hinactive] at hactive
    exact absurd hactive Bool.false_ne_true
  · intro hfaulted
    exact absurd (hafter.symm.trans hfaulted) Bool.false_ne_true

theorem Control.Supervised.unfailed {c : Control} (h : c.Supervised)
    (hstate : c.state.faulted = false) : c.diagnosis.contractFailed = false := by
  by_contra hfailed
  rw [Bool.not_eq_false] at hfailed
  exact absurd (hstate.symm.trans (h hfailed)) Bool.false_ne_true

theorem Control.Supervised.of_state {c c' : Control} (h : c.Supervised)
    (hdiagnosis : c'.diagnosis = c.diagnosis) (hbefore : c.state.faulted = false) :
    c'.Supervised := by
  intro hfailed
  rw [hdiagnosis, h.unfailed hbefore] at hfailed
  exact absurd hfailed Bool.false_ne_true

/-- Everything about the diagnosis that a pass keeps, in one invariant. -/
structure Control.DiagInvariant (c : Control) : Prop where
  ownership : c.Ownership
  diagnosed : c.Diagnosed

theorem FaultEntry.diagInvariant {source : LatchSource} {c c' : Control} {actions : List Action}
    (h : FaultEntry source c c' actions) : c'.DiagInvariant :=
  ⟨h.ownership, h.diagnosed.1⟩

theorem FaultEntry.reacted {source : LatchSource} {c c' : Control} {actions : List Action}
    (h : FaultEntry source c c' actions) (inputs : PassInputs) :
    (c'.reacted inputs).DiagInvariant ∧ (c'.reacted inputs).Supervised := by
  obtain ⟨hdiagnosed, hsupervised⟩ := Control.reacted_diagnosed h.state h.diagnosed.1 inputs
  exact ⟨⟨h.ownership.reacted h.state inputs, hdiagnosed⟩, hsupervised⟩

theorem FsaMove.diagInvariant {inputs : PassInputs} {r : Reads} {c c' : Control}
    {actions : List Action} (hmove : FsaMove inputs r c c' actions) (h : c.DiagInvariant) :
    c'.DiagInvariant ∧ (c.Supervised → c'.Supervised) := by
  have hownership := hmove.ownership h.ownership
  cases hmove with
  | skipped _ => exact ⟨h, id⟩
  | readFailed _ hentry => exact ⟨(hentry.reacted inputs).1, fun _ => (hentry.reacted inputs).2⟩
  | waiting _ _ _ =>
      exact ⟨⟨hownership, ⟨h.diagnosed.active_faulted, h.diagnosed.faulted_recorded⟩⟩, id⟩
  | powerUp _ _ hidle hstate =>
      have hbefore : c.state.faulted = false := by rw [hstate]; rfl
      exact ⟨⟨hownership, h.diagnosed.of_state rfl hbefore rfl⟩,
        fun hsupervised => hsupervised.of_state rfl hbefore⟩
  | transition controlword _ hlatch hcall =>
      have hlatched := hlatch.latched (h.ownership.sampled controlword)
      have htarget := (target_of_transitionTarget hlatched.target).2
      cases hcall with
      | busy _ =>
          have hafter : _ = false := (congrArg State.faulted hlatched.state).trans hlatched.normal
          exact ⟨⟨hownership, h.diagnosed.of_state hlatched.diagnosis hlatched.normal hafter⟩,
            fun hsupervised => hsupervised.of_state hlatched.diagnosis hlatched.normal⟩
      | done _ =>
          exact ⟨⟨hownership, h.diagnosed.of_state hlatched.diagnosis hlatched.normal htarget⟩,
            fun hsupervised => hsupervised.of_state hlatched.diagnosis hlatched.normal⟩
      | error _ hentry => exact ⟨hentry.diagInvariant, fun _ => hentry.diagnosed.2⟩
  | takeoverFailed _ _ _ hentry =>
      exact ⟨(hentry.reacted inputs).1, fun _ => (hentry.reacted inputs).2⟩
  | reaction controlword _ hstate =>
      obtain ⟨hdiagnosed, hsupervised⟩ := Control.reacted_diagnosed
        (c := c.sampled controlword) hstate
        ⟨h.diagnosed.active_faulted, h.diagnosed.faulted_recorded⟩ inputs
      exact ⟨⟨hownership, hdiagnosed⟩, fun _ => hsupervised⟩
  | resetBusy _ _ _ _ _ _ =>
      exact ⟨⟨hownership, ⟨h.diagnosed.active_faulted, h.diagnosed.faulted_recorded⟩⟩, id⟩
  | @resetDone controlword _ _ _ _ _ _ hcontract d _ hclear =>
      have hd : d.active = false ∧ d.contractFailed = false := by
        rcases hclear with ⟨hactive, rfl, -⟩ | ⟨event, -, -, -, rfl, -⟩
        · exact ⟨hactive, hcontract⟩
        · exact ⟨rfl, hcontract⟩
      refine ⟨⟨hownership, ⟨fun hactive => ?_, fun hstate => ?_⟩⟩, fun _ hfailed => ?_⟩
      · exact absurd (hd.1.symm.trans hactive) Bool.false_ne_true
      · exact absurd hstate Bool.false_ne_true
      · exact absurd (hd.2.symm.trans hfailed) Bool.false_ne_true
  | resetFailed _ _ _ _ _ _ hentry => exact ⟨hentry.diagInvariant, fun _ => hentry.diagnosed.2⟩
  | invalid _ _ _ hentry => exact ⟨hentry.diagInvariant, fun _ => hentry.diagnosed.2⟩

theorem ModeMove.diagInvariant {inputs : PassInputs} {r : Reads} {c c' : Control}
    {actions : List Action} (hmove : ModeMove inputs r c c' actions) (h : c.DiagInvariant) :
    c'.DiagInvariant ∧ (c.Supervised → c'.Supervised) := by
  have hownership := hmove.ownership h.ownership
  have hkeep : ∀ {c₁ : Control}, c₁.Ownership → c₁.diagnosis = c.diagnosis →
      c₁.state = c.state → c₁.DiagInvariant ∧ (c.Supervised → c₁.Supervised) := by
    intro c₁ hc₁ hdiagnosis hstate
    refine ⟨⟨hc₁, ⟨?_, ?_⟩⟩, ?_⟩
    · rw [hdiagnosis, hstate]; exact h.diagnosed.active_faulted
    · rw [hdiagnosis, hstate]; exact h.diagnosed.faulted_recorded
    · unfold Control.Supervised
      rw [hdiagnosis, hstate]
      exact id
  cases hmove with
  | idle => exact ⟨h, id⟩
  | active _ _ _ _ => exact ⟨h, id⟩
  | activeFailed _ _ _ _ hentry => exact ⟨hentry.diagInvariant, fun _ => hentry.diagnosed.2⟩
  | exit _ hop _ _ hcall =>
      cases hcall with
      | busy _ => exact hkeep hownership rfl rfl
      | done _ => exact hkeep hownership rfl rfl
      | error _ hentry => exact ⟨hentry.diagInvariant, fun _ => hentry.diagnosed.2⟩
  | enter _ hop _ _ _ hcall =>
      cases hcall with
      | busy _ => exact hkeep hownership rfl rfl
      | done _ => exact hkeep hownership rfl rfl
      | error _ hentry => exact ⟨hentry.diagInvariant, fun _ => hentry.diagnosed.2⟩

theorem PassMove.diagInvariant {inputs : PassInputs} {r : Reads} {c c' : Control}
    {actions : List Action} (hmove : PassMove inputs r c c' actions) (h : c.DiagInvariant) :
    c'.DiagInvariant ∧ (c.Supervised → c'.Supervised) := by
  obtain ⟨hpoll, hsupervise, -⟩ := hmove
  rename_i c₁ _ _ _
  have hpolled : c₁.DiagInvariant ∧ (c.Supervised → c₁.Supervised) := by
    cases hpoll with
    | gated => exact ⟨h, id⟩
    | clean => exact ⟨h, id⟩
    | fault _ _ _ hentry => exact ⟨hentry.diagInvariant, fun _ => hentry.diagnosed.2⟩
  cases hsupervise with
  | latched _ _ => exact hpolled
  | readFailed _ hentry =>
      exact ⟨(hentry.reacted inputs).1, fun _ => (hentry.reacted inputs).2⟩
  | processed _ _ hfsa hmodes =>
      obtain ⟨hinv₁, hsupervised₁⟩ := hfsa.diagInvariant hpolled.1
      obtain ⟨hinv₂, hsupervised₂⟩ := hmodes.diagInvariant hinv₁
      exact ⟨hinv₂, fun hsupervised => hsupervised₂ (hsupervised₁ (hpolled.2 hsupervised))⟩

theorem diagInvariant_processAxis (inputs : PassInputs) {axis : Axis}
    (h : axis.control.DiagInvariant) :
    (processAxis inputs axis).control.DiagInvariant ∧
      (axis.control.Supervised → (processAxis inputs axis).control.Supervised) := by
  obtain ⟨_, _, hmove, rfl, -⟩ := h.ownership.passMove inputs
  exact hmove.diagInvariant h

theorem processAxis_polls (inputs : PassInputs) {axis : Axis} (h : axis.control.DiagInvariant)
    (hsupervised : axis.control.Supervised) (hstate : axis.state.faulted = false) :
    ∃ rest, (processAxis inputs axis).trace =
      axis.trace ++ .getFaultInfo .product (inputs.getFaultInfo .product) :: rest := by
  have hactive := h.diagnosed.inactive hstate
  have hfailed := hsupervised.unfailed hstate
  obtain ⟨_, _, ⟨hpoll, -, -⟩, -, htrace⟩ := h.ownership.passMove inputs
  rw [htrace]
  cases hpoll with
  | gated hgate =>
      rw [hactive, hfailed] at hgate
      exact absurd hgate (by decide)
  | clean _ _ hnone =>
      rw [hnone]
      exact ⟨_, rfl⟩
  | fault _ _ hsome _ =>
      rw [hsome]
      exact ⟨_, rfl⟩

/-! ## Binding -/

/-- The logical devices whose publication a bind attempts: up to the first one
with a rejected write. -/
def publishedBy (writes : LogicalDevice → BindWrites) : List LogicalDevice → List LogicalDevice
  | [] => []
  | logicalDevice :: rest =>
      logicalDevice ::
        if (writes logicalDevice).supportedDriveModes && (writes logicalDevice).errorCode then
          publishedBy writes rest
        else []

/-- No Error-code restore that this bind attempts fails on an axis outside the
fault path. A bind that rejects the dictionary attempts none. -/
def RestoresRunning (od : ObjectDictionary) (writes : LogicalDevice → BindWrites)
    (axes : List Axis) : Prop :=
  (forEachAxis (validateAxis od) axes).2 = none →
    ∀ axis ∈ axes, axis.logicalDevice ∈ publishedBy writes (axes.map Axis.logicalDevice) →
      (writes axis.logicalDevice).supportedDriveModes = true →
      (writes axis.logicalDevice).errorCode = false → axis.state.faulted = true

theorem publishAxis_failed {writes : LogicalDevice → BindWrites} {axis : Axis}
    (h : (publishAxis writes axis).1.diagnosis.contractFailed = true) :
    axis.diagnosis.contractFailed = true ∨
      (writes axis.logicalDevice).supportedDriveModes = true ∧
        (writes axis.logicalDevice).errorCode = false := by
  unfold publishAxis restoreAxis at h
  dsimp only at h
  by_cases hmodes : ((axis.od .supportedDriveModes).isNone ||
      !(writes axis.logicalDevice).supportedDriveModes) = true
  · rw [if_pos hmodes] at h
    exact .inl h
  · have hwritten : (writes axis.logicalDevice).supportedDriveModes = true := by
      rw [Bool.not_eq_true, Bool.or_eq_false_iff, Bool.not_eq_false'] at hmodes
      exact hmodes.2
    rw [if_neg hmodes] at h
    cases herror : (writes axis.logicalDevice).errorCode with
    | false => exact .inr ⟨hwritten, rfl⟩
    | true =>
        simp only [herror, Bool.not_true, Bool.false_eq_true, if_false] at h
        split_ifs at h <;> exact .inl h

theorem publishAxis_accepted {writes : LogicalDevice → BindWrites} {axis : Axis}
    (h : (publishAxis writes axis).2 = none) :
    ((writes axis.logicalDevice).supportedDriveModes &&
      (writes axis.logicalDevice).errorCode) = true := by
  unfold publishAxis restoreAxis at h
  dsimp only at h
  cases hmodes : (writes axis.logicalDevice).supportedDriveModes with
  | false => simp [hmodes] at h
  | true =>
      cases herror : (writes axis.logicalDevice).errorCode with
      | true => rfl
      | false =>
          exfalso
          simp only [hmodes, herror, Bool.not_false, if_true] at h
          split_ifs at h

theorem mem_forEachAxis_publish {writes : LogicalDevice → BindWrites} {axes : List Axis}
    {axis : Axis} (h : axis ∈ (forEachAxis (publishAxis writes) axes).1) :
    ∃ before ∈ axes, axis = before ∨
      axis = (publishAxis writes before).1 ∧
        before.logicalDevice ∈ publishedBy writes (axes.map Axis.logicalDevice) := by
  induction axes with
  | nil => exact absurd h (List.not_mem_nil)
  | cons first rest ih =>
      have hreached : first.logicalDevice ∈
          publishedBy writes ((first :: rest).map Axis.logicalDevice) := List.mem_cons_self
      unfold forEachAxis at h
      split at h
      · rename_i first' diag hfirst
        rcases List.mem_cons.mp h with rfl | hrest
        · exact ⟨first, List.mem_cons_self, .inr ⟨by rw [hfirst], hreached⟩⟩
        · exact ⟨axis, List.mem_cons_of_mem _ hrest, .inl rfl⟩
      · rename_i first' hfirst
        rcases List.mem_cons.mp h with rfl | hrest
        · exact ⟨first, List.mem_cons_self, .inr ⟨by rw [hfirst], hreached⟩⟩
        · obtain ⟨before, hmem, heq⟩ := ih hrest
          refine ⟨before, List.mem_cons_of_mem _ hmem, heq.imp_right ?_⟩
          rintro ⟨heq, hpublished⟩
          refine ⟨heq, List.mem_cons_of_mem _ ?_⟩
          rw [if_pos (publishAxis_accepted (by rw [hfirst]))]
          exact hpublished

/-- A bind whose restores succeed on running axes keeps every axis supervised. -/
theorem supervised_bindOD (writes : LogicalDevice → BindWrites) (manager : Manager)
    (hrestores : RestoresRunning manager.od writes manager.axes)
    (h : ∀ axis ∈ manager.axes, axis.control.Supervised) :
    ∀ axis ∈ (bindOD writes manager).1.axes, axis.control.Supervised := by
  have hdevices := logicalDevice_forEachAxis (logicalDevice_validateAxis manager.od) manager.axes
  -- A validated axis is an axis of the manager up to its cache.
  have hvalidated : ∀ axis ∈ (forEachAxis (validateAxis manager.od) manager.axes).1,
      ∃ before ∈ manager.axes, axis.control = before.control ∧
        axis.logicalDevice = before.logicalDevice := by
    intro axis hmem
    obtain ⟨before, hbefore, rfl | rfl⟩ := mem_forEachAxis hmem
    · exact ⟨_, hbefore, rfl, rfl⟩
    · refine ⟨_, hbefore, control_validateAxis _ _, ?_⟩
      rw [validateAxis_cacheOnly manager.od before]
  have hkept : ∀ axis ∈ (forEachAxis (validateAxis manager.od) manager.axes).1,
      axis.control.Supervised := by
    intro axis hmem
    obtain ⟨before, hbefore, hcontrol, -⟩ := hvalidated axis hmem
    rw [hcontrol]
    exact h before hbefore
  unfold bindOD
  split_ifs
  · exact h
  · unfold RestoresRunning at hrestores
    split
    · rename_i axes diag heq
      rw [heq] at hkept
      exact hkept
    · rename_i axes heq
      rw [heq] at hvalidated hkept hdevices hrestores
      have hpublished : ∀ axis ∈ (forEachAxis (publishAxis writes) axes).1,
          axis.control.Supervised := by
        intro axis hmem
        obtain ⟨before, hbefore, rfl | ⟨rfl, hreached⟩⟩ := mem_forEachAxis_publish hmem
        · exact hkept _ hbefore
        · obtain ⟨d, hcontrol⟩ := control_publishAxis writes before
          intro hfailed
          rw [hcontrol]
          rcases publishAxis_failed hfailed with hold | ⟨hmodes, herror⟩
          · exact hkept before hbefore hold
          · obtain ⟨origin, horigin, hsame, hdevice⟩ := hvalidated before hbefore
            have hstate : before.state = origin.state := congrArg Control.state hsame
            rw [hdevices, hdevice] at hreached
            rw [hdevice] at hmodes herror
            rw [Axis.control_state, hstate]
            exact hrestores rfl origin horigin hreached hmodes herror
      split
      · rename_i heq'
        rw [heq'] at hpublished
        exact hpublished
      · rename_i heq'
        rw [heq'] at hpublished
        exact hpublished

/-! ## Runs of the manager -/

/-- The condition on one step of a run: a bind restores the Error code of every
running axis it reaches. -/
def BindsRestore (manager : Manager) : Step → Prop
  | .bindOD od writes => RestoresRunning od writes manager.axes
  | _ => True

theorem Control.DiagInvariant.of_diagnosis {c : Control} (h : c.DiagInvariant) {d : DiagRuntime}
    (hactive : d.active = c.diagnosis.active)
    (hfailed : c.diagnosis.contractFailed = true → d.contractFailed = true) :
    ({ c with diagnosis := d } : Control).DiagInvariant := by
  refine ⟨h.ownership.withDiagnosis d, ⟨?_, ?_⟩⟩
  · intro hd
    exact h.diagnosed.active_faulted (hactive.symm.trans hd)
  · intro hstate
    exact (h.diagnosed.faulted_recorded hstate).imp (fun h => hactive.trans h) hfailed

theorem diagInvariant_boundAxis (config : ValidAxisConfig) (image : ODImage) (od : ODCache) :
    (boundAxis config image od).control.DiagInvariant :=
  ⟨ownership_boundAxis config image od,
    ⟨fun h => absurd h Bool.false_ne_true, fun h => absurd h Bool.false_ne_true⟩⟩

/-- Publishing a binding keeps the active flag and never clears a failure. -/
theorem diagInvariant_publishAxis (writes : LogicalDevice → BindWrites) {axis : Axis}
    (h : axis.control.DiagInvariant) : (publishAxis writes axis).1.control.DiagInvariant := by
  have hkept : (publishAxis writes axis).1.diagnosis.active = axis.diagnosis.active ∧
      (axis.diagnosis.contractFailed = true →
        (publishAxis writes axis).1.diagnosis.contractFailed = true) := by
    unfold publishAxis restoreAxis contractFailure
    dsimp only
    split_ifs <;> exact ⟨rfl, fun hfailed => by first | exact hfailed | rfl⟩
  obtain ⟨d, hcontrol⟩ := control_publishAxis writes axis
  have hd : (publishAxis writes axis).1.diagnosis = d := congrArg Control.diagnosis hcontrol
  rw [hd] at hkept
  rw [hcontrol]
  exact h.of_diagnosis hkept.1 hkept.2

theorem AxisReachable.diagInvariant {axis : Axis} (h : AxisReachable axis) :
    axis.control.DiagInvariant := by
  induction h with
  | init config image => exact diagInvariant_boundAxis config image fun _ => none
  | publishInitial _ written ih => exact ih
  | validate _ od ih =>
      rw [control_validateAxis]
      exact ih
  | publish _ writes ih => exact diagInvariant_publishAxis writes ih
  | pass _ inputs ih => exact (diagInvariant_processAxis inputs ih).1
  | sync _ inputs sequence ih =>
      rw [(syncAxis_only inputs sequence _).control]
      exact ih
  | reset _ ih => exact ih

theorem supervised_step {manager : Manager} {step : Step} (hreachable : Reachable manager)
    (hstep : BindsRestore manager step) (h : ∀ axis ∈ manager.axes, axis.control.Supervised) :
    ∀ axis ∈ (manager.step step).axes, axis.control.Supervised := by
  cases step with
  | process inputs =>
      simp only [Manager.step, process]
      split_ifs
      · exact h
      · intro axis hmem
        obtain ⟨before, hbefore, rfl⟩ := List.mem_map.mp hmem
        have hinvariant := (hreachable.axisReachable before hbefore).diagInvariant
        exact (diagInvariant_processAxis _ hinvariant).2 (h before hbefore)
  | processSync inputs =>
      by_cases hbound : manager.odBound = true
      · simp only [Manager.step, processSyncLocked_axes inputs manager hbound]
        intro axis hmem
        obtain ⟨before, hbefore, rfl⟩ := List.mem_map.mp hmem
        rw [(syncAxis_only _ _ before).control]
        exact h before hbefore
      · simp only [Manager.step, processSyncLocked, hbound]
        exact h
  | bindOD od writes => exact supervised_bindOD writes _ hstep h
  | communicationReset =>
      intro axis hmem
      obtain ⟨before, hbefore, rfl⟩ := List.mem_map.mp hmem
      exact h before hbefore

/-- What the diagnosis of an axis owes to its state, and the poll to both. -/
structure DiagContract (axis : Axis) : Prop where
  active_faulted : axis.diagnosis.active = true →
    axis.state = .faultReactionActive ∨ axis.state = .fault
  faulted_recorded : axis.state = .faultReactionActive ∨ axis.state = .fault →
    axis.diagnosis.active = true ∨ axis.diagnosis.contractFailed = true
  failed_faulted : axis.diagnosis.contractFailed = true →
    axis.state = .faultReactionActive ∨ axis.state = .fault
  polled : ¬ (axis.state = .faultReactionActive ∨ axis.state = .fault) → ∀ inputs, ∃ rest,
    (processAxis inputs axis).trace =
      axis.trace ++ .getFaultInfo .product (inputs.getFaultInfo .product) :: rest

theorem diagContract_of_supervised {axis : Axis} (h : axis.control.DiagInvariant)
    (hsupervised : axis.control.Supervised) : DiagContract axis where
  active_faulted := fun hactive => (faulted_iff _).mp (h.diagnosed.active_faulted hactive)
  faulted_recorded := fun hstate => h.diagnosed.faulted_recorded ((faulted_iff _).mpr hstate)
  failed_faulted := fun hfailed => (faulted_iff _).mp (hsupervised hfailed)
  polled := by
    intro hstate inputs
    rw [← faulted_iff, Bool.not_eq_true] at hstate
    exact processAxis_polls inputs h hsupervised hstate

theorem supervised_managerInit {od : ObjectDictionary} {generated : LogicalDevice → ODImage}
    {configs : List AxisConfig} {valid : List ValidAxisConfig}
    {writes : LogicalDevice → BindWrites} {written : LogicalDevice → Bool × Bool}
    {manager : Manager} {diag : InitDiag}
    (hinit : managerInit od generated configs writes written = (some manager, diag))
    (hvalid : validateConfigs configs = .ok valid)
    (hrestores : RestoresRunning od writes
      (valid.map fun config => axisInit config (generated config.logicalDevice))) :
    ∀ axis ∈ manager.axes, axis.control.Supervised := by
  have hfresh : ∀ axis ∈ valid.map fun config => axisInit config (generated config.logicalDevice),
      axis.control.Supervised := by
    intro axis hmem
    obtain ⟨config, -, rfl⟩ := List.mem_map.mp hmem
    exact fun hfailed => absurd hfailed Bool.false_ne_true
  have hbound := supervised_bindOD writes ⟨od, _, false, 0⟩ hrestores hfresh
  rw [managerInit, hvalid] at hinit
  dsimp only at hinit
  split_ifs at hinit
  · obtain ⟨hmanager, -⟩ := Prod.mk.inj hinit
    rw [← Option.some.inj hmanager]
    intro axis hmem
    obtain ⟨bound, hmem', rfl⟩ := List.mem_map.mp hmem
    exact hbound bound hmem'
  · obtain ⟨hmanager, -⟩ := Prod.mk.inj hinit
    rw [← Option.some.inj hmanager]
    exact hbound

/-- A reachable manager all of whose axes are supervised. -/
def Manager.Watched (manager : Manager) : Prop :=
  Reachable manager ∧ ∀ axis ∈ manager.axes, axis.control.Supervised

/-- In a run whose binds restore the Error code of every running axis, the
diagnostic contract holds in every state. -/
theorem diagContract_of_run {od : ObjectDictionary} {generated : LogicalDevice → ODImage}
    {configs : List AxisConfig} {valid : List ValidAxisConfig}
    {writes : LogicalDevice → BindWrites} {written : LogicalDevice → Bool × Bool}
    {manager : Manager} {diag : InitDiag}
    (hinit : managerInit od generated configs writes written = (some manager, diag))
    (hvalid : validateConfigs configs = .ok valid)
    (hrestores : RestoresRunning od writes
      (valid.map fun config => axisInit config (generated config.logicalDevice)))
    {steps : List Step} (hsteps : EveryStep Manager.step BindsRestore manager steps) :
    ∀ axis ∈ (run Manager.step manager steps).axes, DiagContract axis := by
  have hrun : (run Manager.step manager steps).Watched :=
    run_invariant_of_everyStep
      (fun manager step hinv hstep => ⟨hinv.1.step step, supervised_step hinv.1 hstep hinv.2⟩)
      ⟨.init hinit, supervised_managerInit hinit hvalid hrestores⟩ hsteps
  intro axis hmem
  exact diagContract_of_supervised (hrun.1.axisReachable axis hmem).diagInvariant
    (hrun.2 axis hmem)

/-- A run with a product fault and a rebind while it is latched. -/
def faultThenRebind : List Step :=
  [.process fun _ => {}, .process fun _ => { getFaultInfo := fun _ => some ⟨0x2310, 0x2310, 1⟩ },
    .bindOD cyclicDictionary fun _ => {}]

theorem diagContract_cyclicRun :
    ∃ axis ∈ (run Manager.step cyclicManager faultThenRebind).axes,
      axis.diagnosis.active = true ∧ DiagContract axis := by
  have hrestores : ∀ axes, RestoresRunning cyclicDictionary (fun _ => {}) axes :=
    fun _ _ _ _ _ _ herror => absurd herror.symm Bool.false_ne_true
  obtain ⟨axis, hmem, hactive⟩ : ∃ axis ∈ (run Manager.step cyclicManager faultThenRebind).axes,
      axis.diagnosis.active = true := by decide +kernel
  have hbinds : EveryStep Manager.step BindsRestore cyclicManager faultThenRebind :=
    ⟨trivial, trivial, hrestores _, trivial⟩
  exact ⟨axis, hmem, hactive, diagContract_of_run cyclicInit_eq rfl (hrestores _) hbinds axis hmem⟩

/-- A rebind whose Error-code restore fails, and a bind that succeeds. -/
def failedRestore : List Step :=
  [.process fun _ => {}, .bindOD cyclicDictionary fun _ => { errorCode := false },
    .bindOD cyclicDictionary fun _ => {}]

/-- A restore that fails while the axis is outside the fault path leaves it
running after the next bind, with the poll switched off for good. -/
theorem diagContract_fails_after_failedRestore :
    ∃ manager, Reachable manager ∧ manager.odBound = true ∧ ∃ axis ∈ manager.axes,
      axis.state = .switchOnDisabled ∧ axis.diagnosis.contractFailed = true ∧
      (processAxis { getFaultInfo := fun _ => some ⟨0x2310, 0x2310, 1⟩ } axis).trace =
        axis.trace ++ [.getPosition, .getVelocity] ∧ ¬ DiagContract axis := by
  have hbound : (run Manager.step cyclicManager failedRestore).odBound = true := by
    decide +kernel
  obtain ⟨axis, hmem, hstate, hfailed, htrace⟩ :
      ∃ axis ∈ (run Manager.step cyclicManager failedRestore).axes,
        axis.state = .switchOnDisabled ∧ axis.diagnosis.contractFailed = true ∧
        (processAxis { getFaultInfo := fun _ => some ⟨0x2310, 0x2310, 1⟩ } axis).trace =
          axis.trace ++ [.getPosition, .getVelocity] := by
    decide +kernel
  refine ⟨_, reachable_cyclicManager.run failedRestore, hbound, axis, hmem, hstate, hfailed,
    htrace, ?_⟩
  intro hcontract
  have hfaulted := hcontract.failed_faulted hfailed
  rw [hstate] at hfaulted
  exact absurd hfaulted (by decide)

end CanopenRtt.Cia402.Device
