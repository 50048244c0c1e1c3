import CanopenRtt.Cia402.Device.Reachable
/-!
# Coherence of the cyclic synchronous bridge

What one SYNC generation does to one axis, from the answers of its own
surroundings: the command it publishes, the feedback it accepts and the process
image it leaves. The four loops of `CO_402_device_processSyncLocked` add the
order of the phases and the sequence number, and nothing else.
-/

namespace CanopenRtt.Cia402.Device

open CanopenRtt.Support

/-! ## The published command -/

/-- The SYNC path owns the drive of the axis: stable PDS and mode control, a
complete SyncIF, and a live control plane that agrees. -/
structure CyclicOwner (inputs : SyncInputs) (axis : Axis) : Prop where
  enabled : axis.state = .operationEnabled
  pds : axis.pdsTransitionOperation = none
  exit : axis.pendingExitMode = .none
  enter : axis.pendingEnterMode = .none
  cyclic : isCyclicMode axis.mode = true
  complete : ∃ sync, axis.sync = some sync ∧ sync.publishCommand = true ∧ sync.readFeedback = true
  command : ∃ controlword, inputs.controlword = some controlword ∧
    pdsCommand controlword = .enableOperation
  request : inputs.modesOfOperation = some axis.mode.raw

theorem syncComplete_iff (sync : Option SyncIf) :
    syncComplete sync = true ↔
      ∃ present, sync = some present ∧ present.publishCommand = true ∧
        present.readFeedback = true := by
  cases sync <;> simp [syncComplete]

theorem syncControlPlaneStable_iff (controlword : Option Word) (modesOfOperation : Option ModeRaw)
    (axis : Axis) :
    syncControlPlaneStable controlword modesOfOperation axis = true ↔
      (∃ word, controlword = some word ∧ pdsCommand word = .enableOperation) ∧
        modesOfOperation = some axis.mode.raw := by
  unfold syncControlPlaneStable
  cases controlword with
  | none => simp
  | some word =>
      cases modesOfOperation with
      | none => simp
      | some raw =>
          have hraw : modeFromRaw raw = some axis.mode ↔ raw = axis.mode.raw :=
            ⟨raw_of_modeFromRaw, fun h => by rw [h, modeFromRaw_raw]⟩
          simp [hraw]

theorem syncFastPathEligible_iff (inputs : SyncInputs) (axis : Axis) :
    syncFastPathEligible inputs.controlword inputs.modesOfOperation axis = true ↔
      CyclicOwner inputs axis := by
  unfold syncFastPathEligible
  simp only [Bool.and_eq_true, syncComplete_iff, syncControlPlaneStable_iff, decide_eq_true_eq,
    Option.isNone_iff_eq_none, Bool.not_eq_true', modeTransitionPending_eq_false]
  constructor
  · rintro ⟨⟨⟨⟨⟨hstate, hop⟩, hexit, henter⟩, hcomplete⟩, hcyclic⟩, hcommand, hrequest⟩
    exact ⟨hstate, hop, hexit, henter, hcyclic, hcomplete, hcommand, hrequest⟩
  · rintro ⟨hstate, hop, hexit, henter, hcyclic, hcomplete, hcommand, hrequest⟩
    exact ⟨⟨⟨⟨⟨hstate, hop⟩, hexit, henter⟩, hcomplete⟩, hcyclic⟩, hcommand, hrequest⟩

/-- The command of a mode: its live target, and zero in every other field. -/
def liveCommand (inputs : SyncInputs) (sequence : BitVec 32) : Mode → Option SyncCommand
  | .cyclicSyncPosition => inputs.targetPosition.map fun target =>
      { sequence := sequence, mode := .cyclicSyncPosition, targetPosition := target }
  | .cyclicSyncVelocity => inputs.targetVelocity.map fun target =>
      { sequence := sequence, mode := .cyclicSyncVelocity, targetVelocity := target }
  | .cyclicSyncTorque => inputs.targetTorque.map fun target =>
      { sequence := sequence, mode := .cyclicSyncTorque, targetTorque := target }
  | .none | .profilePosition | .profileVelocity | .homing => none

theorem snapshotCommand_eq (inputs : SyncInputs) (sequence : BitVec 32) (mode : Mode) :
    snapshotCommand inputs sequence mode =
      match liveCommand inputs sequence mode with
      | some command => (command, true)
      | none => ({ sequence := sequence, mode := mode }, false) := by
  unfold snapshotCommand liveCommand
  cases mode with
  | cyclicSyncPosition => cases inputs.targetPosition <;> rfl
  | cyclicSyncVelocity => cases inputs.targetVelocity <;> rfl
  | cyclicSyncTorque => cases inputs.targetTorque <;> rfl
  | _ => rfl

/-- The command the axis offers for publication in this generation. -/
def offered (inputs : SyncInputs) (sequence : BitVec 32) (axis : Axis) : Option SyncCommand :=
  if syncFastPathEligible inputs.controlword inputs.modesOfOperation axis then
    liveCommand inputs sequence axis.mode
  else none

theorem offered_eq_some_iff {inputs : SyncInputs} {sequence : BitVec 32} {axis : Axis}
    {command : SyncCommand} :
    offered inputs sequence axis = some command ↔
      CyclicOwner inputs axis ∧ liveCommand inputs sequence axis.mode = some command := by
  unfold offered
  by_cases howner : syncFastPathEligible inputs.controlword inputs.modesOfOperation axis = true
  · rw [if_pos howner]
    simp [(syncFastPathEligible_iff inputs axis).mp howner]
  · rw [if_neg howner]
    simp [mt (syncFastPathEligible_iff inputs axis).mpr howner]

/-- The feedback that the axis accepts for this generation. -/
def answered (inputs : SyncInputs) (sequence : BitVec 32) (axis : Axis) : Option SyncFeedback :=
  (offered inputs sequence axis).bind fun command =>
    if inputs.publishCommand command then
      inputs.readFeedback.filter fun feedback => feedback.sequence = sequence
    else none

theorem answered_eq_some_iff {inputs : SyncInputs} {sequence : BitVec 32} {axis : Axis}
    {feedback : SyncFeedback} :
    answered inputs sequence axis = some feedback ↔
      ∃ command, offered inputs sequence axis = some command ∧
        inputs.publishCommand command = true ∧ inputs.readFeedback = some feedback ∧
        feedback.sequence = sequence := by
  unfold answered
  rw [Option.bind_eq_some_iff]
  refine exists_congr fun command => and_congr_right fun _ => ?_
  split_ifs with hpublish
  · simp [hpublish, Option.filter_eq_some_iff]
  · simp [hpublish]

/-! ## The three bus phases of one axis -/

/-- The axis after snapshot, publication and feedback. -/
def exchanged (inputs : SyncInputs) (sequence : BitVec 32) (axis : Axis) : Axis :=
  (syncFeedback inputs sequence (syncPublish inputs (syncSnapshot inputs sequence axis).1).1).1

/-- The SYNC runtime between the bus phases and the process image. -/
structure Exchanged (inputs : SyncInputs) (sequence : BitVec 32) (axis : Axis)
    (runtime : SyncRuntime) : Prop where
  active : runtime.active = (offered inputs sequence axis).isSome
  published : runtime.commandPublished = (offered inputs sequence axis).any inputs.publishCommand
  fresh : runtime.feedbackFresh = (answered inputs sequence axis).isSome
  feedback : ∀ feedback, answered inputs sequence axis = some feedback →
    runtime.feedback = feedback

theorem syncSnapshot_offered {inputs : SyncInputs} {sequence : BitVec 32} {axis : Axis}
    {command : SyncCommand} (h : offered inputs sequence axis = some command) :
    syncSnapshot inputs sequence axis =
      ({ axis with
          syncRuntime :=
            { axis.syncRuntime with
              command := command, active := true, commandPublished := false,
              feedbackFresh := false } },
        [.snapshot axis.logicalDevice command true]) := by
  obtain ⟨howner, hlive⟩ := offered_eq_some_iff.mp h
  have heligible := (syncFastPathEligible_iff inputs axis).mpr howner
  simp only [syncSnapshot, heligible, snapshotCommand_eq, hlive]
  rfl

theorem syncSnapshot_idle {inputs : SyncInputs} {sequence : BitVec 32} {axis : Axis}
    (h : offered inputs sequence axis = none) :
    (syncSnapshot inputs sequence axis).1.syncRuntime.active = false ∧
      (syncSnapshot inputs sequence axis).1.syncRuntime.commandPublished = false ∧
      (syncSnapshot inputs sequence axis).1.syncRuntime.feedbackFresh = false := by
  unfold offered at h
  unfold syncSnapshot
  by_cases heligible : syncFastPathEligible inputs.controlword inputs.modesOfOperation axis = true
  · rw [if_pos heligible] at h
    simp only [heligible, snapshotCommand_eq, h]
    exact ⟨rfl, rfl, rfl⟩
  · simp [heligible]

theorem syncSnapshot_frame (inputs : SyncInputs) (sequence : BitVec 32) (axis : Axis) :
    (syncSnapshot inputs sequence axis).1 =
      { axis with syncRuntime := (syncSnapshot inputs sequence axis).1.syncRuntime } := by
  unfold syncSnapshot
  dsimp only
  split_ifs <;> rfl

theorem exchanged_spec (inputs : SyncInputs) (sequence : BitVec 32) (axis : Axis) :
    ∃ runtime, exchanged inputs sequence axis = { axis with syncRuntime := runtime } ∧
      Exchanged inputs sequence axis runtime := by
  unfold exchanged
  cases hoffered : offered inputs sequence axis with
  | none =>
      obtain ⟨hactive, hpublished, hfresh⟩ := syncSnapshot_idle hoffered
      have hanswered : answered inputs sequence axis = none := by
        rw [answered, hoffered]
        rfl
      have hkeep : (syncFeedback inputs sequence
          (syncPublish inputs (syncSnapshot inputs sequence axis).1).1).1 =
          (syncSnapshot inputs sequence axis).1 := by
        simp only [syncPublish, hactive, syncFeedback, Bool.not_false, if_true, Bool.true_or]
      rw [hkeep]
      refine ⟨_, syncSnapshot_frame inputs sequence axis, ?_⟩
      exact {
        active := by rw [hactive, hoffered]; rfl
        published := by rw [hpublished, hoffered]; rfl
        fresh := by rw [hfresh, hanswered]; rfl
        feedback := fun feedback h => absurd (hanswered.symm.trans h) (by simp) }
  | some command =>
      rw [syncSnapshot_offered hoffered]
      simp only [syncPublish, Bool.not_true, Bool.false_eq_true, if_false, syncFeedback]
      cases hpublish : inputs.publishCommand command with
      | false =>
          have hanswered : answered inputs sequence axis = none := by
            rw [answered, hoffered, Option.bind_some, hpublish]
            rfl
          simp only [Bool.not_false, Bool.or_true, if_true]
          refine ⟨_, rfl, ?_⟩
          exact {
            active := by rw [hoffered]; rfl
            published := by rw [hoffered, Option.any_some, hpublish]
            fresh := by rw [hanswered]; rfl
            feedback := fun feedback h => absurd (hanswered.symm.trans h) (by simp) }
      | true =>
          simp only [Bool.not_true, Bool.or_false, Bool.false_eq_true, if_false]
          cases hread : inputs.readFeedback with
          | none =>
              have hanswered : answered inputs sequence axis = none := by
                rw [answered, hoffered, Option.bind_some, hpublish, if_pos rfl, hread]
                rfl
              refine ⟨_, rfl, ?_⟩
              exact {
                active := by rw [hoffered]; rfl
                published := by rw [hoffered, Option.any_some, hpublish]
                fresh := by rw [hanswered]; rfl
                feedback := fun feedback h => absurd (hanswered.symm.trans h) (by simp) }
          | some feedback =>
              have hanswered : answered inputs sequence axis =
                  if feedback.sequence = sequence then some feedback else none := by
                rw [answered, hoffered, Option.bind_some, hpublish, if_pos rfl, hread,
                  Option.filter_some]
                simp
              refine ⟨_, rfl, ?_⟩
              refine {
                active := by rw [hoffered]; rfl
                published := by rw [hoffered, Option.any_some, hpublish]
                fresh := ?_
                feedback := ?_ }
              · rw [hanswered]
                by_cases hsequence : feedback.sequence = sequence <;> simp [hsequence]
              · intro other h
                rw [hanswered] at h
                split_ifs at h
                exact Option.some.inj h

/-! ## The process image of one axis -/

/-- Every actual value that the mode owns can be written. -/
def actualsWritable (inputs : SyncInputs) (mode : Mode) : Bool :=
  inputs.positionActualPtr && inputs.velocityActualPtr &&
    (mode ≠ .cyclicSyncTorque || inputs.torqueActualPtr)

/-- The feedback that reaches the process image in this generation. -/
def committed (inputs : SyncInputs) (sequence : BitVec 32) (axis : Axis) : Option SyncFeedback :=
  (answered inputs sequence axis).filter fun _ =>
    inputs.statuswordPtr && actualsWritable inputs axis.mode

/-- Statusword with the drive-follows bit replaced. -/
def withDriveFollows (statusword : Word) (follows : Bool) : Word :=
  (statusword &&& ~~~statuswordDriveFollowsCommand) |||
    (if follows then statuswordDriveFollowsCommand else 0)

/-- The process image after a generation whose feedback is `feedback`. -/
def ODImage.withFeedback (image : ODImage) (mode : Mode) (feedback : SyncFeedback) : ODImage :=
  { image with
    positionActualValue := feedback.positionActual
    velocityActualValue := feedback.velocityActual
    torqueActualValue :=
      if mode = .cyclicSyncTorque then feedback.torqueActual else image.torqueActualValue
    statusword := withDriveFollows image.statusword feedback.driveFollowsCommand }

/-- The process image after a generation without feedback to publish. -/
def ODImage.withoutFeedback (image : ODImage) : ODImage :=
  { image with statusword := withDriveFollows image.statusword false }

theorem syncStatuswordBits_of_exchanged {inputs : SyncInputs} {sequence : BitVec 32}
    {axis : Axis} {runtime : SyncRuntime} (h : Exchanged inputs sequence axis runtime) :
    syncStatuswordBits runtime =
      if (answered inputs sequence axis).any SyncFeedback.driveFollowsCommand then
        statuswordDriveFollowsCommand
      else 0 := by
  unfold syncStatuswordBits
  rw [h.active, h.published, h.fresh]
  cases hanswered : answered inputs sequence axis with
  | none => simp
  | some feedback =>
      obtain ⟨command, hoffered, hpublish, -⟩ := answered_eq_some_iff.mp hanswered
      rw [hoffered, h.feedback feedback hanswered]
      simp [hpublish]

theorem publishSyncImage_clears (inputs : SyncInputs) (statuswordPtr : Bool) {axis : Axis}
    (hbits : syncStatuswordBits axis.syncRuntime = 0) :
    publishSyncImage inputs statuswordPtr false axis =
      if statuswordPtr then ({ axis with image := axis.image.withoutFeedback }, true)
      else (axis, false) := by
  unfold publishSyncImage
  cases statuswordPtr with
  | false => rfl
  | true =>
      simp only [hbits, Bool.not_true, Bool.false_eq_true, if_false, Bool.false_and, if_true]
      rfl

theorem publishSyncImage_commits (inputs : SyncInputs) {axis : Axis}
    (hbits : syncStatuswordBits axis.syncRuntime =
      if axis.syncRuntime.feedback.driveFollowsCommand then statuswordDriveFollowsCommand else 0) :
    publishSyncImage inputs inputs.statuswordPtr true axis =
      if inputs.statuswordPtr && actualsWritable inputs axis.mode then
        ({ axis with image := axis.image.withFeedback axis.mode axis.syncRuntime.feedback }, true)
      else (axis, false) := by
  unfold publishSyncImage actualsWritable
  rw [hbits]
  cases inputs.statuswordPtr <;> cases inputs.positionActualPtr <;>
    cases inputs.velocityActualPtr <;> try rfl
  by_cases hmode : axis.mode = .cyclicSyncTorque
  · cases inputs.torqueActualPtr <;> simp [hmode, ODImage.withFeedback, withDriveFollows]
  · simp [hmode, ODImage.withFeedback, withDriveFollows]

/-- One generation of one axis: its process image and its SYNC runtime. -/
structure Generation (inputs : SyncInputs) (sequence : BitVec 32) (axis after : Axis) : Prop where
  image : after.image =
    match committed inputs sequence axis with
    | some feedback => axis.image.withFeedback axis.mode feedback
    | none =>
        if isCyclicMode axis.mode && (if (answered inputs sequence axis).isSome then
            inputs.statuswordPtrRetry else inputs.statuswordPtr) then axis.image.withoutFeedback
        else axis.image
  bits : syncStatuswordBits after.syncRuntime =
    if (committed inputs sequence axis).any SyncFeedback.driveFollowsCommand then
      statuswordDriveFollowsCommand
    else 0

theorem answered_cyclic {inputs : SyncInputs} {sequence : BitVec 32} {axis : Axis}
    {feedback : SyncFeedback} (h : answered inputs sequence axis = some feedback) :
    CyclicOwner inputs axis := by
  obtain ⟨command, hoffered, -⟩ := answered_eq_some_iff.mp h
  exact (offered_eq_some_iff.mp hoffered).1

/-- Without an accepted feedback, the process image loses at most bit 12. -/
theorem generation_unanswered {inputs : SyncInputs} {sequence : BitVec 32} {axis : Axis}
    {runtime : SyncRuntime} (h : Exchanged inputs sequence axis runtime)
    (hanswered : answered inputs sequence axis = none) :
    Generation inputs sequence axis (syncImage inputs { axis with syncRuntime := runtime }) := by
  have hcommitted : committed inputs sequence axis = none := by
    rw [committed, hanswered]
    rfl
  have hfresh : runtime.feedbackFresh = false := by
    rw [h.fresh, hanswered]
    rfl
  have hbits : syncStatuswordBits runtime = 0 := by
    rw [syncStatuswordBits_of_exchanged h, hanswered]
    rfl
  have hclear := @publishSyncImage_clears inputs inputs.statuswordPtr
    { axis with syncRuntime := runtime } hbits
  have hsync : syncImage inputs { axis with syncRuntime := runtime } =
      { axis with
        syncRuntime := runtime
        image :=
          if isCyclicMode axis.mode && inputs.statuswordPtr then axis.image.withoutFeedback
          else axis.image } := by
    unfold syncImage
    simp only [hfresh, Bool.and_false, hclear]
    cases isCyclicMode axis.mode <;> cases inputs.statuswordPtr <;> rfl
  rw [hsync]
  refine {
    image := ?_
    bits := ?_ }
  · rw [hcommitted, hanswered]
    rfl
  · rw [hcommitted]
    exact hbits

/-- An accepted feedback reaches the process image as a whole, or not at all. -/
theorem generation_answered {inputs : SyncInputs} {sequence : BitVec 32} {axis : Axis}
    {runtime : SyncRuntime} {feedback : SyncFeedback} (h : Exchanged inputs sequence axis runtime)
    (hanswered : answered inputs sequence axis = some feedback) :
    Generation inputs sequence axis (syncImage inputs { axis with syncRuntime := runtime }) := by
  have hcyclic : isCyclicMode axis.mode = true := (answered_cyclic hanswered).cyclic
  have hactual : (runtime.active && runtime.feedbackFresh) = true := by
    obtain ⟨command, hoffered, -⟩ := answered_eq_some_iff.mp hanswered
    rw [h.active, h.fresh, hoffered, hanswered]
    rfl
  have hfeedback := h.feedback feedback hanswered
  have hbits : syncStatuswordBits runtime =
      if runtime.feedback.driveFollowsCommand then statuswordDriveFollowsCommand else 0 := by
    rw [syncStatuswordBits_of_exchanged h, hanswered, hfeedback]
    rfl
  have hstale : syncStatuswordBits { runtime with feedbackFresh := false } = 0 := by
    simp [syncStatuswordBits]
  have hcommit := @publishSyncImage_commits inputs { axis with syncRuntime := runtime } hbits
  have hretry := @publishSyncImage_clears inputs inputs.statuswordPtrRetry
    { axis with syncRuntime := { runtime with feedbackFresh := false } } hstale
  have hsync : syncImage inputs { axis with syncRuntime := runtime } =
      if inputs.statuswordPtr && actualsWritable inputs axis.mode then
        { axis with
          syncRuntime := runtime
          image := axis.image.withFeedback axis.mode runtime.feedback }
      else
        { axis with
          syncRuntime := { runtime with feedbackFresh := false }
          image :=
            if inputs.statuswordPtrRetry then axis.image.withoutFeedback else axis.image } := by
    unfold syncImage
    simp only [hcyclic, hactual, hcommit]
    cases inputs.statuswordPtr && actualsWritable inputs axis.mode with
    | true => rfl
    | false =>
        simp only [Bool.not_true, Bool.false_eq_true, if_false, if_true, hretry]
        cases inputs.statuswordPtrRetry <;> rfl
  rw [hsync]
  cases hwritable : inputs.statuswordPtr && actualsWritable inputs axis.mode with
  | true =>
      have hcommitted : committed inputs sequence axis = some feedback := by
        rw [committed, hanswered, Option.filter_some, hwritable]
        rfl
      rw [if_pos rfl]
      refine {
        image := ?_
        bits := ?_ }
      · rw [hcommitted, hfeedback]
      · rw [hcommitted, Option.any_some, ← hfeedback]
        exact hbits
  | false =>
      have hcommitted : committed inputs sequence axis = none := by
        rw [committed, hanswered, Option.filter_some, hwritable]
        rfl
      rw [if_neg Bool.false_ne_true]
      refine {
        image := ?_
        bits := ?_ }
      · rw [hcommitted, hanswered, hcyclic]
        rfl
      · rw [hcommitted]
        exact hstale

theorem generation_syncAxis (inputs : SyncInputs) (sequence : BitVec 32) (axis : Axis) :
    Generation inputs sequence axis (syncAxis inputs sequence axis) := by
  obtain ⟨runtime, hexchanged, h⟩ := exchanged_spec inputs sequence axis
  have hsync : syncAxis inputs sequence axis =
      syncImage inputs { axis with syncRuntime := runtime } := by
    rw [← hexchanged]
    rfl
  rw [hsync]
  cases hanswered : answered inputs sequence axis with
  | none => exact generation_unanswered h hanswered
  | some feedback => exact generation_answered h hanswered

/-! ## The order of the phases -/

def SyncEvent.isSnapshot : SyncEvent → Bool
  | .snapshot .. => true
  | _ => false

def SyncEvent.isPublish : SyncEvent → Bool
  | .publishCommand .. => true
  | _ => false

/-- The publication of an axis among some events, with the answer of its SyncIF. -/
def SyncEvent.publicationOf (device : LogicalDevice) : SyncEvent → Option (SyncCommand × Bool)
  | .publishCommand axis command accepted =>
      if axis = device then some (command, accepted) else none
  | _ => none

def publications (device : LogicalDevice) (events : List SyncEvent) : List (SyncCommand × Bool) :=
  events.filterMap (SyncEvent.publicationOf device)

/-- What an axis publishes in a generation. -/
def publishEvents (inputs : SyncInputs) (sequence : BitVec 32) (axis : Axis) : List SyncEvent :=
  (syncPublish inputs (syncSnapshot inputs sequence axis).1).2

theorem publishEvents_eq (inputs : SyncInputs) (sequence : BitVec 32) (axis : Axis) :
    publishEvents inputs sequence axis =
      match offered inputs sequence axis with
      | some command =>
          [.publishCommand axis.logicalDevice command (inputs.publishCommand command)]
      | none => [] := by
  unfold publishEvents
  cases hoffered : offered inputs sequence axis with
  | some command =>
      rw [syncSnapshot_offered hoffered]
      rfl
  | none =>
      obtain ⟨hactive, -, -⟩ := syncSnapshot_idle hoffered
      simp only [syncPublish, hactive, Bool.not_false, if_true]

theorem syncSnapshot_events (inputs : SyncInputs) (sequence : BitVec 32) (axis : Axis) :
    ∀ event ∈ (syncSnapshot inputs sequence axis).2, event.isSnapshot = true := by
  unfold syncSnapshot
  dsimp only
  split_ifs
  · simp
  · simp [SyncEvent.isSnapshot]

theorem syncFeedback_events (inputs : SyncInputs) (sequence : BitVec 32) (axis : Axis) :
    ∀ event ∈ (syncFeedback inputs sequence axis).2,
      event.isSnapshot = false ∧ event.isPublish = false := by
  unfold syncFeedback
  dsimp only
  split_ifs
  · simp
  · split <;> simp [SyncEvent.isSnapshot, SyncEvent.isPublish]

/-- The traffic of a generation: all snapshots, then all publications, then all answers. -/
theorem processSyncLocked_events (inputs : LogicalDevice → SyncInputs) {manager : Manager}
    (hbound : manager.odBound = true) :
    ∃ snapshots answers,
      (processSyncLocked inputs manager).2 =
        snapshots ++ manager.axes.flatMap (fun axis =>
          publishEvents (inputs axis.logicalDevice) (manager.syncSequence + 1) axis) ++ answers ∧
      (∀ event ∈ snapshots, event.isSnapshot = true) ∧
      ∀ event ∈ answers, event.isSnapshot = false ∧ event.isPublish = false := by
  have hsnapshot : ∀ axis, (syncSnapshot (inputs axis.logicalDevice) (manager.syncSequence + 1)
      axis).1.logicalDevice = axis.logicalDevice :=
    fun axis => (syncSnapshot_only _ _ axis).logicalDevice
  unfold processSyncLocked
  rw [hbound]
  simp only [Bool.not_true, Bool.false_eq_true, if_false, syncPhase]
  refine ⟨_, _, congrArg₂ _ (congrArg₂ _ rfl ?_) rfl, ?_, ?_⟩
  · rw [List.flatMap_map]
    refine List.flatMap_congr fun axis _ => ?_
    rw [hsnapshot]
    rfl
  · intro event hevent
    obtain ⟨axis, -, hmem⟩ := List.mem_flatMap.mp hevent
    exact syncSnapshot_events _ _ axis event hmem
  · intro event hevent
    obtain ⟨axis, -, hmem⟩ := List.mem_flatMap.mp hevent
    exact syncFeedback_events _ _ axis event hmem

theorem publishEvents_kind (inputs : SyncInputs) (sequence : BitVec 32) (axis : Axis) :
    ∀ event ∈ publishEvents inputs sequence axis, event.isSnapshot = false := by
  rw [publishEvents_eq]
  cases offered inputs sequence axis <;> simp [SyncEvent.isSnapshot]

theorem filterMap_flatMap_of_nodup {α β : Type*} {events : Axis → List α} {select : α → Option β}
    {axes : List Axis} {axis : Axis} (hmem : axis ∈ axes)
    (hnodup : (axes.map Axis.logicalDevice).Nodup)
    (hother : ∀ other, other.logicalDevice ≠ axis.logicalDevice →
      (events other).filterMap select = []) :
    (axes.flatMap events).filterMap select = (events axis).filterMap select := by
  induction axes with
  | nil => exact absurd hmem List.not_mem_nil
  | cons first rest ih =>
      rw [List.map_cons, List.nodup_cons] at hnodup
      rw [List.flatMap_cons, List.filterMap_append]
      rcases List.mem_cons.mp hmem with rfl | hrest
      · have hnone : (rest.flatMap events).filterMap select = [] := by
          rw [List.filterMap_flatMap, List.flatMap_eq_nil_iff]
          intro other hin
          refine hother other fun hsame => hnodup.1 ?_
          rw [← hsame]
          exact List.mem_map_of_mem hin
        rw [hnone, List.append_nil]
      · have hfirst : (events first).filterMap select = [] := by
          refine hother first fun hsame => hnodup.1 ?_
          rw [hsame]
          exact List.mem_map_of_mem hrest
        rw [hfirst, List.nil_append]
        exact ih hrest hnodup.2

theorem publications_other (device : LogicalDevice) (inputs : SyncInputs) (sequence : BitVec 32)
    {axis : Axis} (h : axis.logicalDevice ≠ device) :
    publications device (publishEvents inputs sequence axis) = [] := by
  rw [publishEvents_eq]
  cases offered inputs sequence axis with
  | none => rfl
  | some command => simp [publications, SyncEvent.publicationOf, h]

theorem publications_processSyncLocked {manager : Manager} (h : Reachable manager)
    (inputs : LogicalDevice → SyncInputs) (hbound : manager.odBound = true) {axis : Axis}
    (hmem : axis ∈ manager.axes) :
    publications axis.logicalDevice (processSyncLocked inputs manager).2 =
      match offered (inputs axis.logicalDevice) (manager.syncSequence + 1) axis with
      | some command => [(command, (inputs axis.logicalDevice).publishCommand command)]
      | none => [] := by
  obtain ⟨snapshots, answers, hevents, hsnapshots, hanswers⟩ :=
    processSyncLocked_events inputs hbound
  have hbefore : publications axis.logicalDevice snapshots = [] := by
    refine List.filterMap_eq_nil_iff.mpr fun event hevent => ?_
    have hkind := hsnapshots event hevent
    cases event <;> first | rfl | exact absurd hkind Bool.false_ne_true
  have hafter : publications axis.logicalDevice answers = [] := by
    refine List.filterMap_eq_nil_iff.mpr fun event hevent => ?_
    have hkind := (hanswers event hevent).2
    cases event <;> first | rfl | exact absurd hkind.symm Bool.false_ne_true
  have howned := @filterMap_flatMap_of_nodup _ _ _ (SyncEvent.publicationOf axis.logicalDevice) _ _
    hmem h.nodup fun other hother => publications_other axis.logicalDevice
      (inputs other.logicalDevice) (manager.syncSequence + 1) hother
  unfold publications at hbefore hafter ⊢
  rw [hevents, List.filterMap_append, List.filterMap_append, hbefore, hafter, howned,
    List.nil_append, List.append_nil, publishEvents_eq]
  cases offered (inputs axis.logicalDevice) (manager.syncSequence + 1) axis with
  | none => rfl
  | some command => simp [SyncEvent.publicationOf]

theorem snapshots_first (inputs : LogicalDevice → SyncInputs) {manager : Manager}
    (hbound : manager.odBound = true) {before after : List SyncEvent} {event : SyncEvent}
    (hsplit : (processSyncLocked inputs manager).2 = before ++ event :: after)
    (hpublish : event.isPublish = true) : ∀ later ∈ after, later.isSnapshot = false := by
  obtain ⟨snapshots, answers, hevents, hsnapshots, hanswers⟩ :=
    processSyncLocked_events inputs hbound
  rw [hevents, List.append_assoc] at hsplit
  have hrest : ∀ later ∈ manager.axes.flatMap (fun axis =>
      publishEvents (inputs axis.logicalDevice) (manager.syncSequence + 1) axis) ++ answers,
      later.isSnapshot = false := by
    intro later hlater
    rcases List.mem_append.mp hlater with hpublished | hanswer
    · obtain ⟨axis, -, hmem⟩ := List.mem_flatMap.mp hpublished
      exact publishEvents_kind _ _ axis later hmem
    · exact (hanswers later hanswer).1
  rcases List.append_eq_append_iff.mp hsplit with ⟨middle, -, htail⟩ | ⟨middle, hhead, htail⟩
  · intro later hlater
    refine hrest later ?_
    rw [htail]
    exact List.mem_append_right _ (List.mem_cons_of_mem _ hlater)
  · cases middle with
    | nil =>
        intro later hlater
        refine hrest later ?_
        rw [← List.nil_append (_ ++ answers), ← htail]
        exact List.mem_cons_of_mem _ hlater
    | cons first middle =>
        -- The publication would lie among the snapshots.
        obtain ⟨rfl, -⟩ := List.cons.inj htail
        have hkind := hsnapshots event (by
          rw [hhead]
          exact List.mem_append_right _ List.mem_cons_self)
        cases event <;> first
          | exact absurd hpublish Bool.false_ne_true
          | exact absurd hkind Bool.false_ne_true

/-! ## The contract of one generation -/

theorem liveCommand_header {inputs : SyncInputs} {sequence : BitVec 32} {mode : Mode}
    {command : SyncCommand} (h : liveCommand inputs sequence mode = some command) :
    command.sequence = sequence ∧ command.mode = mode := by
  cases mode with
  | cyclicSyncPosition =>
      obtain ⟨target, -, rfl⟩ := Option.map_eq_some_iff.mp h
      exact ⟨rfl, rfl⟩
  | cyclicSyncVelocity =>
      obtain ⟨target, -, rfl⟩ := Option.map_eq_some_iff.mp h
      exact ⟨rfl, rfl⟩
  | cyclicSyncTorque =>
      obtain ⟨target, -, rfl⟩ := Option.map_eq_some_iff.mp h
      exact ⟨rfl, rfl⟩
  | _ => exact absurd h (by simp [liveCommand])

theorem withDriveFollows_other (statusword : Word) (follows : Bool) :
    withDriveFollows statusword follows &&& ~~~statuswordDriveFollowsCommand =
      statusword &&& ~~~statuswordDriveFollowsCommand := by
  have hbit : statuswordDriveFollowsCommand &&& ~~~statuswordDriveFollowsCommand = 0 := by decide
  unfold withDriveFollows
  rw [BitVec.and_or_distrib_right, BitVec.and_assoc, BitVec.and_self]
  cases follows with
  | false => simp
  | true => simp [hbit]

/-- What one generation means for one axis, given what it published. -/
structure SyncContract (inputs : SyncInputs) (sequence : BitVec 32)
    (published : List (SyncCommand × Bool)) (axis after : Axis) : Prop where
  publishes : ∀ command accepted, (command, accepted) ∈ published ↔
    CyclicOwner inputs axis ∧ liveCommand inputs sequence axis.mode = some command ∧
      accepted = inputs.publishCommand command
  once : published.length ≤ 1
  header : ∀ entry ∈ published, entry.1.sequence = sequence ∧ entry.1.mode = axis.mode
  actuals :
    (after.image.positionActualValue = axis.image.positionActualValue ∧
      after.image.velocityActualValue = axis.image.velocityActualValue ∧
      after.image.torqueActualValue = axis.image.torqueActualValue) ∨
    ∃ command feedback, (command, true) ∈ published ∧ inputs.readFeedback = some feedback ∧
      feedback.sequence = sequence ∧
      after.image.positionActualValue = feedback.positionActual ∧
      after.image.velocityActualValue = feedback.velocityActual ∧
      after.image.torqueActualValue =
        if axis.mode = .cyclicSyncTorque then feedback.torqueActual
        else axis.image.torqueActualValue
  statusword : after.image.statusword &&& ~~~statuswordDriveFollowsCommand =
    axis.image.statusword &&& ~~~statuswordDriveFollowsCommand
  control : after.control = axis.control
  objects : after.image.errorCode = axis.image.errorCode ∧
    after.image.modesOfOperationDisplay = axis.image.modesOfOperationDisplay ∧
    after.image.supportedDriveModes = axis.image.supportedDriveModes

theorem syncContract_syncAxis (inputs : SyncInputs) (sequence : BitVec 32) (axis : Axis)
    {published : List (SyncCommand × Bool)}
    (hpublished : published =
      match offered inputs sequence axis with
      | some command => [(command, inputs.publishCommand command)]
      | none => []) :
    SyncContract inputs sequence published axis (syncAxis inputs sequence axis) := by
  have hiff : ∀ command accepted, (command, accepted) ∈ published ↔
      CyclicOwner inputs axis ∧ liveCommand inputs sequence axis.mode = some command ∧
        accepted = inputs.publishCommand command := by
    intro command accepted
    rw [← and_assoc, ← offered_eq_some_iff, hpublished]
    cases offered inputs sequence axis with
    | none => simp
    | some own =>
        simp only [List.mem_singleton, Prod.mk.injEq, Option.some.injEq]
        constructor
        · rintro ⟨rfl, rfl⟩
          exact ⟨rfl, rfl⟩
        · rintro ⟨rfl, rfl⟩
          exact ⟨rfl, rfl⟩
  have himage := (generation_syncAxis inputs sequence axis).image
  refine {
    publishes := hiff
    once := ?_
    header := ?_
    actuals := ?_
    statusword := ?_
    control := (syncAxis_only inputs sequence axis).control
    objects := ?_ }
  · rw [hpublished]
    cases offered inputs sequence axis <;> simp
  · rintro ⟨command, accepted⟩ hentry
    obtain ⟨-, hlive, -⟩ := (hiff command accepted).mp hentry
    exact liveCommand_header hlive
  · cases hcommitted : committed inputs sequence axis with
    | none =>
        rw [hcommitted] at himage
        refine .inl ?_
        rw [himage]
        dsimp only
        split_ifs <;> exact ⟨rfl, rfl, rfl⟩
    | some feedback =>
        rw [hcommitted] at himage
        obtain ⟨hanswered, -⟩ := Option.filter_eq_some_iff.mp hcommitted
        obtain ⟨command, hoffered, hpublish, hread, hsequence⟩ := answered_eq_some_iff.mp hanswered
        obtain ⟨howner, hlive⟩ := offered_eq_some_iff.mp hoffered
        refine .inr ⟨command, feedback, (hiff command true).mpr ⟨howner, hlive, hpublish.symm⟩,
          hread, hsequence, ?_⟩
        rw [himage]
        exact ⟨rfl, rfl, rfl⟩
  · rw [himage]
    cases committed inputs sequence axis with
    | some feedback => exact withDriveFollows_other _ _
    | none =>
        dsimp only
        split_ifs
        · exact withDriveFollows_other _ _
        · rfl
        · exact withDriveFollows_other _ _
        · rfl
  · rw [himage]
    cases committed inputs sequence axis with
    | some feedback => exact ⟨rfl, rfl, rfl⟩
    | none =>
        dsimp only
        split_ifs <;> exact ⟨rfl, rfl, rfl⟩

/-! ## The sequence over runs -/

/-- The SYNC generations of a run: calls on an unbound manager produce none. -/
def syncCalls : Manager → List Step → Nat
  | _, [] => 0
  | manager, .processSync inputs :: steps =>
      (if manager.odBound then 1 else 0) + syncCalls (manager.step (.processSync inputs)) steps
  | manager, step :: steps => syncCalls (manager.step step) steps

theorem syncSequence_processSync (inputs : LogicalDevice → SyncInputs) (manager : Manager) :
    (manager.step (.processSync inputs)).syncSequence =
      manager.syncSequence + if manager.odBound then 1 else 0 := by
  simp only [Manager.step, processSyncLocked]
  cases hbound : manager.odBound with
  | true => rfl
  | false =>
      simp only [Bool.not_false, if_true, Bool.false_eq_true, if_false]
      exact (BitVec.add_zero _).symm

theorem syncSequence_bindOD (writes : LogicalDevice → BindWrites) (manager : Manager) :
    (bindOD writes manager).1.syncSequence = manager.syncSequence := by
  unfold bindOD
  split_ifs
  · rfl
  · split
    · rfl
    · split <;> rfl

theorem syncSequence_run (manager : Manager) (steps : List Step) :
    (run Manager.step manager steps).syncSequence =
      manager.syncSequence + BitVec.ofNat 32 (syncCalls manager steps) := by
  induction steps generalizing manager with
  | nil => exact (BitVec.add_zero _).symm
  | cons step steps ih =>
      rw [run_cons, ih]
      cases step with
      | process inputs =>
          have hstep : (manager.step (.process inputs)).syncSequence = manager.syncSequence := by
            simp only [Manager.step, process]
            split_ifs <;> rfl
          rw [hstep]
          rfl
      | processSync inputs =>
          rw [syncSequence_processSync, syncCalls, BitVec.ofNat_add, BitVec.add_assoc]
          cases manager.odBound <;> rfl
      | bindOD od writes =>
          have hstep : (manager.step (.bindOD od writes)).syncSequence = manager.syncSequence :=
            syncSequence_bindOD writes _
          rw [hstep]
          rfl
      | communicationReset => rfl

/-- No two generations fewer than `2 ^ 32` calls apart share their sequence. -/
theorem syncSequence_fresh (manager : Manager) (steps : List Step)
    (hpositive : 0 < syncCalls manager steps) (hwrap : syncCalls manager steps < 2 ^ 32) :
    (run Manager.step manager steps).syncSequence ≠ manager.syncSequence := by
  rw [syncSequence_run]
  intro hsame
  have hzero : BitVec.ofNat 32 (syncCalls manager steps) = 0 := by
    have hcancel := congrArg (fun sequence => sequence - manager.syncSequence) hsame
    simpa [BitVec.add_comm, BitVec.add_sub_cancel] using hcancel
  have hnat := congrArg BitVec.toNat hzero
  rw [BitVec.toNat_ofNat, Nat.mod_eq_of_lt hwrap] at hnat
  exact absurd hnat hpositive.ne'

/-- The cyclic bridge is coherent: one generation is taken before it is published,
carries one new sequence, reaches the process image of an axis as a whole or not at
all, and treats every axis by itself. -/
theorem syncCoherence_of_reachable {manager : Manager} (h : Reachable manager)
    (inputs : LogicalDevice → SyncInputs) :
    (manager.odBound = false → processSyncLocked inputs manager = (manager, [])) ∧
      (manager.odBound = true →
        (processSyncLocked inputs manager).1.syncSequence = manager.syncSequence + 1 ∧
        (∀ before event after, (processSyncLocked inputs manager).2 = before ++ event :: after →
          event.isPublish = true → ∀ later ∈ after, later.isSnapshot = false) ∧
        (processSyncLocked inputs manager).1.axes = manager.axes.map (fun axis =>
          syncAxis (inputs axis.logicalDevice) (manager.syncSequence + 1) axis) ∧
        ∀ axis ∈ manager.axes,
          SyncContract (inputs axis.logicalDevice) (manager.syncSequence + 1)
            (publications axis.logicalDevice (processSyncLocked inputs manager).2) axis
            (syncAxis (inputs axis.logicalDevice) (manager.syncSequence + 1) axis)) ∧
      ∀ steps, (run Manager.step manager steps).syncSequence =
          manager.syncSequence + BitVec.ofNat 32 (syncCalls manager steps) ∧
        (0 < syncCalls manager steps → syncCalls manager steps < 2 ^ 32 →
          (run Manager.step manager steps).syncSequence ≠ manager.syncSequence) := by
  refine ⟨fun hbound => ?_, fun hbound => ⟨?_, ?_, ?_, ?_⟩, fun steps => ⟨?_, ?_⟩⟩
  · rw [processSyncLocked, hbound]
    rfl
  · have hsequence := syncSequence_processSync inputs manager
    rw [hbound] at hsequence
    exact hsequence
  · intro before event after hsplit hpublish
    exact snapshots_first inputs hbound hsplit hpublish
  · exact processSyncLocked_axes inputs manager hbound
  · intro axis hmem
    exact syncContract_syncAxis _ _ axis (publications_processSyncLocked h inputs hbound hmem)
  · exact syncSequence_run manager steps
  · exact syncSequence_fresh manager steps

/-- A pass that reads one Controlword and one mode everywhere. -/
def commandPass (controlword : Word) (modesOfOperation : ModeRaw) : PassInputs where
  controlword := fun _ => some controlword
  modesOfOperation := fun _ => some modesOfOperation

/-- The way of an axis to position control in OPERATION_ENABLED. -/
def enablePosition : List Step :=
  [0x00, 0x06, 0x07, 0x0F].map fun controlword => .process fun _ => commandPass controlword 8

/-- A generation that is answered in time, with a Controlword of the given value. -/
def answeredSync (controlword : Word) : SyncInputs where
  controlword := some controlword
  modesOfOperation := some 8
  targetPosition := some 100
  readFeedback := some ⟨1, 100, 5, 7, true⟩

theorem syncCoherence_enabled :
    (∃ axis ∈ (run Manager.step cyclicManager enablePosition).axes,
      CyclicOwner (answeredSync 0x0F) axis) ∧
      ∀ axis ∈ (run Manager.step cyclicManager enablePosition).axes,
        SyncContract (answeredSync 0x0F) 1
          (publications axis.logicalDevice
            (processSyncLocked (fun _ => answeredSync 0x0F)
              (run Manager.step cyclicManager enablePosition)).2)
          axis (syncAxis (answeredSync 0x0F) 1 axis) := by
  constructor
  · have heligible : ∃ axis ∈ (run Manager.step cyclicManager enablePosition).axes,
        syncFastPathEligible (answeredSync 0x0F).controlword (answeredSync 0x0F).modesOfOperation
          axis = true := by decide +kernel
    obtain ⟨axis, hmem, howner⟩ := heligible
    exact ⟨axis, hmem, (syncFastPathEligible_iff _ axis).mp howner⟩
  · intro axis hmem
    have hsequence : (run Manager.step cyclicManager enablePosition).syncSequence + 1 = 1 := by
      decide +kernel
    have hcontract := ((syncCoherence_of_reachable (reachable_cyclicManager.run enablePosition)
      fun _ => answeredSync 0x0F).2.1 (by decide +kernel)).2.2.2 axis hmem
    rw [hsequence] at hcontract
    exact hcontract

/-- In position control a generation leaves the torque alone while it replaces
position and velocity, and bit 7 does not stop the command of the generation. -/
theorem syncCoherence_torque_and_bit7 :
    (∃ axis ∈ (run Manager.step cyclicManager enablePosition).axes,
      (syncAxis (answeredSync 0x0F) 1 axis).image.positionActualValue = 100 ∧
        (syncAxis (answeredSync 0x0F) 1 axis).image.velocityActualValue = 5 ∧
        (syncAxis (answeredSync 0x0F) 1 axis).image.torqueActualValue = 0) ∧
      decodeControlword 0x8F = .faultReset ∧
      ∃ axis ∈ (run Manager.step cyclicManager enablePosition).axes,
        (publishEvents (answeredSync 0x8F) 1 axis).length = 1 := by
  decide +kernel

end CanopenRtt.Cia402.Device
