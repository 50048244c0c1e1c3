import CanopenRtt.Cia402.Controller.TransitionTimer
import CanopenRtt.Cia402.Controller.WriteDiscipline
/-!
# The time a client accounts for

A ledger next to the client adds up, without a bound, the time since the last
Statusword transfer and the time of Statusword outages that the core has not seen
yet. The two counters of the client split the first sum between them, and the
transition timer is charged with the second one, never with the time of a retry.
-/

namespace CanopenRtt.Cia402.Controller

open CanopenRtt.Support CanopenRtt.Profile

/-! ## The timers of the core -/

theorem feedbackElapsed_processObserved (axis : Axis) (stateChanged : Bool)
    (timeDifference : UInt32) :
    (processObserved axis stateChanged timeDifference).1.feedbackElapsed =
      axis.feedbackElapsed := by
  have hprocessed := processed_observed axis stateChanged timeDifference
  generalize processObserved axis stateChanged timeDifference = outcome at hprocessed ⊢
  cases hprocessed <;> rfl

theorem feedbackElapsed_observe (axis : Axis) (feedback : Feedback) (timeDifference : UInt32) :
    (observe axis feedback timeDifference).1.feedbackElapsed =
      if feedback.statuswordValid then 0
      else saturatingAddU32 axis.feedbackElapsed timeDifference := by
  by_cases hvalid : feedback.statuswordValid = true
  · rw [if_pos hvalid]
    unfold observe
    rw [if_pos hvalid]
    dsimp only
    split_ifs <;> rfl
  · rw [if_neg hvalid, observe_of_missing hvalid]

theorem feedbackElapsed_process (axis : Axis) (feedback : Feedback) (timeDifference : UInt32) :
    (process axis feedback timeDifference).1.feedbackElapsed =
      if feedback.statuswordValid then 0
      else saturatingAddU32 axis.feedbackElapsed timeDifference := by
  rw [← feedbackElapsed_observe]
  exact feedbackElapsed_processObserved _ _ _

/-- The transition timer restarts, stands, or counts a time. -/
inductive Charged (before : UInt32) (elapsed : UInt32) : UInt32 → Prop where
  | restarted : Charged before elapsed 0
  | stands : Charged before elapsed before
  | counted : Charged before elapsed (saturatingAddU32 before elapsed)

/-- What `observe` charges; an unrecognized Statusword is charged at once. -/
theorem charged_observe (axis : Axis) (feedback : Feedback) (timeDifference : UInt32) :
    (observe axis feedback timeDifference).1.remoteStatuswordInvalid = true ∧
        Charged axis.transitionElapsed timeDifference
          (observe axis feedback timeDifference).1.transitionElapsed ∨
      (observe axis feedback timeDifference).1.transitionElapsed = 0 ∧
        (observe axis feedback timeDifference).2 = true ∨
      (observe axis feedback timeDifference).1.transitionElapsed = axis.transitionElapsed := by
  have hcounted := @Charged.counted axis.transitionElapsed timeDifference
  by_cases hvalid : feedback.statuswordValid = true
  · unfold observe
    rw [if_pos hvalid]
    dsimp only
    generalize saturatingAddU32 axis.transitionElapsed timeDifference = counted at hcounted ⊢
    by_cases hunknown : decodeStatusword feedback.statusword = .unknown
    · rw [if_pos hunknown]
      exact Or.inl ⟨rfl, hcounted⟩
    · rw [if_neg hunknown]
      split_ifs
      · exact Or.inr (Or.inl ⟨rfl, rfl⟩)
      · exact Or.inr (Or.inr rfl)
  · obtain ⟨age, hobserved⟩ := @observe_of_missing_aged axis _ hvalid timeDifference
    rw [hobserved]
    exact Or.inr (Or.inr rfl)

/-- The sequencer charges the time, but not in the call that sees a new state. -/
theorem charged_sequenceTarget (axis : Axis) (stateChanged : Bool) (timeDifference : UInt32) :
    (sequenceTarget axis stateChanged timeDifference).1.transitionElapsed = 0 ∨
      (sequenceTarget axis stateChanged timeDifference).1.transitionElapsed =
        axis.transitionElapsed ∨
      stateChanged = false ∧
        (sequenceTarget axis stateChanged timeDifference).1.transitionElapsed =
          saturatingAddU32 axis.transitionElapsed timeDifference := by
  unfold sequenceTarget
  generalize saturatingAddU32 axis.transitionElapsed timeDifference = counted
  dsimp only
  split_ifs with hreached hblocked hchanged htimeout htimeout
  · exact Or.inl rfl
  · exact Or.inr (Or.inl rfl)
  · exact Or.inr (Or.inl rfl)
  · exact Or.inr (Or.inl rfl)
  · exact Or.inr (Or.inr ⟨Bool.not_eq_true _ ▸ hchanged, rfl⟩)
  · exact Or.inr (Or.inr ⟨Bool.not_eq_true _ ▸ hchanged, rfl⟩)

/-- Only the sequencer charges after `observe`, and it does not run on an invalid
Statusword. -/
theorem charged_processObserved (axis : Axis) (stateChanged : Bool) (timeDifference : UInt32) :
    (processObserved axis stateChanged timeDifference).1.transitionElapsed = 0 ∨
      (processObserved axis stateChanged timeDifference).1.transitionElapsed =
        axis.transitionElapsed ∨
      axis.remoteStatuswordInvalid = false ∧ stateChanged = false ∧
        (processObserved axis stateChanged timeDifference).1.transitionElapsed =
          saturatingAddU32 axis.transitionElapsed timeDifference := by
  unfold processObserved
  by_cases hpulse : axis.faultResetPulseHigh = true
  · rw [if_pos hpulse]
    unfold deassertPulse setResult
    dsimp only
    split_ifs <;> exact Or.inr (Or.inl rfl)
  rw [if_neg hpulse]
  by_cases hstale : feedbackTimedOut axis = true
  · rw [if_pos hstale]
    exact Or.inr (Or.inl rfl)
  rw [if_neg hstale]
  by_cases hinvalid : axis.remoteStatuswordInvalid = true
  · rw [if_pos hinvalid]
    exact Or.inr (Or.inl rfl)
  rw [if_neg hinvalid]
  by_cases hvalid : (!axis.remoteStateValid) = true
  · rw [if_pos hvalid]
    exact Or.inr (Or.inl rfl)
  rw [if_neg hvalid]
  by_cases hreaction : axis.remoteState = .faultReactionActive
  · rw [if_pos hreaction]
    exact Or.inl rfl
  rw [if_neg hreaction]
  by_cases hfault : axis.remoteState = .fault
  · rw [if_pos hfault]
    dsimp only
    split_ifs <;> exact Or.inl rfl
  rw [if_neg hfault]
  dsimp only
  by_cases htarget : (!axis.targetValid) = true
  · rw [if_pos htarget]
    exact Or.inl rfl
  rw [if_neg htarget]
  rcases charged_sequenceTarget { axis with faultResetRequested := false } stateChanged
    timeDifference with hzero | hsame | ⟨hchanged, hcounted⟩
  · exact Or.inl hzero
  · exact Or.inr (Or.inl hsame)
  · exact Or.inr (Or.inr ⟨Bool.not_eq_true _ ▸ hinvalid, hchanged, hcounted⟩)

theorem charged_process (axis : Axis) (feedback : Feedback) (timeDifference : UInt32) :
    Charged axis.transitionElapsed timeDifference
      (process axis feedback timeDifference).1.transitionElapsed := by
  have hobserve := charged_observe axis feedback timeDifference
  unfold process
  generalize observe axis feedback timeDifference = observed at hobserve ⊢
  obtain ⟨seen, stateChanged⟩ := observed
  dsimp only at hobserve ⊢
  rcases charged_processObserved seen stateChanged timeDifference with
    hzero | hkept | ⟨hknown, hunchanged, hcounted⟩
  · rw [hzero]
    exact .restarted
  · rw [hkept]
    rcases hobserve with ⟨-, hcharged⟩ | ⟨hzero, -⟩ | hsame
    · exact hcharged
    · rw [hzero]
      exact .restarted
    · rw [hsame]
      exact .stands
  · rw [hcounted]
    rcases hobserve with ⟨hunknown, -⟩ | ⟨-, hchanged⟩ | hsame
    · exact absurd (hknown.symm.trans hunknown) Bool.false_ne_true
    · exact absurd (hunchanged.symm.trans hchanged) Bool.false_ne_true
    · rw [hsame]
      exact .counted

/-! ## The ledger -/

/-- The Statusword upload of a process call. -/
def statuswordRead (client : Client) (answers : Answers) : SdoAnswer :=
  sdoUpload client.transport client.nodeId
    (profileIndex client.logicalDevice indexStatusword) 2 answers.statuswordUpload

/-- The client, the time since the last successful Statusword transfer (or since
initialization), and the time of the Statusword outages not yet seen by the core. -/
structure Ledger where
  client : Client
  sinceStatusword : Nat := 0
  outage : Nat := 0
  deriving DecidableEq

/-- A retry and a refused Statusword upload let both sums stand or grow; a transfer
hands the outages over, and a successful one starts a new sum. -/
def Ledger.read (ledger : Ledger) (timeDifference : UInt32) (answers : Answers) : Nat × Nat :=
  let since := ledger.sinceStatusword + timeDifference.toNat
  if ledger.client.pendingUpdateValid then (since, ledger.outage)
  else if (statuswordRead ledger.client answers).call.status ≠ .ok then
    (since, ledger.outage + timeDifference.toNat)
  else if (statuswordRead ledger.client answers).transfer.status = .ok then (0, 0)
  else (since, 0)

/-- A new target and a cleared one leave older outages to the feedback age. A call
without a result pointer is refused, and takes no time. -/
def ledgerStep (ledger : Ledger) (call : ClientCall) : Ledger :=
  let client := clientStep ledger.client call
  match call with
  | .setTarget code =>
      if (clientSetTarget ledger.client code).2 && newTarget ledger.client.controller code then
        { ledger with client := client, outage := 0 }
      else { ledger with client := client }
  | .clearTarget => { ledger with client := client, outage := 0 }
  | .process timeDifference true answers =>
      let sums := ledger.read timeDifference answers
      { client := client, sinceStatusword := sums.1, outage := sums.2 }
  | _ => { ledger with client := client }

@[simp] theorem client_ledgerStep (ledger : Ledger) (call : ClientCall) :
    (ledgerStep ledger call).client = clientStep ledger.client call := by
  unfold ledgerStep
  cases call with
  | setTarget code =>
      dsimp only
      split_ifs <;> rfl
  | process timeDifference resultGiven answers => cases resultGiven <;> rfl
  | _ => rfl

/-- What a call may do to the transition timer: only an admitted Statusword upload
charges it, with the time of the call and of the outages before it. -/
def ChargesTransition (ledger : Ledger) (call : ClientCall) : Prop :=
  let before := ledger.client.controller.transitionElapsed
  let after := (clientStep ledger.client call).controller.transitionElapsed
  match call with
  | .process timeDifference true answers =>
      if ledger.client.pendingUpdateValid = true ∨
          (statuswordRead ledger.client answers).call.status ≠ .ok then after = before
      else
        after = 0 ∨ after = before ∨
          after.toNat =
            min (before.toNat + ledger.outage + timeDifference.toNat) uint32Max.toNat
  | .process _ false _ => after = before
  | _ => after = 0 ∨ after = before

/-- The two counters of a client together. -/
def Client.feedbackAge (client : Client) : Nat :=
  (saturatingAddU32 client.controller.feedbackElapsed client.deferredElapsed).toNat

/-- The books balance. -/
structure Balanced (ledger : Ledger) : Prop where
  initialized : ledger.client.initialized = true
  index_valid : profileIndex ledger.client.logicalDevice indexStatusword ≠ indexInvalid
  conserved : ledger.client.feedbackAge = min ledger.sinceStatusword uint32Max.toNat
  deferred : ledger.client.pendingUpdateValid = false →
    ledger.client.deferredElapsed.toNat = min ledger.outage uint32Max.toNat
  no_outage : ledger.client.pendingUpdateValid = true → ledger.outage = 0
  ordinary : ledger.client.pendingUpdateValid = true →
    ledger.client.pendingFaultResetEdge = false →
      ∀ state, ledger.client.controller.view = some state → state.faulted = false

/-! ## One client call on the books -/

theorem client_flushPendingUpdate (client : Client) {step : StepResult} (answers : Answers)
    (hstep : step.commandAccepted = false) :
    (flushPendingUpdate client step answers).step.commandAccepted = false ∧
        (flushPendingUpdate client step answers).client = client ∨
      (flushPendingUpdate client step answers).step.commandAccepted = true ∧
        (flushPendingUpdate client step answers).client =
          { clearPendingUpdate client with pendingFaultResetEdge := false } := by
  have hflush := flushed_flushPendingUpdate client answers hstep
  generalize flushPendingUpdate client step answers = outcome at hflush ⊢
  cases hflush with
  | kept hclient _ haccepted => exact Or.inl ⟨haccepted, hclient⟩
  | accepted _ hclient _ haccepted => exact Or.inr ⟨haccepted, hclient⟩

/-- A retry defers its time, and an accepted one gives it to the feedback age. -/
theorem client_retryPendingUpdate (client : Client) {step : StepResult}
    (timeDifference : UInt32) (answers : Answers) (hstep : step.commandAccepted = false) :
    ∃ deferred : UInt32,
      deferred.toNat =
          min (client.deferredElapsed.toNat + timeDifference.toNat) uint32Max.toNat ∧
        ((retryPendingUpdate client step timeDifference answers).client =
            { client with deferredElapsed := deferred } ∨
          (retryPendingUpdate client step timeDifference answers).client =
            commitDeferredFeedbackElapsed
              { clearPendingUpdate { client with deferredElapsed := deferred } with
                pendingFaultResetEdge := false }) := by
  refine ⟨_, toNat_saturatingAddU32 client.deferredElapsed timeDifference, ?_⟩
  unfold retryPendingUpdate
  dsimp only
  generalize saturatingAddU32 client.deferredElapsed timeDifference = deferred
  rcases client_flushPendingUpdate { client with deferredElapsed := deferred } answers hstep with
    ⟨hkept, hclient⟩ | ⟨haccepted, hclient⟩
  · rw [if_neg (by simp [hkept])]
    exact Or.inl hclient
  · rw [if_pos haccepted]
    refine Or.inr ?_
    dsimp only
    rw [hclient]

theorem client_processStatusword (client : Client) {step : StepResult}
    (timeDifference : UInt32) (transfer : TransferResult) (answers : Answers)
    (hstep : step.commandAccepted = false) :
    ∃ update pending edge,
      (processStatusword client step timeDifference transfer answers).client =
        { client with
          controller :=
            (process client.controller (transferFeedback transfer)
              (saturatingAddU32 client.deferredElapsed timeDifference)).1
          deferredElapsed := 0
          pendingUpdate := update
          pendingUpdateValid := pending
          pendingFaultResetEdge := edge } ∧
      (client.pendingUpdateValid = false → pending = true → edge = false →
        client.controller.faultResetPulseHigh = false ∧
          (process client.controller (transferFeedback transfer)
            (saturatingAddU32 client.deferredElapsed timeDifference)).2.valid = true ∧
          (process client.controller (transferFeedback transfer)
            (saturatingAddU32 client.deferredElapsed timeDifference)).2.high = false) := by
  have hpulse := (process_processed client.controller (transferFeedback transfer)
    (saturatingAddU32 client.deferredElapsed timeDifference)).pulse_eq_high
  unfold processStatusword
  dsimp only
  generalize saturatingAddU32 client.deferredElapsed timeDifference = elapsed at hpulse ⊢
  generalize process client.controller (transferFeedback transfer) elapsed = stepped at hpulse ⊢
  obtain ⟨axis, update⟩ := stepped
  dsimp only at hpulse ⊢
  by_cases hvalid : update.valid = true
  · rw [if_neg (by simp [hvalid])]
    rcases @client_flushPendingUpdate
      { client with
        controller := axis
        deferredElapsed := 0
        pendingUpdate := update
        pendingUpdateValid := true
        pendingFaultResetEdge :=
          client.controller.faultResetPulseHigh || axis.faultResetPulseHigh }
      { step with
        statuswordTransfer := transfer
        statusword := (transferFeedback transfer).statusword
        statuswordValid := (transferFeedback transfer).statuswordValid
        controllerResult := axis.result } answers hstep with
      ⟨-, hclient⟩ | ⟨-, hclient⟩
    · refine ⟨_, _, _, hclient, fun _ _ hedge => ?_⟩
      rw [Bool.or_eq_false_iff] at hedge
      exact ⟨hedge.1, hvalid, hpulse ▸ hedge.2⟩
    · exact ⟨_, _, _, hclient, fun _ hpending => absurd hpending Bool.false_ne_true⟩
  · rw [if_pos (by simpa using hvalid)]
    refine ⟨_, _, _, rfl, fun hnone hpending => ?_⟩
    exact absurd (hnone.symm.trans hpending) Bool.false_ne_true

theorem client_setTarget_cases (client : Client) (code : Int) :
    (clientSetTarget client code).1 = client ∧
        ((clientSetTarget client code).2 && newTarget client.controller code) = false ∨
      ((clientSetTarget client code).2 && newTarget client.controller code) = true ∧
        newTarget client.controller code = true ∧
        (clientSetTarget client code).1 =
          clearPendingUpdate (commitDeferredFeedbackElapsed
            { client with controller := (setTarget client.controller code).1 }) := by
  unfold clientSetTarget
  by_cases hreject : (!client.initialized || client.pendingFaultResetEdge) = true
  · rw [if_pos hreject]
    exact Or.inl ⟨rfl, rfl⟩
  rw [if_neg hreject]
  dsimp only
  rcases setTarget_newTarget_cases client.controller code with ⟨hold, hsame⟩ | ⟨hnew, -⟩
  · rw [newTarget] at hold
    rw [if_neg (fun htrue => Bool.false_ne_true (hold.symm.trans htrue)), hsame, newTarget, hold,
      Bool.and_false]
    exact Or.inl ⟨rfl, rfl⟩
  · have haccepted : (setTarget client.controller code).2 = true := by
      rw [newTarget, Bool.and_eq_true] at hnew
      exact hnew.1
    rw [newTarget] at hnew
    rw [if_pos hnew, newTarget, hnew, haccepted]
    exact Or.inr ⟨rfl, rfl, rfl⟩

theorem feedbackAge_eq (client : Client) :
    client.feedbackAge =
      min (client.controller.feedbackElapsed.toNat + client.deferredElapsed.toNat)
        uint32Max.toNat := toNat_saturatingAddU32 _ _

theorem feedbackAge_commit (client : Client) :
    (commitDeferredFeedbackElapsed client).feedbackAge = client.feedbackAge := by
  rw [feedbackAge_eq, feedbackAge_eq]
  have hcommit := toNat_saturatingAddU32 client.controller.feedbackElapsed client.deferredElapsed
  unfold commitDeferredFeedbackElapsed
  generalize saturatingAddU32 client.controller.feedbackElapsed client.deferredElapsed = age
    at hcommit ⊢
  have hzero : (0 : UInt32).toNat = 0 := rfl
  dsimp only
  omega

theorem transitionElapsed_requestFaultReset (axis : Axis) :
    (requestFaultReset axis).1.transitionElapsed = axis.transitionElapsed := by
  rcases requestFaultReset_cases axis with ⟨hsame, -⟩ | ⟨hset, -⟩
  · rw [hsame]
  · rw [hset]

theorem commit_aged (client : Client) :
    ∃ age, commitDeferredFeedbackElapsed client =
      { client with controller := client.controller.aged age, deferredElapsed := 0 } :=
  ⟨_, rfl⟩

theorem feedbackAge_defer {client : Client} {deferred timeDifference : UInt32}
    (h : deferred.toNat =
      min (client.deferredElapsed.toNat + timeDifference.toNat) uint32Max.toNat) :
    ({ client with deferredElapsed := deferred } : Client).feedbackAge =
      min (client.feedbackAge + timeDifference.toNat) uint32Max.toNat := by
  rw [feedbackAge_eq, feedbackAge_eq]
  dsimp only
  omega

theorem feedbackElapsed_setTarget (axis : Axis) (code : Int) :
    (setTarget axis code).1.feedbackElapsed = axis.feedbackElapsed := by
  rcases setTarget_newTarget_cases axis code with ⟨-, hsame⟩ | ⟨-, target, start, hset⟩
  · rw [hsame]
  · rw [hset]

theorem transitionElapsed_setTarget (axis : Axis) (code : Int) :
    (setTarget axis code).1.transitionElapsed = 0 ∨
      (setTarget axis code).1.transitionElapsed = axis.transitionElapsed := by
  rcases setTarget_newTarget_cases axis code with ⟨-, hsame⟩ | ⟨-, target, start, hset⟩
  · rw [hsame]
    exact Or.inr rfl
  · rw [hset]
    exact Or.inl rfl

theorem balanced_setTarget {ledger : Ledger} (h : Balanced ledger) (code : Int) :
    Balanced (ledgerStep ledger (.setTarget code)) := by
  unfold ledgerStep clientStep
  dsimp only
  rcases client_setTarget_cases ledger.client code with ⟨hsame, hrefused⟩ | ⟨haccepted, -, hset⟩
  · rw [hrefused, hsame, if_neg Bool.false_ne_true]
    exact h
  · rw [haccepted, if_pos rfl, hset]
    refine ⟨h.initialized, h.index_valid, ?_, fun _ => rfl, fun _ => rfl, ?_⟩
    · have hage := feedbackAge_commit
        { ledger.client with controller := (setTarget ledger.client.controller code).1 }
      have hkept : ({ ledger.client with
          controller := (setTarget ledger.client.controller code).1 } : Client).feedbackAge =
            ledger.client.feedbackAge := by
        rw [feedbackAge_eq, feedbackAge_eq]
        dsimp only
        rw [feedbackElapsed_setTarget]
      exact (hage.trans hkept).trans h.conserved
    · exact fun hpending => absurd hpending Bool.false_ne_true

theorem balanced_clearTarget {ledger : Ledger} (h : Balanced ledger) :
    Balanced (ledgerStep ledger .clearTarget) := by
  have hage := (feedbackAge_commit
    { ledger.client with controller := clearTarget ledger.client.controller }).trans h.conserved
  unfold ledgerStep clientStep clientClearTarget
  dsimp only
  rw [if_neg (by simp [h.initialized])]
  by_cases hedge : ledger.client.pendingFaultResetEdge = true
  · rw [if_neg (by simp [commitDeferredFeedbackElapsed, hedge])]
    refine ⟨h.initialized, h.index_valid, hage, fun _ => rfl, fun _ => rfl, ?_⟩
    exact fun _ hnone => absurd (hnone.symm.trans hedge) Bool.false_ne_true
  · rw [if_pos (by simpa [commitDeferredFeedbackElapsed] using hedge)]
    refine ⟨h.initialized, h.index_valid, hage, fun _ => rfl, fun _ => rfl, ?_⟩
    exact fun hpending => absurd hpending Bool.false_ne_true

/-- A request is accepted only with nothing pending: an ordinary update was emitted
outside the fault path, and no core step has run since. -/
theorem balanced_requestFaultReset {ledger : Ledger} (h : Balanced ledger) :
    Balanced (ledgerStep ledger .requestFaultReset) := by
  unfold ledgerStep clientStep clientRequestFaultReset
  dsimp only
  by_cases hreject : (!ledger.client.initialized || ledger.client.pendingFaultResetEdge) = true
  · rw [if_pos hreject]
    exact h
  rw [if_neg hreject]
  rcases requestFaultReset_cases ledger.client.controller with
    ⟨hsame, hrefused⟩ | ⟨hset, haccepted, hview, -⟩
  · rw [hrefused, hsame, if_neg Bool.false_ne_true]
    exact h
  · rw [Bool.or_eq_true, not_or, Bool.not_eq_true (ledger.client.pendingFaultResetEdge)] at hreject
    have hnone : ledger.client.pendingUpdateValid = false := by
      rw [← Bool.not_eq_true]
      intro hpending
      exact absurd (h.ordinary hpending hreject.2 .fault hview) (by decide)
    rw [haccepted, hset, if_pos rfl]
    refine ⟨h.initialized, h.index_valid, h.conserved, fun _ => h.deferred hnone, ?_, ?_⟩
    · exact fun hpending => absurd hpending Bool.false_ne_true
    · exact fun hpending => absurd hpending Bool.false_ne_true

theorem balanced_retry {ledger : Ledger} (h : Balanced ledger) (timeDifference : UInt32)
    (answers : Answers) (hpending : ledger.client.pendingUpdateValid = true) {step : StepResult}
    (hstep : step.commandAccepted = false) :
    Balanced
      { client := (retryPendingUpdate ledger.client step timeDifference answers).client
        sinceStatusword := ledger.sinceStatusword + timeDifference.toNat
        outage := ledger.outage } := by
  obtain ⟨deferred, hdeferred, hclient⟩ :=
    client_retryPendingUpdate ledger.client timeDifference answers hstep
  have hage : ({ ledger.client with deferredElapsed := deferred } : Client).feedbackAge =
      min (ledger.sinceStatusword + timeDifference.toNat) uint32Max.toNat := by
    rw [feedbackAge_defer hdeferred, h.conserved]
    omega
  rcases hclient with hkept | haccepted
  · rw [hkept]
    refine ⟨h.initialized, h.index_valid, hage, ?_, fun _ => h.no_outage hpending, h.ordinary⟩
    exact fun hnone => absurd (hnone.symm.trans hpending) Bool.false_ne_true
  · have hcommit := feedbackAge_commit
      { clearPendingUpdate { ledger.client with deferredElapsed := deferred } with
        pendingFaultResetEdge := false }
    obtain ⟨age, haged⟩ := commit_aged
      { clearPendingUpdate { ledger.client with deferredElapsed := deferred } with
        pendingFaultResetEdge := false }
    rw [haccepted]
    rw [haged] at hcommit ⊢
    refine ⟨h.initialized, h.index_valid, hcommit.trans hage, fun _ => ?_,
      fun _ => h.no_outage hpending, ?_⟩
    · dsimp only
      rw [h.no_outage hpending]
      rfl
    · exact fun hagain => absurd hagain Bool.false_ne_true

theorem balanced_outage {ledger : Ledger} (h : Balanced ledger) {deferred timeDifference : UInt32}
    (hdeferred : deferred.toNat =
      min (ledger.client.deferredElapsed.toNat + timeDifference.toNat) uint32Max.toNat)
    (hpending : ledger.client.pendingUpdateValid = false) :
    Balanced
      { client := { ledger.client with deferredElapsed := deferred }
        sinceStatusword := ledger.sinceStatusword + timeDifference.toNat
        outage := ledger.outage + timeDifference.toNat } := by
  refine ⟨h.initialized, h.index_valid, ?_, fun _ => ?_, ?_, h.ordinary⟩
  · dsimp only
    rw [feedbackAge_defer hdeferred, h.conserved]
    omega
  · dsimp only
    rw [hdeferred, h.deferred hpending]
    omega
  · exact fun hagain => absurd (hpending.symm.trans hagain) Bool.false_ne_true

theorem Processed.view_of_command {axis : Axis} {outcome : Axis × ControlwordUpdate}
    (h : Processed axis outcome) (hpulse : axis.faultResetPulseHigh = false)
    (hvalid : outcome.2.valid = true) (hlow : outcome.2.high = false) {state : State}
    (hview : outcome.1.view = some state) : state.faulted = false := by
  have hsame := h.view_eq
  cases h with
  | low result hhigh => exact absurd (hpulse.symm.trans hhigh) Bool.false_ne_true
  | high => exact absurd (high_faultReset.symm.trans hlow) Bool.noConfusion
  | command transition _ other hother hnormal =>
      obtain rfl := Option.some.inj ((hother.symm.trans hsame.symm).trans hview)
      exact hnormal
  | _ => exact absurd hvalid Bool.false_ne_true

theorem balanced_step {ledger : Ledger} (h : Balanced ledger) (timeDifference : UInt32)
    (transfer : TransferResult) (answers : Answers)
    (hpending : ledger.client.pendingUpdateValid = false) {step : StepResult}
    (hstep : step.commandAccepted = false) :
    Balanced
      { client := (processStatusword ledger.client step timeDifference transfer answers).client
        sinceStatusword :=
          if transfer.status = .ok then 0 else ledger.sinceStatusword + timeDifference.toNat
        outage := 0 } := by
  obtain ⟨update, pending, edge, hclient, hcommand⟩ :=
    client_processStatusword ledger.client timeDifference transfer answers hstep
  have helapsed := toNat_saturatingAddU32 ledger.client.deferredElapsed timeDifference
  generalize saturatingAddU32 ledger.client.deferredElapsed timeDifference = elapsed
    at hclient hcommand helapsed
  have hprocessed := process_processed ledger.client.controller (transferFeedback transfer) elapsed
  have hfeedback := feedbackElapsed_process ledger.client.controller (transferFeedback transfer)
    elapsed
  have hconserved := h.conserved
  rw [feedbackAge_eq] at hconserved
  rw [hclient]
  refine ⟨h.initialized, h.index_valid, ?_, fun _ => rfl, fun _ => rfl, ?_⟩
  · rw [feedbackAge_eq]
    dsimp only
    rw [hfeedback]
    have hzero : (0 : UInt32).toNat = 0 := rfl
    by_cases hok : transfer.status = .ok
    · rw [if_pos hok, if_pos (by simp [transferFeedback, hok])]
      omega
    · rw [if_neg hok, if_neg (by simp [transferFeedback, hok]), toNat_saturatingAddU32]
      omega
  · intro hvalid hedge state hview
    obtain ⟨hpulse, hemitted, hlow⟩ := hcommand hpending hvalid hedge
    exact hprocessed.view_of_command (by simpa using hpulse) hemitted hlow hview

theorem clientProcessCall_eq {client : Client} (hinitialized : client.initialized = true)
    (hindex : profileIndex client.logicalDevice indexStatusword ≠ indexInvalid)
    (timeDifference : UInt32) (answers : Answers) :
    clientProcessCall client timeDifference true answers =
      if client.pendingUpdateValid then
        retryPendingUpdate client { controllerResult := getResult client.controller }
          timeDifference answers
      else if (statuswordRead client answers).call.status ≠ .ok then
        { client :=
            { client with
              deferredElapsed := saturatingAddU32 client.deferredElapsed timeDifference }
          step := { controllerResult := getResult client.controller }
          call := (statuswordRead client answers).call }
      else
        processStatusword client { controllerResult := getResult client.controller }
          timeDifference (statuswordRead client answers).transfer answers := by
  unfold clientProcessCall clientProcess statuswordRead
  rw [if_neg (by simp [hinitialized])]
  dsimp only
  rw [if_neg hindex]

theorem client_clientProcessCall {client : Client} (hinitialized : client.initialized = true)
    (hindex : profileIndex client.logicalDevice indexStatusword ≠ indexInvalid)
    (timeDifference : UInt32) (answers : Answers) :
    (clientProcessCall client timeDifference true answers).client =
      if client.pendingUpdateValid then
        (retryPendingUpdate client { controllerResult := getResult client.controller }
          timeDifference answers).client
      else if (statuswordRead client answers).call.status ≠ .ok then
        { client with
          deferredElapsed := saturatingAddU32 client.deferredElapsed timeDifference }
      else
        (processStatusword client { controllerResult := getResult client.controller }
          timeDifference (statuswordRead client answers).transfer answers).client := by
  rw [clientProcessCall_eq hinitialized hindex]
  split_ifs <;> rfl

theorem balanced_process {ledger : Ledger} (h : Balanced ledger) (timeDifference : UInt32)
    (answers : Answers) : Balanced (ledgerStep ledger (.process timeDifference true answers)) := by
  unfold ledgerStep clientStep Ledger.read
  dsimp only
  rw [client_clientProcessCall h.initialized h.index_valid]
  by_cases hpending : ledger.client.pendingUpdateValid = true
  · rw [if_pos hpending, if_pos hpending]
    exact balanced_retry h timeDifference answers hpending rfl
  rw [if_neg hpending, if_neg hpending]
  rw [Bool.not_eq_true] at hpending
  by_cases hrefused : (statuswordRead ledger.client answers).call.status ≠ .ok
  · rw [if_pos hrefused, if_pos hrefused]
    exact balanced_outage h (toNat_saturatingAddU32 _ _) hpending
  rw [if_neg hrefused, if_neg hrefused]
  have hnext := @balanced_step ledger h timeDifference
    (statuswordRead ledger.client answers).transfer answers hpending
    { controllerResult := getResult ledger.client.controller } rfl
  by_cases hok : (statuswordRead ledger.client answers).transfer.status = .ok
  · rw [if_pos hok] at hnext ⊢
    exact hnext
  · rw [if_neg hok] at hnext ⊢
    exact hnext

theorem balanced_ledgerStep {ledger : Ledger} (h : Balanced ledger) (call : ClientCall) :
    Balanced (ledgerStep ledger call) := by
  cases call with
  | setTarget code => exact balanced_setTarget h code
  | clearTarget => exact balanced_clearTarget h
  | requestFaultReset => exact balanced_requestFaultReset h
  | process timeDifference resultGiven answers =>
      cases resultGiven with
      | false => exact h
      | true => exact balanced_process h timeDifference answers

theorem balanced_clientInit {transport : Transport} {opsGiven : Bool} {config : ClientConfig}
    {client : Client} (hinit : clientInit transport opsGiven config = some client) :
    Balanced { client := client } := by
  unfold clientInit at hinit
  split_ifs at hinit with hreject
  obtain rfl := Option.some.inj hinit
  refine ⟨rfl, ?_, rfl, fun _ => rfl, fun _ => rfl, fun hpending => ?_⟩
  · rw [Bool.or_eq_true, not_or] at hreject
    exact profileIndex_ne_invalid (by simpa using hreject.2) (by decide)
  · exact absurd hpending Bool.false_ne_true

/-! ## The transition timer -/

theorem transitionElapsed_retry (client : Client) {step : StepResult} (timeDifference : UInt32)
    (answers : Answers) (hstep : step.commandAccepted = false) :
    (retryPendingUpdate client step timeDifference answers).client.controller.transitionElapsed =
      client.controller.transitionElapsed := by
  obtain ⟨deferred, -, hkept | haccepted⟩ :=
    client_retryPendingUpdate client timeDifference answers hstep
  · rw [hkept]
  · obtain ⟨age, haged⟩ := commit_aged
      { clearPendingUpdate { client with deferredElapsed := deferred } with
        pendingFaultResetEdge := false }
    rw [haccepted, haged]
    rfl

theorem charges_process {ledger : Ledger} (h : Balanced ledger) (timeDifference : UInt32)
    (answers : Answers) : ChargesTransition ledger (.process timeDifference true answers) := by
  unfold ChargesTransition clientStep
  dsimp only
  rw [client_clientProcessCall h.initialized h.index_valid]
  by_cases hpending : ledger.client.pendingUpdateValid = true
  · rw [if_pos hpending, if_pos (Or.inl hpending)]
    exact transitionElapsed_retry ledger.client timeDifference answers rfl
  rw [if_neg hpending]
  by_cases hrefused : (statuswordRead ledger.client answers).call.status ≠ .ok
  · rw [if_pos hrefused, if_pos (Or.inr hrefused)]
  rw [if_neg hrefused, if_neg (not_or.mpr ⟨hpending, hrefused⟩)]
  obtain ⟨update, pending, edge, hclient, -⟩ := @client_processStatusword ledger.client
    { controllerResult := getResult ledger.client.controller } timeDifference
    (statuswordRead ledger.client answers).transfer answers rfl
  rw [hclient]
  have hdeferred := h.deferred (by simpa using hpending)
  have helapsed := toNat_saturatingAddU32 ledger.client.deferredElapsed timeDifference
  generalize saturatingAddU32 ledger.client.deferredElapsed timeDifference = elapsed at helapsed ⊢
  have hcharged := charged_process ledger.client.controller
    (transferFeedback (statuswordRead ledger.client answers).transfer) elapsed
  dsimp only
  generalize (process ledger.client.controller
    (transferFeedback (statuswordRead ledger.client answers).transfer) elapsed).1.transitionElapsed
      = after at hcharged ⊢
  cases hcharged with
  | restarted => exact Or.inl rfl
  | stands => exact Or.inr (Or.inl rfl)
  | counted =>
      refine Or.inr (Or.inr ?_)
      rw [toNat_saturatingAddU32]
      omega

theorem charges_of_balanced {ledger : Ledger} (h : Balanced ledger) (call : ClientCall) :
    ChargesTransition ledger call := by
  cases call with
  | setTarget code =>
      unfold ChargesTransition clientStep
      dsimp only
      rcases client_setTarget_cases ledger.client code with ⟨hsame, -⟩ | ⟨-, -, hset⟩
      · rw [hsame]
        exact Or.inr rfl
      · obtain ⟨age, haged⟩ := commit_aged
          { ledger.client with controller := (setTarget ledger.client.controller code).1 }
        rw [hset, haged]
        exact transitionElapsed_setTarget ledger.client.controller code
  | clearTarget =>
      unfold ChargesTransition clientStep clientClearTarget
      dsimp only
      rw [if_neg (by simp [h.initialized])]
      split_ifs <;> exact Or.inl rfl
  | requestFaultReset =>
      unfold ChargesTransition clientStep clientRequestFaultReset
      dsimp only
      split_ifs
      · exact Or.inr rfl
      · exact Or.inr (transitionElapsed_requestFaultReset ledger.client.controller)
      · exact Or.inr (transitionElapsed_requestFaultReset ledger.client.controller)
  | process timeDifference resultGiven answers =>
      cases resultGiven with
      | false => exact rfl
      | true => exact charges_process h timeDifference answers

/-- Whatever is called and whatever the transfers answer, the two counters of a client
add up to the time since the last Statusword, and the transition timer is charged with
no time of a retry. -/
theorem timeConservation_of_calls {transport : Transport} {opsGiven : Bool}
    {config : ClientConfig} {client : Client}
    (hinit : clientInit transport opsGiven config = some client) (calls : List ClientCall) :
    (saturatingAddU32 (clientAfter client calls).controller.feedbackElapsed
        (clientAfter client calls).deferredElapsed).toNat =
      min (run ledgerStep { client := client } calls).sinceStatusword uint32Max.toNat ∧
    EveryStep ledgerStep ChargesTransition { client := client } calls := by
  have hclient : (run ledgerStep { client := client } calls).client = clientAfter client calls :=
    run_hom Ledger.client client_ledgerStep { client := client } calls
  have hstart := balanced_clientInit hinit
  have hstep : ∀ ledger call, Balanced ledger → Balanced (ledgerStep ledger call) :=
    fun ledger call h => balanced_ledgerStep h call
  refine ⟨?_, ?_⟩
  · rw [← hclient]
    exact (run_invariant hstep hstart calls).conserved
  · exact everyStep_of_run_invariant hstep (fun ledger call h => charges_of_balanced h call)
      hstart calls

/-- A Statusword, a Controlword write that waits for its second attempt, an outage of the
Statusword, and a failed transfer. -/
def lossyCalls : List ClientCall :=
  [ .setTarget 3,
    .process 100 true ⟨wordAnswer 0x40 0, wordAnswer 0 0, busyAnswer⟩,
    .process 70 true ⟨busyAnswer, wordAnswer 0 0, wordAnswer 0 0⟩,
    .process 30 true ⟨busyAnswer, busyAnswer, busyAnswer⟩,
    .process 20 true ⟨{ call := okCall, transfer := clearedTransfer }, busyAnswer, busyAnswer⟩ ]

theorem timeConservation_lossyCalls :
    ∃ client, clientInit ⟨true, true⟩ true ⟨1, 0, patientConfig⟩ = some client ∧
      ((saturatingAddU32 (clientAfter client lossyCalls).controller.feedbackElapsed
          (clientAfter client lossyCalls).deferredElapsed).toNat =
        min (run ledgerStep { client := client } lossyCalls).sinceStatusword uint32Max.toNat ∧
      EveryStep ledgerStep ChargesTransition { client := client } lossyCalls) ∧
      (run ledgerStep { client := client } lossyCalls).sinceStatusword = 120 ∧
      (clientAfter client lossyCalls).controller.transitionElapsed = 50 := by
  have hinit : clientInit ⟨true, true⟩ true ⟨1, 0, patientConfig⟩ = some
      { transport := ⟨true, true⟩, controller := init patientConfig, nodeId := 1,
        logicalDevice := 0, initialized := true } := rfl
  refine ⟨_, hinit, timeConservation_of_calls hinit lossyCalls, ?_, ?_⟩
  · decide +kernel
  · decide +kernel

end CanopenRtt.Cia402.Controller
