import CanopenRtt.Cia402.Convergence
import CanopenRtt.Cia402.Controller.ClientMoves
/-!
# One Controller client and one Device axis behind SDO

`CO_402_controller_client_process` closed over the objects of a remote axis. A transfer succeeds, or
fails in any way; a download that fails may have reached 0x6040 all the same. The Device goes on
while a call is under way.
-/

namespace CanopenRtt.Cia402

open CanopenRtt.Support CanopenRtt.Profile Controller Device

/-! ## Transfers -/

/-- What becomes of an upload. -/
inductive Upload where
  | done
  | failed (answer : SdoAnswer) (refused : answer.accepted = false)

/-- What becomes of a download. -/
inductive Delivery where
  | done
  | failed (answer : SdoAnswer) (refused : answer.accepted = false) (reached : Bool)

def Upload.isDone : Upload → Bool
  | .done => true
  | .failed .. => false

def Delivery.isDone : Delivery → Bool
  | .done => true
  | .failed .. => false

/-- The object has been written. -/
def Delivery.reached : Delivery → Bool
  | .done => true
  | .failed _ _ reached => reached

/-- A completed upload of a 16-bit object. -/
def uploaded (word : Word) : SdoAnswer where
  call := okCall
  transfer :=
    { status := .ok
      data := ((Vector.replicate 8 0).set 0 (encodeU16 word).1).set 1 (encodeU16 word).2
      size := 2 }

def Upload.answer (word : Word) : Upload → SdoAnswer
  | .done => uploaded word
  | .failed answer _ => answer

def Delivery.answer : Delivery → SdoAnswer
  | .done => { call := okCall, transfer := { status := .ok } }
  | .failed answer _ _ => answer

/-- What happens during one process call. The Device is processed before the download, if there is
one. -/
structure Transfers where
  statusword : Upload
  controlword : Upload
  passes : List PassInputs
  delivery : Delivery

/-- Nothing fails. -/
def Transfers.isDone (transfers : Transfers) : Bool :=
  transfers.statusword.isDone && transfers.controlword.isDone && transfers.delivery.isDone

theorem decodeU16_uploaded (word : Word) : decodeU16 (uploaded word).transfer = word :=
  wordOfBytes_encodeU16 word

theorem transferFeedback_uploaded (word : Word) :
    transferFeedback (uploaded word).transfer =
      { statuswordValid := true, statusword := word } := by
  rw [transferFeedback, decodeU16_uploaded]
  rfl

/-! ## The composition -/

/-- The client, the axis that it commands, and 0x6040, which nobody else writes. -/
structure Remote where
  client : Client
  device : Device.Axis
  controlword : Word

inductive RemoteInput where
  | call (timeDifference : UInt32) (transfers : Transfers)
  | pass (inputs : PassInputs)

namespace Remote

/-- A supervisor pass: every read of 0x6040 finds it, and 0x6041 is written. -/
def pass (remote : Remote) (inputs : PassInputs) : Remote :=
  { remote with
    device := processAxis
      { inputs with controlword := fun _ => some remote.controlword, setStatusword := true }
      remote.device }

def answers (remote : Remote) (transfers : Transfers) : Answers where
  statuswordUpload := transfers.statusword.answer remote.device.image.statusword
  controlwordUpload := transfers.controlword.answer remote.controlword
  controlwordDownload := transfers.delivery.answer

def outcome (remote : Remote) (timeDifference : UInt32) (transfers : Transfers) : Outcome :=
  clientProcessCall remote.client timeDifference true (remote.answers transfers)

/-- 0x6040 after a call. -/
def delivered (remote : Remote) (outcome : Outcome) (delivery : Delivery) : Word :=
  outcome.download.elim remote.controlword fun download =>
    if delivery.reached then wordOfBytes download.data else remote.controlword

def step (remote : Remote) : RemoteInput → Remote
  | .call timeDifference transfers =>
      let outcome := remote.outcome timeDifference transfers
      { client := outcome.client
        device := (run pass remote transfers.passes).device
        controlword := remote.delivered outcome transfers.delivery }
  | .pass inputs => remote.pass inputs

/-- No fault occurs in this pass. -/
def CleanPass (remote : Remote) (inputs : PassInputs) : Prop :=
  (remote.pass inputs).device.state.faulted = false

/-- No fault occurs in this step. -/
def Clean (remote : Remote) : RemoteInput → Prop
  | .call _ transfers => EveryStep pass CleanPass remote transfers.passes
  | .pass inputs => remote.CleanPass inputs

end Remote

/-- The client can reach its axis. -/
structure Configured (client : Client) : Prop where
  initialized : client.initialized = true
  sdoUpload : client.transport.sdoUpload = true
  sdoDownload : client.transport.sdoDownload = true
  nodeId : client.nodeId ≠ 0 ∧ client.nodeId ≤ 127
  logicalDevice : logicalDeviceValid client.logicalDevice = true

/-! ## A process call -/

/-- What becomes of an update that is handed to the transport: it stays pending, and may have
reached 0x6040, or it is confirmed. -/
inductive Fate (controlword : Word) (update : ControlwordUpdate) (done : Bool) :
    Bool → Word → Prop where
  | kept (hdone : done = false) : Fate controlword update done true controlword
  | lost (hdone : done = false) :
      Fate controlword update done true (applyControlwordUpdate controlword update)
  | confirmed : Fate controlword update done false (applyControlwordUpdate controlword update)

/-- The core and the pending update after a process call, and 0x6040. -/
inductive Called (remote : Remote) (transfers : Transfers) (after : Client) : Word → Prop where
  | idle (age : UInt32) (hpending : remote.client.pendingUpdateValid = false)
      (hfailed : transfers.statusword.isDone = false)
      (hcontroller : after.controller = remote.client.controller.aged age)
      (hafter : after.pendingUpdateValid = false) : Called remote transfers after remote.controlword
  | retried (age : UInt32) (controlword : Word) (hpending : remote.client.pendingUpdateValid = true)
      (hcontroller : after.controller = remote.client.controller.aged age)
      (hfate : Fate remote.controlword remote.client.pendingUpdate
        (transfers.controlword.isDone && transfers.delivery.isDone) after.pendingUpdateValid
        controlword)
      (hsame : after.pendingUpdateValid = true →
        after.pendingUpdate = remote.client.pendingUpdate) :
      Called remote transfers after controlword
  | stepped (feedback : Feedback) (elapsed : UInt32) {outcome : Controller.Axis × ControlwordUpdate}
      (controlword : Word) (hpending : remote.client.pendingUpdateValid = false)
      (hfeedback : feedback = { statuswordValid := true, statusword :=
          remote.device.image.statusword } ∨
        transfers.statusword.isDone = false ∧
          feedback = { statuswordValid := false, statusword := 0 })
      (hprocess : Controller.process remote.client.controller feedback elapsed = outcome)
      (hcontroller : after.controller = outcome.1)
      (hafter : outcome.2.valid = false ∧ after.pendingUpdateValid = false ∧
          controlword = remote.controlword ∨
        outcome.2.valid = true ∧
          Fate remote.controlword outcome.2
            (transfers.controlword.isDone && transfers.delivery.isDone) after.pendingUpdateValid
            controlword ∧
          (after.pendingUpdateValid = true → after.pendingUpdate = outcome.2)) :
      Called remote transfers after controlword

section

variable {remote : Remote} {client : Client} {transfers : Transfers}

theorem canonicalIndexValid_statusword : canonicalIndexValid indexStatusword = true := by decide

theorem canonicalIndexValid_controlword : canonicalIndexValid indexControlword = true := by decide

theorem sdoArgumentsValid_of_configured (h : Configured client) {index : Nat}
    (hindex : canonicalIndexValid index = true) :
    sdoArgumentsValid client.nodeId (profileIndex client.logicalDevice index) 2 = true := by
  have hvalid := profileIndex_ne_invalid h.logicalDevice hindex
  unfold indexInvalid at hvalid
  unfold sdoArgumentsValid controllerValueSizeMax
  simp [h.nodeId.1, h.nodeId.2, hvalid]

theorem sdoUpload_configured (h : Configured client) {index : Nat}
    (hindex : canonicalIndexValid index = true) (answer : SdoAnswer) :
    sdoUpload client.transport client.nodeId (profileIndex client.logicalDevice index) 2 answer =
      answer := by
  unfold sdoUpload
  rw [h.sdoUpload, sdoArgumentsValid_of_configured h hindex]
  rfl

theorem sdoDownload_configured (h : Configured client) {index : Nat}
    (hindex : canonicalIndexValid index = true) (answer : SdoAnswer) :
    sdoDownload client.transport client.nodeId (profileIndex client.logicalDevice index) 2 answer =
      answer := by
  unfold sdoDownload
  rw [h.sdoDownload, sdoArgumentsValid_of_configured h hindex]
  rfl

theorem Upload.done_of_accepted {attempt : Upload} {word : Word}
    (h : (attempt.answer word).accepted = true) : attempt = .done := by
  cases attempt with
  | done => rfl
  | failed answer refused => exact absurd (refused.symm.trans h) Bool.false_ne_true

theorem Upload.not_done {attempt : Upload} {word : Word}
    (h : (attempt.answer word).accepted = false) : attempt.isDone = false := by
  cases attempt with
  | done => simp [Upload.answer, uploaded, SdoAnswer.accepted, okCall] at h
  | failed answer refused => rfl

theorem Delivery.done_of_accepted {attempt : Delivery} (h : attempt.answer.accepted = true) :
    attempt = .done := by
  cases attempt with
  | done => rfl
  | failed answer refused _ => exact absurd (refused.symm.trans h) Bool.false_ne_true

theorem Delivery.not_done {attempt : Delivery} (h : attempt.answer.accepted = false) :
    attempt.isDone = false := by
  cases attempt with
  | done => exact absurd h (by decide)
  | failed answer refused _ => rfl

theorem not_accepted_of_call {answer : SdoAnswer} (h : answer.call.status ≠ .ok) :
    answer.accepted = false := by
  simp [SdoAnswer.accepted, h]

theorem not_accepted_of_transfer {answer : SdoAnswer} (h : answer.transfer.status ≠ .ok) :
    answer.accepted = false := by
  simp [SdoAnswer.accepted, h]

/-- A download that fails leaves 0x6040 as it was, or as the update makes it. -/
theorem fate_of_failed {controlword : Word} {update : ControlwordUpdate} {read : Upload}
    {delivery : Delivery} (hread : read = .done) (hfailed : delivery.answer.accepted = false) :
    Fate controlword update (read.isDone && delivery.isDone) true
      (if delivery.reached then
        wordOfBytes (encodeU16 (applyControlwordUpdate
          (decodeU16 (read.answer controlword).transfer) update))
      else controlword) := by
  have hdone : (read.isDone && delivery.isDone) = false := by
    rw [Delivery.not_done hfailed, Bool.and_false]
  rw [hread, Upload.answer, decodeU16_uploaded, wordOfBytes_encodeU16, ← hread]
  split_ifs
  · exact .lost hdone
  · exact .kept hdone

theorem flush_spec (h : Configured client) (hpending : client.pendingUpdateValid = true)
    (step : StepResult) :
    Fate remote.controlword client.pendingUpdate
        (transfers.controlword.isDone && transfers.delivery.isDone)
        (flushPendingUpdate client step (remote.answers transfers)).client.pendingUpdateValid
        (remote.delivered (flushPendingUpdate client step (remote.answers transfers))
          transfers.delivery) ∧
      (flushPendingUpdate client step (remote.answers transfers)).client.controller =
        client.controller ∧
      ((flushPendingUpdate client step (remote.answers transfers)).client.pendingUpdateValid =
        true → (flushPendingUpdate client step (remote.answers transfers)).client.pendingUpdate =
          client.pendingUpdate) := by
  have hunread (hfailed : (transfers.controlword.answer remote.controlword).accepted = false) :
      (transfers.controlword.isDone && transfers.delivery.isDone) = false := by
    rw [Upload.not_done hfailed, Bool.false_and]
  have hread (hcall : ¬ (transfers.controlword.answer remote.controlword).call.status ≠ .ok)
      (htransfer : ¬ (transfers.controlword.answer remote.controlword).transfer.status ≠ .ok) :
      transfers.controlword = .done :=
    Upload.done_of_accepted
      (by simpa [SdoAnswer.accepted] using ⟨not_not.mp hcall, not_not.mp htransfer⟩)
  unfold flushPendingUpdate Remote.answers
  dsimp only
  rw [sdoUpload_configured h canonicalIndexValid_controlword,
    sdoDownload_configured h canonicalIndexValid_controlword]
  split_ifs with hcall htransfer hwriteCall hwriteTransfer
  · rw [hpending]
    exact ⟨.kept (hunread (not_accepted_of_call hcall)), rfl, fun _ => rfl⟩
  · rw [hpending]
    exact ⟨.kept (hunread (not_accepted_of_transfer htransfer)), rfl, fun _ => rfl⟩
  · rw [hpending]
    exact ⟨fate_of_failed (hread hcall htransfer) (not_accepted_of_call hwriteCall), rfl,
      fun _ => rfl⟩
  · have hdone : transfers.delivery = .done := Delivery.done_of_accepted
      (by simpa [SdoAnswer.accepted] using ⟨not_not.mp hwriteCall, hwriteTransfer⟩)
    have hconfirmed : Fate remote.controlword client.pendingUpdate true false
        (wordOfBytes (encodeU16 (applyControlwordUpdate
          (decodeU16 (uploaded remote.controlword).transfer) client.pendingUpdate))) := by
      rw [wordOfBytes_encodeU16, decodeU16_uploaded]
      exact .confirmed
    rw [hread hcall htransfer, hdone]
    exact ⟨hconfirmed, rfl, fun hstill => absurd hstill Bool.false_ne_true⟩
  · rw [hpending]
    exact ⟨fate_of_failed (hread hcall htransfer) (not_accepted_of_transfer hwriteTransfer), rfl,
      fun _ => rfl⟩

/-- What a step of the core sees of a Statusword upload. -/
theorem feedback_of_upload (attempt : Upload) (word : Word) :
    transferFeedback (attempt.answer word).transfer =
        { statuswordValid := true, statusword := word } ∨
      (attempt.answer word).call.status ≠ .ok ∨
      attempt.isDone = false ∧ transferFeedback (attempt.answer word).transfer =
        { statuswordValid := false, statusword := 0 } := by
  cases attempt with
  | done => exact .inl (transferFeedback_uploaded word)
  | failed answer refused =>
      right
      by_cases hcall : answer.call.status = .ok
      · right
        have htransfer : ¬ answer.transfer.status = .ok := by
          intro htransfer
          simp [SdoAnswer.accepted, hcall, htransfer] at refused
        refine ⟨rfl, ?_⟩
        unfold Upload.answer transferFeedback
        rw [if_neg htransfer]
      · exact .inl hcall

theorem delivered_client (remote : Remote) (outcome : Outcome) (client : Client)
    (delivery : Delivery) : remote.delivered { outcome with client := client } delivery =
      remote.delivered outcome delivery := by
  cases outcome
  rfl

theorem retried_outcome (h : Configured remote.client)
    (hpending : remote.client.pendingUpdateValid = true) (step : StepResult)
    (timeDifference : UInt32) :
    Called remote transfers
      (retryPendingUpdate remote.client step timeDifference (remote.answers transfers)).client
      (remote.delivered
        (retryPendingUpdate remote.client step timeDifference (remote.answers transfers))
        transfers.delivery) := by
  unfold retryPendingUpdate
  dsimp only
  generalize saturatingAddU32 remote.client.deferredElapsed timeDifference = deferred
  obtain ⟨hfate, hcontroller, hsame⟩ := @flush_spec remote
    { remote.client with deferredElapsed := deferred } transfers ⟨h.1, h.2, h.3, h.4, h.5⟩ hpending
    step
  generalize flushPendingUpdate _ step _ = outcome at hfate hcontroller hsame ⊢
  unfold commitDeferredFeedbackElapsed
  generalize saturatingAddU32 outcome.client.controller.feedbackElapsed
    outcome.client.deferredElapsed = age
  by_cases haccepted : outcome.step.commandAccepted = true
  · rw [if_pos haccepted, delivered_client]
    dsimp only at hcontroller hfate hsame ⊢
    refine .retried age _ hpending ?_ hfate hsame
    dsimp only
    rw [hcontroller]
    rfl
  · rw [if_neg haccepted]
    exact .retried remote.client.controller.feedbackElapsed _ hpending hcontroller hfate hsame


theorem stepped_outcome (h : Configured remote.client)
    (hpending : remote.client.pendingUpdateValid = false) (step : StepResult)
    (timeDifference : UInt32) {transfer : TransferResult} {feedback : Feedback}
    (htransfer : transferFeedback transfer = feedback)
    (hfeedback : feedback = { statuswordValid := true, statusword :=
        remote.device.image.statusword } ∨
      transfers.statusword.isDone = false ∧
        feedback = { statuswordValid := false, statusword := 0 }) :
    Called remote transfers
      (processStatusword remote.client step timeDifference transfer
        (remote.answers transfers)).client
      (remote.delivered
        (processStatusword remote.client step timeDifference transfer (remote.answers transfers))
        transfers.delivery) := by
  unfold processStatusword
  rw [htransfer]
  generalize saturatingAddU32 remote.client.deferredElapsed timeDifference = elapsed
  dsimp only
  generalize hprocess : Controller.process remote.client.controller feedback elapsed = outcome
  by_cases hvalid : outcome.2.valid = true
  · rw [if_neg (by simp [hvalid])]
    generalize (remote.client.controller.faultResetPulseHigh ||
      outcome.1.faultResetPulseHigh) = edge
    generalize StepResult.mk _ _ _ _ _ _ _ _ _ = step
    obtain ⟨hfate, hcontroller, hsame⟩ := @flush_spec remote
      { remote.client with
        deferredElapsed := 0
        controller := outcome.1
        pendingUpdate := outcome.2
        pendingUpdateValid := true
        pendingFaultResetEdge := edge } transfers ⟨h.1, h.2, h.3, h.4, h.5⟩ rfl step
    dsimp only at hfate hcontroller hsame ⊢
    exact .stepped feedback elapsed _ hpending hfeedback hprocess hcontroller
      (.inr ⟨hvalid, hfate, hsame⟩)
  · rw [if_pos (by simpa using hvalid)]
    exact .stepped feedback elapsed _ hpending hfeedback hprocess rfl
      (.inl ⟨Bool.not_eq_true _ ▸ hvalid, hpending, rfl⟩)

/-- Every call of a configured client is one of the three. -/
theorem called_outcome (h : Configured remote.client) (timeDifference : UInt32) :
    Called remote transfers (remote.outcome timeDifference transfers).client
      (remote.delivered (remote.outcome timeDifference transfers) transfers.delivery) := by
  unfold Remote.outcome clientProcessCall
  rw [if_neg (by simp [h.initialized])]
  unfold clientProcess
  dsimp only
  by_cases hpending : remote.client.pendingUpdateValid = true
  · rw [if_pos hpending]
    exact retried_outcome h hpending _ timeDifference
  · rw [if_neg hpending]
    rw [Bool.not_eq_true] at hpending
    rw [if_neg (profileIndex_ne_invalid h.logicalDevice canonicalIndexValid_statusword),
      sdoUpload_configured h canonicalIndexValid_statusword]
    have hstatus : (remote.answers transfers).statuswordUpload =
        transfers.statusword.answer remote.device.image.statusword := rfl
    rw [hstatus]
    have hupload := feedback_of_upload transfers.statusword remote.device.image.statusword
    generalize hanswer : transfers.statusword.answer remote.device.image.statusword = answer at *
    by_cases hcall : answer.call.status ≠ .ok
    · rw [if_pos hcall]
      generalize saturatingAddU32 remote.client.deferredElapsed timeDifference = deferred
      have hfailed : transfers.statusword.isDone = false := by
        apply Upload.not_done
        rw [hanswer]
        exact not_accepted_of_call hcall
      change Called remote transfers { remote.client with deferredElapsed := deferred }
        remote.controlword
      refine .idle remote.client.controller.feedbackElapsed hpending hfailed ?_ hpending
      rfl
    · rw [if_neg hcall]
      refine stepped_outcome h hpending _ timeDifference rfl ?_
      rcases hupload with hdone | hrefused | hfailed
      · exact .inl hdone
      · exact absurd hrefused hcall
      · exact .inr hfailed

end

end CanopenRtt.Cia402
