import CanopenRtt.Cia402.Controller.Client
import CanopenRtt.Cia402.Controller.Pulse
/-!
# What one client call may do

The client hands the calls of its caller to the Controller core, and the updates
of the core to the transport. Its own contribution is the pending update and the
time spent on retries, which ages the feedback of the core and nothing else.
-/

namespace CanopenRtt.Cia402.Controller

open CanopenRtt.Profile

/-- A call of the client API on one initialized client. -/
inductive ClientCall where
  | setTarget (code : Int)
  | clearTarget
  | requestFaultReset
  | process (timeDifference : UInt32) (resultGiven : Bool) (answers : Answers)
  deriving DecidableEq

def clientStep (client : Client) : ClientCall → Client
  | .setTarget code => (clientSetTarget client code).1
  | .clearTarget => clientClearTarget client
  | .requestFaultReset => (clientRequestFaultReset client).1
  | .process timeDifference resultGiven answers =>
      (clientProcessCall client timeDifference resultGiven answers).client

/-- The complete Controlword a call gets accepted by the remote axis. -/
def written (client : Client) : ClientCall → Option Word
  | .process timeDifference resultGiven answers =>
      (clientProcessCall client timeDifference resultGiven answers).written
  | _ => none

/-- The Statusword a call obtains from the remote axis. -/
def observed (client : Client) : ClientCall → Option Word
  | .process timeDifference resultGiven answers =>
      let step := (clientProcessCall client timeDifference resultGiven answers).step
      if step.statuswordValid then some step.statusword else none
  | _ => none

/-- What a request to the core returns. -/
def accepted (axis : Axis) : Call → Bool
  | .setTarget code => (setTarget axis code).2
  | .requestFaultReset => (requestFaultReset axis).2
  | _ => false

/-- What a request to the client returns. -/
def clientAccepted (client : Client) : ClientCall → Bool
  | .setTarget code => (clientSetTarget client code).2
  | .requestFaultReset => (clientRequestFaultReset client).2
  | _ => false

/-- The call of the Controller core behind a request of the caller. -/
def ClientCall.intent : ClientCall → Option Call
  | .setTarget code => some (.setTarget code)
  | .clearTarget => some .clearTarget
  | .requestFaultReset => some .requestFaultReset
  | .process .. => none

def Axis.aged (axis : Axis) (age : UInt32) : Axis :=
  { axis with feedbackElapsed := age }

@[simp] theorem view_aged (axis : Axis) (age : UInt32) : (axis.aged age).view = axis.view := rfl

@[simp] theorem faultResetPulseHigh_aged (axis : Axis) (age : UInt32) :
    (axis.aged age).faultResetPulseHigh = axis.faultResetPulseHigh := rfl

@[simp] theorem faultResetRequested_aged (axis : Axis) (age : UInt32) :
    (axis.aged age).faultResetRequested = axis.faultResetRequested := rfl

@[simp] theorem targetValid_aged (axis : Axis) (age : UInt32) :
    (axis.aged age).targetValid = axis.targetValid := rfl

@[simp] theorem target_aged (axis : Axis) (age : UInt32) :
    (axis.aged age).target = axis.target := rfl

theorem Recovering.aged {axis : Axis} (h : Recovering axis) (age : UInt32) :
    Recovering (axis.aged age) where
  pulse := h.pulse
  requested := h.requested
  faulted := h.faulted

/-- The value of a feedback, when it has one. -/
def Feedback.observed (feedback : Feedback) : Option Word :=
  if feedback.statuswordValid then some feedback.statusword else none

/-- The effect of one client call: the client after it, the Statusword it observed
and the Controlword it got accepted. -/
inductive ClientMove (client : Client) (call : ClientCall) :
    Client → Option Word → Option Word → Prop where
  /-- rejected, or stopped by the transport before anything was decided -/
  | idle (age deferred : UInt32) :
      ClientMove client call
        { client with controller := client.controller.aged age, deferredElapsed := deferred }
        none none
  /-- the target cleared behind a pending Fault Reset edge -/
  | cleared (age deferred : UInt32) (hcall : call = .clearTarget)
      (hedge : client.pendingFaultResetEdge = true) :
      ClientMove client call
        { client with
          controller := (clearTarget client.controller).aged age
          deferredElapsed := deferred } none none
  /-- a request of the caller, which drops an ordinary pending update -/
  | replaced (core : Call) (age deferred : UInt32) (hcore : call.intent = some core)
      (hedge : client.pendingFaultResetEdge = false)
      (haccepted : clientAccepted client call = accepted client.controller core) :
      ClientMove client call
        (clearPendingUpdate
          { client with
            controller := (step client.controller core).aged age
            deferredElapsed := deferred }) none none
  /-- the pending update, accepted -/
  | retried (read : Word) (age deferred : UInt32)
      (hpending : client.pendingUpdateValid = true) :
      ClientMove client call
        { clearPendingUpdate client with
          pendingFaultResetEdge := false
          controller := client.controller.aged age
          deferredElapsed := deferred }
        none (some (applyControlwordUpdate read client.pendingUpdate))
  /-- a step of the core without an update -/
  | silent (feedback : Feedback) (elapsed : UInt32)
      (hpending : client.pendingUpdateValid = false) (hintent : call.intent = none)
      (hinvalid : (process client.controller feedback elapsed).2.valid = false) :
      ClientMove client call
        { client with
          controller := (process client.controller feedback elapsed).1
          deferredElapsed := 0 } feedback.observed none
  /-- a step of the core whose update is not accepted yet -/
  | stored (feedback : Feedback) (elapsed : UInt32)
      (hpending : client.pendingUpdateValid = false) (hintent : call.intent = none)
      (hvalid : (process client.controller feedback elapsed).2.valid = true) :
      ClientMove client call
        { client with
          controller := (process client.controller feedback elapsed).1
          deferredElapsed := 0
          pendingUpdate := (process client.controller feedback elapsed).2
          pendingUpdateValid := true
          pendingFaultResetEdge :=
            client.controller.faultResetPulseHigh ||
              (process client.controller feedback elapsed).1.faultResetPulseHigh }
        feedback.observed none
  /-- a step of the core whose update is accepted at once -/
  | sent (feedback : Feedback) (elapsed : UInt32) (read : Word)
      (hpending : client.pendingUpdateValid = false) (hintent : call.intent = none)
      (hvalid : (process client.controller feedback elapsed).2.valid = true) :
      ClientMove client call
        { clearPendingUpdate client with
          controller := (process client.controller feedback elapsed).1
          deferredElapsed := 0
          pendingFaultResetEdge := false }
        feedback.observed
        (some (applyControlwordUpdate read (process client.controller feedback elapsed).2))

/-! ## The transfer pair on the Controlword -/

/-- A flush keeps the client, or gets the pending update accepted. -/
inductive Flushed (client : Client) (step : StepResult) : Outcome → Prop where
  | kept (outcome : Outcome) (hclient : outcome.client = client)
      (hwritten : outcome.written = none) (haccepted : outcome.step.commandAccepted = false)
      (hvalid : outcome.step.statuswordValid = step.statuswordValid)
      (hstatusword : outcome.step.statusword = step.statusword) : Flushed client step outcome
  | accepted (outcome : Outcome) (read : Word)
      (hclient : outcome.client =
        { clearPendingUpdate client with pendingFaultResetEdge := false })
      (hwritten : outcome.written = some (applyControlwordUpdate read client.pendingUpdate))
      (haccepted : outcome.step.commandAccepted = true)
      (hvalid : outcome.step.statuswordValid = step.statuswordValid)
      (hstatusword : outcome.step.statusword = step.statusword) : Flushed client step outcome

theorem flushed_flushPendingUpdate (client : Client) {step : StepResult} (answers : Answers)
    (hstep : step.commandAccepted = false) :
    Flushed client step (flushPendingUpdate client step answers) := by
  unfold flushPendingUpdate
  dsimp only
  split_ifs with hread hreadTransfer hwrite hwriteTransfer
  · exact .kept _ rfl rfl hstep rfl rfl
  · exact .kept _ rfl rfl hstep rfl rfl
  · refine .kept _ rfl ?_ hstep rfl rfl
    simp [Outcome.written, SdoAnswer.accepted, hwrite]
  · rw [not_not] at hwrite
    refine .accepted _ (decodeU16 (sdoUpload client.transport client.nodeId
      (profileIndex client.logicalDevice indexControlword) 2 answers.controlwordUpload).transfer)
      rfl ?_ rfl rfl rfl
    simp [Outcome.written, SdoAnswer.accepted, hwrite, hwriteTransfer, wordOfBytes_encodeU16]
  · refine .kept _ rfl ?_ hstep rfl rfl
    simp [Outcome.written, SdoAnswer.accepted, hwriteTransfer]

/-! ## One client call -/

theorem setTarget_rejected {axis : Axis} {code : Int} (h : (setTarget axis code).2 = false) :
    (setTarget axis code).1 = axis := by
  rcases setTarget_cases axis code with hsame | ⟨_, _, _, _, _, -, haccepted, -⟩
  · exact hsame
  · exact absurd (h.symm.trans haccepted) Bool.false_ne_true

theorem setTarget_repeated {axis : Axis} {code : Int} (hvalid : axis.targetValid = true)
    (hcode : targetOfCode code = some axis.target) : (setTarget axis code).1 = axis := by
  unfold setTarget
  rw [hcode]
  dsimp only
  rw [hvalid, Bool.true_and, decide_eq_true rfl, if_pos rfl]
  split_ifs <;> rfl

theorem requestFaultReset_rejected {axis : Axis} (h : (requestFaultReset axis).2 = false) :
    (requestFaultReset axis).1 = axis := by
  rcases requestFaultReset_cases axis with ⟨hsame, -⟩ | ⟨-, haccepted, -⟩
  · exact hsame
  · exact absurd (h.symm.trans haccepted) Bool.false_ne_true

theorem clientMove_refl (client : Client) (call : ClientCall) :
    ClientMove client call client none none :=
  .idle client.controller.feedbackElapsed client.deferredElapsed

theorem clientMove_setTarget (client : Client) (code : Int) :
    ClientMove client (.setTarget code) (clientSetTarget client code).1 none none := by
  by_cases hreject : (!client.initialized || client.pendingFaultResetEdge) = true
  · rw [clientSetTarget, if_pos hreject]
    exact clientMove_refl client _
  by_cases hnew : ((setTarget client.controller code).2 &&
      !(client.controller.targetValid &&
        decide (targetOfCode code = some client.controller.target))) = true
  · have hedge : client.pendingFaultResetEdge = false := by
      simp only [Bool.or_eq_true, not_or, Bool.not_eq_true] at hreject
      exact hreject.2
    have haccepted : clientAccepted client (.setTarget code) =
        accepted client.controller (.setTarget code) := by
      rw [clientAccepted, clientSetTarget, if_neg hreject]
      dsimp only
      rw [if_pos hnew]
      rfl
    rw [clientSetTarget, if_neg hreject]
    dsimp only
    rw [if_pos hnew]
    exact .replaced (.setTarget code) _ _ rfl hedge haccepted
  · have hsame : (setTarget client.controller code).1 = client.controller := by
      simp only [Bool.and_eq_true, Bool.not_eq_true', not_and, Bool.not_eq_false] at hnew
      by_cases haccepted : (setTarget client.controller code).2 = true
      · have hrepeated := hnew haccepted
        rw [decide_eq_true_eq] at hrepeated
        exact setTarget_repeated hrepeated.1 hrepeated.2
      · exact setTarget_rejected (by simpa using haccepted)
    rw [clientSetTarget, if_neg hreject]
    dsimp only
    rw [if_neg hnew, hsame]
    exact clientMove_refl client _

theorem clientMove_clearTarget (client : Client) :
    ClientMove client .clearTarget (clientClearTarget client) none none := by
  unfold clientClearTarget
  by_cases hinitialized : (!client.initialized) = true
  · rw [if_pos hinitialized]
    exact clientMove_refl client _
  rw [if_neg hinitialized]
  dsimp only
  by_cases hedge : client.pendingFaultResetEdge = true
  · rw [if_neg (by simp [commitDeferredFeedbackElapsed, hedge])]
    exact .cleared _ _ rfl hedge
  · rw [if_pos (by simpa [commitDeferredFeedbackElapsed] using hedge)]
    exact .replaced .clearTarget _ _ rfl (by simpa using hedge) rfl

theorem clientMove_requestFaultReset (client : Client) :
    ClientMove client .requestFaultReset (clientRequestFaultReset client).1 none none := by
  by_cases hreject : (!client.initialized || client.pendingFaultResetEdge) = true
  · rw [clientRequestFaultReset, if_pos hreject]
    exact clientMove_refl client _
  by_cases hnew : (requestFaultReset client.controller).2 = true
  · have hedge : client.pendingFaultResetEdge = false := by
      simp only [Bool.or_eq_true, not_or, Bool.not_eq_true] at hreject
      exact hreject.2
    have haccepted : clientAccepted client .requestFaultReset =
        accepted client.controller .requestFaultReset := by
      rw [clientAccepted, clientRequestFaultReset, if_neg hreject]
      dsimp only
      rw [if_pos hnew]
      rfl
    rw [clientRequestFaultReset, if_neg hreject]
    dsimp only
    rw [if_pos hnew]
    exact .replaced .requestFaultReset (requestFaultReset client.controller).1.feedbackElapsed
      client.deferredElapsed rfl hedge haccepted
  · have hsame := requestFaultReset_rejected (Bool.not_eq_true _ ▸ hnew)
    rw [clientRequestFaultReset, if_neg hreject]
    dsimp only
    rw [if_neg hnew, hsame]
    exact clientMove_refl client _

/-- The move of a call which leaves an outcome. -/
def Outcome.Moves (client : Client) (call : ClientCall) (outcome : Outcome) : Prop :=
  ClientMove client call outcome.client
    (if outcome.step.statuswordValid then some outcome.step.statusword else none) outcome.written

theorem Outcome.moves_of_client {client next : Client} {call : ClientCall} {outcome : Outcome}
    (h : ClientMove client call next
      (if outcome.step.statuswordValid then some outcome.step.statusword else none)
      outcome.written) :
    ({ outcome with client := next } : Outcome).Moves client call := h

theorem moves_retryPendingUpdate (client : Client) (call : ClientCall) {step : StepResult}
    (timeDifference : UInt32) (answers : Answers) (hpending : client.pendingUpdateValid = true)
    (haccepted : step.commandAccepted = false) (hvalid : step.statuswordValid = false) :
    (retryPendingUpdate client step timeDifference answers).Moves client call := by
  unfold retryPendingUpdate
  dsimp only
  generalize saturatingAddU32 client.deferredElapsed timeDifference = deferred
  have hflush := flushed_flushPendingUpdate { client with deferredElapsed := deferred }
    answers haccepted
  generalize flushPendingUpdate _ step answers = outcome at hflush ⊢
  cases hflush with
  | kept hclient hwritten hkept hstatus hstatusword =>
      rw [if_neg (by simp [hkept]), Outcome.Moves, hclient, hwritten, hstatus, hvalid]
      exact .idle client.controller.feedbackElapsed deferred
  | accepted read hclient hwritten hnew hstatus hstatusword =>
      rw [if_pos hnew]
      apply Outcome.moves_of_client
      rw [hclient, hwritten, hstatus, hvalid]
      exact .retried read _ 0 hpending

/-- The move of a step of the core whose update is handed to the transport. -/
theorem Flushed.moves {client : Client} {call : ClientCall} {feedback : Feedback}
    {elapsed : UInt32} {step : StepResult} {outcome : Outcome}
    (h : Flushed
      { client with
        deferredElapsed := 0
        controller := (process client.controller feedback elapsed).1
        pendingUpdate := (process client.controller feedback elapsed).2
        pendingUpdateValid := true
        pendingFaultResetEdge :=
          client.controller.faultResetPulseHigh ||
            (process client.controller feedback elapsed).1.faultResetPulseHigh } step outcome)
    (hpending : client.pendingUpdateValid = false) (hintent : call.intent = none)
    (hvalid : (process client.controller feedback elapsed).2.valid = true)
    (hobserved : step.statuswordValid = feedback.statuswordValid)
    (hstatusword : step.statusword = feedback.statusword) :
    outcome.Moves client call := by
  unfold Outcome.Moves
  cases h with
  | kept hclient hwritten hkept hstep hword =>
      rw [hclient, hwritten, hstep, hword, hobserved, hstatusword]
      exact .stored feedback elapsed hpending hintent hvalid
  | accepted read hclient hwritten hnew hstep hword =>
      rw [hclient, hwritten, hstep, hword, hobserved, hstatusword]
      exact .sent feedback elapsed read hpending hintent hvalid

/-- A step of the core with an update hands it to the transport. -/
theorem flushed_processStatusword (client : Client) {step : StepResult}
    (timeDifference : UInt32) (transfer : TransferResult) (answers : Answers)
    {feedback : Feedback} {elapsed : UInt32} (hfeedback : transferFeedback transfer = feedback)
    (helapsed : saturatingAddU32 client.deferredElapsed timeDifference = elapsed)
    (hvalid : (process client.controller feedback elapsed).2.valid = true)
    (haccepted : step.commandAccepted = false) :
    ∃ handed : StepResult, handed.statuswordValid = feedback.statuswordValid ∧
      handed.statusword = feedback.statusword ∧
      Flushed
        { client with
          deferredElapsed := 0
          controller := (process client.controller feedback elapsed).1
          pendingUpdate := (process client.controller feedback elapsed).2
          pendingUpdateValid := true
          pendingFaultResetEdge :=
            client.controller.faultResetPulseHigh ||
              (process client.controller feedback elapsed).1.faultResetPulseHigh } handed
        (processStatusword client step timeDifference transfer answers) := by
  unfold processStatusword
  rw [hfeedback, helapsed]
  dsimp only
  rw [if_neg (by simp [hvalid])]
  refine ⟨_, ?_, ?_, flushed_flushPendingUpdate _ answers ?_⟩
  · rfl
  · rfl
  · exact haccepted

theorem moves_processStatusword (client : Client) (call : ClientCall) {step : StepResult}
    (timeDifference : UInt32) (transfer : TransferResult) (answers : Answers)
    (hpending : client.pendingUpdateValid = false) (hintent : call.intent = none)
    (haccepted : step.commandAccepted = false) :
    (processStatusword client step timeDifference transfer answers).Moves client call := by
  generalize hfeedback : transferFeedback transfer = feedback
  generalize helapsed : saturatingAddU32 client.deferredElapsed timeDifference = elapsed
  by_cases hvalid : (process client.controller feedback elapsed).2.valid = true
  · obtain ⟨handed, hobserved, hstatusword, hflushed⟩ :=
      flushed_processStatusword client timeDifference transfer answers hfeedback helapsed hvalid
        haccepted
    exact hflushed.moves hpending hintent hvalid hobserved hstatusword
  · unfold processStatusword
    rw [hfeedback, helapsed]
    dsimp only
    rw [if_pos (by simpa using hvalid)]
    exact .silent feedback elapsed hpending hintent (by simpa using hvalid)

/-- The Statusword upload of a process call was admitted by the transport. -/
def statuswordAdmitted (client : Client) (answers : Answers) : Prop :=
  (sdoUpload client.transport client.nodeId
    (profileIndex client.logicalDevice indexStatusword) 2
    answers.statuswordUpload).call.status = .ok

/-- With nothing pending, an admitted Statusword upload leads to a step of the core. -/
theorem clientProcessCall_admitted {client : Client} {answers : Answers}
    (hinitialized : client.initialized = true) (hpending : client.pendingUpdateValid = false)
    (hadmitted : statuswordAdmitted client answers) (timeDifference : UInt32) :
    clientProcessCall client timeDifference true answers =
      processStatusword client { controllerResult := getResult client.controller } timeDifference
        (sdoUpload client.transport client.nodeId
          (profileIndex client.logicalDevice indexStatusword) 2
          answers.statuswordUpload).transfer answers := by
  have hindex : profileIndex client.logicalDevice indexStatusword ≠ indexInvalid := by
    intro hindex
    rw [statuswordAdmitted, hindex] at hadmitted
    simp [sdoUpload, sdoArgumentsValid, indexInvalid, invalidArgument] at hadmitted
  unfold clientProcessCall clientProcess
  rw [if_neg (by simp [hinitialized]), if_neg (by simp [hpending])]
  dsimp only
  rw [if_neg hindex, if_neg (by simpa [statuswordAdmitted] using hadmitted)]

theorem moves_clientProcessCall (client : Client) (timeDifference : UInt32) (resultGiven : Bool)
    (answers : Answers) :
    (clientProcessCall client timeDifference resultGiven answers).Moves client
      (.process timeDifference resultGiven answers) := by
  unfold clientProcessCall clientProcess
  dsimp only
  by_cases hinvalid : (!resultGiven || !client.initialized) = true
  · rw [if_pos hinvalid]
    exact clientMove_refl client _
  rw [if_neg hinvalid]
  by_cases hpending : client.pendingUpdateValid = true
  · rw [if_pos hpending]
    exact moves_retryPendingUpdate client _ timeDifference answers hpending rfl rfl
  rw [if_neg hpending]
  rw [Bool.not_eq_true] at hpending
  split_ifs with hindex hcall
  · exact clientMove_refl client _
  · exact .idle client.controller.feedbackElapsed _
  · exact moves_processStatusword client _ timeDifference _ answers hpending rfl rfl

/-- Every client call makes one move. -/
theorem clientMove_clientStep (client : Client) (call : ClientCall) :
    ClientMove client call (clientStep client call) (observed client call)
      (written client call) := by
  cases call with
  | setTarget code => exact clientMove_setTarget client code
  | clearTarget => exact clientMove_clearTarget client
  | requestFaultReset => exact clientMove_requestFaultReset client
  | process timeDifference resultGiven answers =>
      exact moves_clientProcessCall client timeDifference resultGiven answers

end CanopenRtt.Cia402.Controller
