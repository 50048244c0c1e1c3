import CanopenRtt.Support.SerialTime
/-!
# Runtime LSS bitrate activation

`port/rtthread/CO_app_RTT.c`, `CO_driver_rtthread.c`. The activation callback
closes the transmit gate and starts the first delay; the mainline switches the
controller when it is over and opens the gate after the second one.
-/

namespace CanopenRtt.App

open Support

/-- `CO_app_rtt_lss_bitrate_state_t`. -/
inductive LssBitrateState where
  | idle
  | preDelay
  | postDelay
  | failed
  deriving DecidableEq

/-- The fields of `CO_CANmodule_t` that gate the communication. -/
structure CanModule where
  txEnabled : Bool
  canNormal : Bool
  deriving DecidableEq

/-- The fields of `CANopenNodeRTT` that an activation uses. -/
structure LssApp where
  bitrateState : LssBitrateState
  previousBitrate : BitVec 16
  targetBitrate : BitVec 16
  bitrateDelayMs : BitVec 16
  bitrateDeadlineMs : BitVec 32
  baudrate : BitVec 16
  pendingBitrate : BitVec 16
  canModule : Option CanModule
  deriving DecidableEq

/-- A call of `CO_RTT_CANsetBitrate` or `CO_CANinit` and its result. -/
structure Attempt where
  bitrate : BitVec 16
  ok : Bool
  deriving DecidableEq

/-- `co_rtt_bitrate_to_baud`. -/
def bitrateToBaud (bitrate : BitVec 16) : Nat :=
  if bitrate ∈ [10, 20, 50, 125, 250, 500, 800, 1000] then bitrate.toNat * 1000 else 0

/-- `CO_RTT_CANisBitrateSupported`. -/
def canIsBitrateSupported (bitrate : BitVec 16) : Bool := bitrateToBaud bitrate ≠ 0

/-- The answers of the CAN device to one `CO_RTT_CANsetBitrate`. -/
structure SwitchAnswer where
  control : Bool
  normal : Bool
  deriving DecidableEq

/-- `CO_RTT_CANsetBitrate`. -/
def canSetBitrate (canModule : CanModule) (bitrate : BitVec 16) (answer : SwitchAnswer) :
    CanModule × Attempt :=
  if bitrateToBaud bitrate = 0 then (canModule, { bitrate := bitrate, ok := false })
  else if !answer.control then
    ({ canModule with canNormal := false }, { bitrate := bitrate, ok := false })
  else ({ canModule with canNormal := answer.normal }, { bitrate := bitrate, ok := answer.normal })

namespace LssApp

/-- `CO_RTT_CANisTxEnabled`. -/
def txEnabled (app : LssApp) : Bool :=
  match app.canModule with
  | none => false
  | some canModule => canModule.txEnabled

/-- `CO_RTT_CANsetTxEnabled`. -/
def setTxEnabled (app : LssApp) (enabled : Bool) : LssApp :=
  { app with canModule := app.canModule.map fun canModule =>
      { canModule with txEnabled := enabled } }

/-- `co_app_rtt_lss_bitrate_reset_state`. -/
def resetState (app : LssApp) : LssApp :=
  { app with
    bitrateState := .idle
    previousBitrate := 0
    targetBitrate := 0
    bitrateDelayMs := 0
    bitrateDeadlineMs := 0 }

/-- `co_app_rtt_lss_bitrate_finish`. -/
def finish (app : LssApp) : LssApp := (app.setTxEnabled true).resetState

/-- `co_app_rtt_lss_bitrate_fail`. -/
def fail (app : LssApp) : LssApp :=
  { app with
    bitrateState := .failed
    canModule := app.canModule.map fun _ => { txEnabled := false, canNormal := false } }

/-- `co_app_rtt_lss_activate_bitrate`. -/
def activateBitrate (app : LssApp) (nowMs : BitVec 32) (delay : BitVec 16) : LssApp :=
  if app.canModule = none then app
  else if app.bitrateState ≠ .idle then app
  else if !canIsBitrateSupported app.pendingBitrate then app
  else
    { app.setTxEnabled false with
      previousBitrate := app.baudrate
      targetBitrate := app.pendingBitrate
      bitrateDelayMs := delay
      bitrateDeadlineMs := nowMs + delay.setWidth 32
      bitrateState := .preDelay }

/-- The answers of the lifecycle mutex and the CAN device to one process call. -/
structure ProcessAnswers where
  lock : Bool
  switch : SwitchAnswer
  rollback : SwitchAnswer
  deriving DecidableEq

/-- The switch at the end of the first delay, with its rollback. -/
def switchBitrate (app : LssApp) (canModule : CanModule) (nowMs : BitVec 32)
    (answers : ProcessAnswers) : LssApp × List Attempt :=
  if !answers.lock then (app.fail, [])
  else
    let (canModule, switched) := canSetBitrate canModule app.targetBitrate answers.switch
    if switched.ok then
      ({ app with
          canModule := some canModule
          baudrate := app.targetBitrate
          bitrateDeadlineMs := nowMs + app.bitrateDelayMs.setWidth 32
          bitrateState := .postDelay }, [switched])
    else
      let (canModule, rolledBack) := canSetBitrate canModule app.previousBitrate answers.rollback
      if rolledBack.ok then
        (LssApp.finish
          { app with
            canModule := some canModule
            baudrate := app.previousBitrate
            pendingBitrate := app.previousBitrate }, [switched, rolledBack])
      else (LssApp.fail { app with canModule := some canModule }, [switched, rolledBack])

/-- The end of the second delay. -/
def completeActivation (app : LssApp) (nowMs : BitVec 32) : LssApp :=
  if app.bitrateState = .postDelay ∧ reached nowMs app.bitrateDeadlineMs then app.finish else app

/-- `co_app_rtt_lss_bitrate_process`, with the calls of `CO_RTT_CANsetBitrate` that
it makes. -/
def bitrateProcess (app : LssApp) (nowMs : BitVec 32) (answers : ProcessAnswers) :
    LssApp × List Attempt :=
  if app.bitrateState = .idle ∨ app.bitrateState = .failed then (app, [])
  else
    match app.canModule with
    | none => (app.fail, [])
    | some canModule =>
        if app.bitrateState = .preDelay ∧ reached nowMs app.bitrateDeadlineMs then
          -- the early returns leave a state other than POST_DELAY
          let (app, attempts) := app.switchBitrate canModule nowMs answers
          (app.completeActivation nowMs, attempts)
        else (app.completeActivation nowMs, [])

/-- What the parts of a Communication Reset answer. -/
structure ResetAnswers where
  newStack : Bool
  canInit : Bool
  lssInit : Bool
  remaining : Bool
  deriving DecidableEq

/-- `co_app_rtt_recreate_stack` with `co_app_rtt_lss_init`: the stack is deleted,
created and initialized with the pending bitrate. A reset that fails leaves no
stack. -/
def recreateStack (app : LssApp) (answers : ResetAnswers) : LssApp × List Attempt :=
  let deleted := { app with canModule := none }
  if !answers.newStack then (deleted, [])
  else
    let programmed : Attempt :=
      { bitrate := app.pendingBitrate
        ok := canIsBitrateSupported app.pendingBitrate && answers.canInit }
    if !programmed.ok || !answers.lssInit then (deleted, [programmed])
    else
      let bound : LssApp := { deleted.resetState with baudrate := app.pendingBitrate }
      if !answers.remaining then (bound, [programmed])
      else ({ bound with canModule := some { txEnabled := true, canNormal := true } }, [programmed])

/-! ## What each call can do -/

@[simp] theorem txEnabled_finish (app : LssApp) : app.finish.txEnabled = app.canModule.isSome := by
  unfold finish resetState setTxEnabled txEnabled
  cases app.canModule <;> rfl

@[simp] theorem txEnabled_fail (app : LssApp) : app.fail.txEnabled = false := by
  unfold fail txEnabled
  cases app.canModule <;> rfl

@[simp] theorem bitrateState_finish (app : LssApp) : app.finish.bitrateState = .idle := rfl

@[simp] theorem bitrateState_fail (app : LssApp) : app.fail.bitrateState = .failed := rfl

@[simp] theorem baudrate_finish (app : LssApp) : app.finish.baudrate = app.baudrate := rfl

/-- An activation is ignored, or it closes the gate and starts the first delay. -/
theorem activateBitrate_cases (app : LssApp) (nowMs : BitVec 32) (delay : BitVec 16) :
    app.activateBitrate nowMs delay = app ∨
      app.bitrateState = .idle ∧ app.canModule.isSome ∧
        app.activateBitrate nowMs delay =
          { app.setTxEnabled false with
            previousBitrate := app.baudrate
            targetBitrate := app.pendingBitrate
            bitrateDelayMs := delay
            bitrateDeadlineMs := nowMs + delay.setWidth 32
            bitrateState := .preDelay } := by
  unfold activateBitrate
  split
  · exact .inl rfl
  next hmodule =>
  split
  · exact .inl rfl
  next hidle =>
  split
  · exact .inl rfl
  · exact .inr ⟨of_not_not hidle, Option.isSome_iff_ne_none.mpr hmodule, rfl⟩

/-- How the switch ends: without the lock, with the target, with the previous
bitrate or with neither. -/
inductive SwitchEnd (app : LssApp) (canModule : CanModule) (nowMs : BitVec 32) :
    LssApp × List Attempt → Prop where
  | noLock : SwitchEnd app canModule nowMs (app.fail, [])
  | switched (switched : CanModule) (h : switched.txEnabled = canModule.txEnabled) :
      SwitchEnd app canModule nowMs
        ({ app with
            canModule := some switched
            baudrate := app.targetBitrate
            bitrateDeadlineMs := nowMs + app.bitrateDelayMs.setWidth 32
            bitrateState := .postDelay }, [⟨app.targetBitrate, true⟩])
  | rolledBack (restored : CanModule) :
      SwitchEnd app canModule nowMs
        (LssApp.finish
          { app with
            canModule := some restored
            baudrate := app.previousBitrate
            pendingBitrate := app.previousBitrate },
          [⟨app.targetBitrate, false⟩, ⟨app.previousBitrate, true⟩])
  | lost (lost : CanModule) :
      SwitchEnd app canModule nowMs (LssApp.fail { app with canModule := some lost },
        [⟨app.targetBitrate, false⟩, ⟨app.previousBitrate, false⟩])

theorem canSetBitrate_cases (canModule : CanModule) (bitrate : BitVec 16)
    (answer : SwitchAnswer) :
    ∃ after ok, canSetBitrate canModule bitrate answer = (after, ⟨bitrate, ok⟩) ∧
      after.txEnabled = canModule.txEnabled := by
  unfold canSetBitrate
  split
  · exact ⟨_, _, rfl, rfl⟩
  · split
    · exact ⟨_, _, rfl, rfl⟩
    · exact ⟨_, _, rfl, rfl⟩

theorem switchBitrate_cases (app : LssApp) (canModule : CanModule) (nowMs : BitVec 32)
    (answers : ProcessAnswers) :
    SwitchEnd app canModule nowMs (app.switchBitrate canModule nowMs answers) := by
  unfold switchBitrate
  split
  · exact .noLock
  obtain ⟨switched, ok, hswitch, htx⟩ :=
    canSetBitrate_cases canModule app.targetBitrate answers.switch
  rw [hswitch]
  dsimp only
  cases ok with
  | true => exact .switched switched htx
  | false =>
      obtain ⟨restored, ok, hrollback, -⟩ :=
        canSetBitrate_cases switched app.previousBitrate answers.rollback
      rw [hrollback]
      dsimp only
      cases ok with
      | true => exact .rolledBack restored
      | false => exact .lost restored

/-- The application once the switch has succeeded. -/
def switchedTo (app : LssApp) (switched : CanModule) (nowMs : BitVec 32) : LssApp :=
  { app with
    canModule := some switched
    baudrate := app.targetBitrate
    bitrateDeadlineMs := nowMs + app.bitrateDelayMs.setWidth 32
    bitrateState := .postDelay }

/-- How a process call ends. -/
inductive ProcessEnd (app : LssApp) (nowMs : BitVec 32) : LssApp × List Attempt → Prop where
  | unchanged : ProcessEnd app nowMs (app, [])
  | failed (hstate : app.bitrateState ≠ .idle) : ProcessEnd app nowMs (app.fail, [])
  | completed (hstate : app.bitrateState = .postDelay)
      (hreached : reached nowMs app.bitrateDeadlineMs = true) :
      ProcessEnd app nowMs (app.finish, [])
  | switched (hstate : app.bitrateState = .preDelay)
      (hreached : reached nowMs app.bitrateDeadlineMs = true) (switched : CanModule)
      (htx : switched.txEnabled = app.txEnabled) :
      ProcessEnd app nowMs (app.switchedTo switched nowMs, [⟨app.targetBitrate, true⟩])
  | switchedAndCompleted (hstate : app.bitrateState = .preDelay)
      (hreached : reached nowMs app.bitrateDeadlineMs = true) (switched : CanModule)
      (hagain : reached nowMs (nowMs + app.bitrateDelayMs.setWidth 32) = true) :
      ProcessEnd app nowMs ((app.switchedTo switched nowMs).finish, [⟨app.targetBitrate, true⟩])
  | rolledBack (hstate : app.bitrateState = .preDelay)
      (hreached : reached nowMs app.bitrateDeadlineMs = true) (restored : CanModule) :
      ProcessEnd app nowMs
        (LssApp.finish
          { app with
            canModule := some restored
            baudrate := app.previousBitrate
            pendingBitrate := app.previousBitrate },
          [⟨app.targetBitrate, false⟩, ⟨app.previousBitrate, true⟩])
  | lost (hstate : app.bitrateState = .preDelay)
      (hreached : reached nowMs app.bitrateDeadlineMs = true) (left : CanModule) :
      ProcessEnd app nowMs (LssApp.fail { app with canModule := some left },
        [⟨app.targetBitrate, false⟩, ⟨app.previousBitrate, false⟩])

theorem bitrateProcess_cases (app : LssApp) (nowMs : BitVec 32) (answers : ProcessAnswers) :
    ProcessEnd app nowMs (app.bitrateProcess nowMs answers) := by
  unfold bitrateProcess
  split
  · exact .unchanged
  next hbusy =>
  have hidle : app.bitrateState ≠ .idle := fun h => hbusy (.inl h)
  split
  · exact .failed hidle
  next canModule hmodule =>
  split
  · next hdue =>
      have hswitch := switchBitrate_cases app canModule nowMs answers
      generalize app.switchBitrate canModule nowMs answers = ended at hswitch
      cases hswitch with
      | noLock => exact .failed hidle
      | switched switched htx =>
          unfold completeActivation
          dsimp only
          split
          · next hagain =>
              exact .switchedAndCompleted hdue.1 hdue.2 switched hagain.2
          · exact .switched hdue.1 hdue.2 switched (by rw [htx, txEnabled, hmodule])
      | rolledBack restored => exact .rolledBack hdue.1 hdue.2 restored
      | lost left => exact .lost hdue.1 hdue.2 left
  · unfold completeActivation
    split
    · next hdone => exact .completed hdone.1 hdone.2
    · exact .unchanged

/-- A reset leaves no stack, before or after the LSS initialization, or a fresh one
on the pending bitrate. -/
theorem recreateStack_cases (app : LssApp) (answers : ResetAnswers) :
    (app.recreateStack answers).1 = { app with canModule := none } ∨
      (app.recreateStack answers).1 =
        { app.resetState with baudrate := app.pendingBitrate, canModule := none } ∨
      app.recreateStack answers =
        ({ app.resetState with
            baudrate := app.pendingBitrate
            canModule := some { txEnabled := true, canNormal := true } },
          [⟨app.pendingBitrate, true⟩]) := by
  unfold recreateStack
  dsimp only
  split
  · exact .inl rfl
  split
  · exact .inl rfl
  next hinit =>
  split
  · exact .inr (.inl rfl)
  · have hok : (canIsBitrateSupported app.pendingBitrate && answers.canInit) = true := by
      by_contra hfalse
      exact hinit (by simp [hfalse])
    rw [hok]
    exact .inr (.inr rfl)

end LssApp

end CanopenRtt.App
