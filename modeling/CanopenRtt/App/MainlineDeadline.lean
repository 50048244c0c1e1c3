import CanopenRtt.App.ElapsedTime
import CanopenRtt.App.LssBitrate
import CanopenRtt.Cia401.DeviceRtt
import CanopenRtt.Lifecycle.Generations
/-!
# Deadlines of the event-driven mainline

`CO_RTT_mainlineUpdateDeadline` of `port/rtthread/CO_mainline_RTT.c` and the candidates that it
merges into `timerNext`, against the times at which a pass is due.
-/

namespace CanopenRtt.App

open Support
open Cia401 (NmtState)
open Lifecycle (ResetCommand)

/-- The deadlines of the build: `CO_CONFIG_GTW` with `CO_CONFIG_LSS`, `PKG_CANOPENNODE_LSS_PERSIST`,
`CO_CONFIG_TIME`, `CO_CONFIG_STORAGE`, and the features that need the compatibility poll. The two
bounds are `CO_GTWA_ST_LSS_SWITCH_GLOB` and `CO_GTWA_ST_LSS_ALLNODES`. -/
structure MainlineBuild where
  gatewayLss : Bool
  lssPersist : Bool
  timeProducer : Bool
  storage : Bool
  compatPoll : Bool
  firstLssState : Nat
  lastLssState : Nat

/-- The fields of `CO_TIME_t` that the deadline uses. -/
structure TimeObject where
  isProducer : Bool
  producerIntervalMs : BitVec 32
  producerTimerMs : BitVec 32
  residualUs : BitVec 16

/-- What the deadlines use of `CO_t` and of `app->storage`; the gateway is the state of `co->gtwa`,
if there is an LSS master. -/
structure MainlineObjects where
  gateway : Option Nat
  nodeIdUnconfigured : Bool
  nmt : Option NmtState
  time : Option TimeObject
  storageEnabled : Bool
  storageAuto : List Bool

/-- `CO_RTT_MAINLINE_COMPAT_POLL_US` -/
def mainlineCompatPollUs : BitVec 32 := 1000

/-- `co_rtt_mainline_deadline_min` -/
def mainlineDeadlineMin (timerNextUs candidateUs : BitVec 32) : BitVec 32 :=
  if candidateUs < timerNextUs then candidateUs else timerNextUs

/-- A remaining time that may exceed the accumulator. -/
def saturateUs (remainingUs : BitVec 64) : BitVec 32 :=
  if TimeBackend.uint32Max.setWidth 64 < remainingUs then TimeBackend.uint32Max
  else remainingUs.setWidth 32

/-- `co_rtt_mainline_update_gateway_lss_deadline` -/
def updateGatewayLssDeadline (build : MainlineBuild) (co : MainlineObjects)
    (timerNextUs : BitVec 32) : BitVec 32 :=
  match co.gateway with
  | none => timerNextUs
  | some state =>
      if build.firstLssState ≤ state ∧ state ≤ build.lastLssState then
        mainlineDeadlineMin timerNextUs mainlineCompatPollUs
      else timerNextUs

/-- `co_rtt_mainline_update_lss_deadline` -/
def updateLssDeadline (app : LssApp) (nowMs timerNextUs : BitVec 32) : BitVec 32 :=
  if app.bitrateState ≠ .preDelay ∧ app.bitrateState ≠ .postDelay then timerNextUs
  else
    let remainingMs := app.bitrateDeadlineMs - nowMs
    if remainingMs.sle 0 then mainlineDeadlineMin timerNextUs 0
    else mainlineDeadlineMin timerNextUs (saturateUs (remainingMs.setWidth 64 * 1000))

/-- The part of `co_rtt_mainline_update_time_producer_deadline` behind its checks of the object. -/
def TimeObject.updateDeadline (time : TimeObject) (timerNextUs : BitVec 32) : BitVec 32 :=
  if time.producerIntervalMs ≤ time.producerTimerMs then mainlineDeadlineMin timerNextUs 0
  else
    let remainingUs : BitVec 64 :=
      (time.producerIntervalMs - time.producerTimerMs).setWidth 64 * 1000
    if remainingUs ≤ time.residualUs.setWidth 64 then mainlineDeadlineMin timerNextUs 0
    else mainlineDeadlineMin timerNextUs (saturateUs (remainingUs - time.residualUs.setWidth 64))

/-- The TIME object that produces in this state, if there is one. -/
def MainlineObjects.producer (co : MainlineObjects) : Option TimeObject :=
  if co.nodeIdUnconfigured then none
  else if co.nmt ≠ some .preOperational ∧ co.nmt ≠ some .operational then none
  else co.time.filter fun time => time.isProducer && time.producerIntervalMs ≠ 0

/-- `co_rtt_mainline_update_time_producer_deadline` -/
def updateTimeProducerDeadline (co : MainlineObjects) (timerNextUs : BitVec 32) : BitVec 32 :=
  match co.producer with
  | none => timerNextUs
  | some time => time.updateDeadline timerNextUs

/-- `co_rtt_mainline_update_storage_deadline` -/
def updateStorageDeadline (co : MainlineObjects) (timerNextUs : BitVec 32) : BitVec 32 :=
  if co.storageEnabled ∧ true ∈ co.storageAuto then
    mainlineDeadlineMin timerNextUs mainlineCompatPollUs
  else timerNextUs

/-- `CO_RTT_mainlineUpdateDeadline` -/
def updateDeadline (build : MainlineBuild) (app : LssApp) (co : MainlineObjects)
    (nowMs : BitVec 32) (resetStatus : ResetCommand) (timerNextUs : BitVec 32) : BitVec 32 :=
  if resetStatus ≠ .not then timerNextUs
  else
    let timerNextUs :=
      if build.gatewayLss then updateGatewayLssDeadline build co timerNextUs else timerNextUs
    let timerNextUs :=
      if build.lssPersist then updateLssDeadline app nowMs timerNextUs else timerNextUs
    let timerNextUs :=
      if build.timeProducer then updateTimeProducerDeadline co timerNextUs else timerNextUs
    let timerNextUs := if build.storage then updateStorageDeadline co timerNextUs else timerNextUs
    if build.compatPoll then mainlineDeadlineMin timerNextUs mainlineCompatPollUs else timerNextUs

/-! ## When a pass is due -/

/-- An LSS command of the gateway is polled. -/
def gatewayDue (build : MainlineBuild) (co : MainlineObjects) : List Nat :=
  co.gateway.toList.filterMap fun state =>
    if build.firstLssState ≤ state ∧ state ≤ build.lastLssState then some 1000 else none

/-- The end of an LSS delay. -/
def lssDue (app : LssApp) (nowMs : BitVec 32) : List Nat :=
  if app.bitrateState = .preDelay ∨ app.bitrateState = .postDelay then
    [(app.bitrateDeadlineMs - nowMs).toInt.toNat * 1000]
  else []

/-- The next TIME message. -/
def timeDue (co : MainlineObjects) : List Nat :=
  co.producer.toList.map fun time =>
    (time.producerIntervalMs.toNat - time.producerTimerMs.toNat) * 1000 - time.residualUs.toNat

/-- Entries that are stored automatically are polled. -/
def storageDue (co : MainlineObjects) : List Nat :=
  if co.storageEnabled ∧ true ∈ co.storageAuto then [1000] else []

/-- The microseconds after which a pass is due, beside those that CANopenNode asks for. -/
def dueUs (build : MainlineBuild) (app : LssApp) (co : MainlineObjects) (nowMs : BitVec 32) :
    List Nat :=
  (if build.gatewayLss then gatewayDue build co else []) ++
    (if build.lssPersist then lssDue app nowMs else []) ++
    (if build.timeProducer then timeDue co else []) ++
    (if build.storage then storageDue co else []) ++
    (if build.compatPoll then [1000] else [])

/-- The earliest of some times and a bound. -/
def earliest (bound : Nat) (times : List Nat) : Nat := times.foldl min bound

@[simp] theorem earliest_nil (bound : Nat) : earliest bound [] = bound := rfl

@[simp] theorem earliest_singleton (bound time : Nat) :
    earliest bound [time] = min bound time := rfl

theorem earliest_append (bound : Nat) (times others : List Nat) :
    earliest bound (times ++ others) = earliest (earliest bound times) others :=
  List.foldl_append

theorem earliest_le_bound (bound : Nat) (times : List Nat) : earliest bound times ≤ bound := by
  induction times generalizing bound with
  | nil => exact Nat.le_refl bound
  | cons time times ih => exact Nat.le_trans (ih (min bound time)) (Nat.min_le_left bound time)

theorem earliest_le_of_mem {bound : Nat} {times : List Nat} {time : Nat} (h : time ∈ times) :
    earliest bound times ≤ time := by
  induction times generalizing bound with
  | nil => simp at h
  | cons first times ih =>
      rcases List.mem_cons.mp h with rfl | hrest
      · exact Nat.le_trans (earliest_le_bound (min bound time) times) (Nat.min_le_right bound time)
      · exact ih hrest

/-! ## The accumulator holds the earliest one -/

theorem toNat_mainlineDeadlineMin (timerNextUs candidateUs : BitVec 32) :
    (mainlineDeadlineMin timerNextUs candidateUs).toNat =
      min timerNextUs.toNat candidateUs.toNat := by
  unfold mainlineDeadlineMin
  by_cases hlt : candidateUs < timerNextUs
  · rw [if_pos hlt, Nat.min_eq_right (Nat.le_of_lt hlt)]
  · rw [if_neg hlt, Nat.min_eq_left (Nat.not_lt.mp hlt)]

/-- Saturation does not show in the minimum. -/
theorem toNat_mainlineDeadlineMin_saturateUs (timerNextUs : BitVec 32) (remainingUs : BitVec 64) :
    (mainlineDeadlineMin timerNextUs (saturateUs remainingUs)).toNat =
      min timerNextUs.toNat remainingUs.toNat := by
  have htimer := timerNextUs.isLt
  have hmax : (TimeBackend.uint32Max.setWidth 64).toNat = 2 ^ 32 - 1 := rfl
  rw [toNat_mainlineDeadlineMin]
  unfold saturateUs
  by_cases hlarge : TimeBackend.uint32Max.setWidth 64 < remainingUs
  · rw [if_pos hlarge]
    rw [BitVec.lt_def, hmax] at hlarge
    show min timerNextUs.toNat (2 ^ 32 - 1) = _
    omega
  · rw [if_neg hlarge]
    rw [BitVec.lt_def, hmax] at hlarge
    rw [BitVec.toNat_setWidth, Nat.mod_eq_of_lt (by omega)]

theorem toNat_thousandfold (remainingMs : BitVec 32) :
    (remainingMs.setWidth 64 * 1000 : BitVec 64).toNat = remainingMs.toNat * 1000 := by
  have hlt := remainingMs.isLt
  rw [BitVec.toNat_mul, BitVec.toNat_setWidth_of_le (by decide)]
  show remainingMs.toNat * 1000 % 2 ^ 64 = _
  exact Nat.mod_eq_of_lt (by omega)

theorem updateGatewayLssDeadline_spec (build : MainlineBuild) (co : MainlineObjects)
    (timerNextUs : BitVec 32) :
    (updateGatewayLssDeadline build co timerNextUs).toNat =
      earliest timerNextUs.toNat (gatewayDue build co) := by
  unfold updateGatewayLssDeadline gatewayDue
  cases co.gateway with
  | none => rfl
  | some state =>
      by_cases hactive : build.firstLssState ≤ state ∧ state ≤ build.lastLssState
      · simp [hactive, toNat_mainlineDeadlineMin, mainlineCompatPollUs]
      · simp [hactive]

theorem updateLssDeadline_spec (app : LssApp) (nowMs timerNextUs : BitVec 32) :
    (updateLssDeadline app nowMs timerNextUs).toNat =
      earliest timerNextUs.toNat (lssDue app nowMs) := by
  unfold updateLssDeadline lssDue
  by_cases hactive : app.bitrateState = .preDelay ∨ app.bitrateState = .postDelay
  · rw [if_neg (by tauto), if_pos hactive, earliest_singleton]
    generalize app.bitrateDeadlineMs - nowMs = remainingMs
    dsimp only
    by_cases hover : remainingMs.sle 0 = true
    · rw [if_pos hover, toNat_mainlineDeadlineMin]
      rw [BitVec.sle_iff_toInt_le] at hover
      rw [Int.toNat_of_nonpos hover]
      rfl
    · rw [if_neg hover, toNat_mainlineDeadlineMin_saturateUs, toNat_thousandfold]
      rw [BitVec.sle_iff_toInt_le, not_le] at hover
      have hsigned := BitVec.toInt_eq_toNat_cond remainingMs
      have hpositive : 0 < remainingMs.toInt := hover
      have hlt := remainingMs.isLt
      have hsame : remainingMs.toInt.toNat = remainingMs.toNat := by
        split at hsigned <;> omega
      rw [hsame]
  · rw [if_pos (by tauto), if_neg hactive, earliest_nil]

theorem TimeObject.updateDeadline_spec (time : TimeObject) (timerNextUs : BitVec 32) :
    (time.updateDeadline timerNextUs).toNat = min timerNextUs.toNat
      ((time.producerIntervalMs.toNat - time.producerTimerMs.toNat) * 1000 -
        time.residualUs.toNat) := by
  unfold updateDeadline
  by_cases hpassed : time.producerIntervalMs ≤ time.producerTimerMs
  · rw [if_pos hpassed, toNat_mainlineDeadlineMin, Nat.sub_eq_zero_of_le hpassed, Nat.zero_mul,
      Nat.zero_sub]
    rfl
  · rw [if_neg hpassed]
    have hremaining : ((time.producerIntervalMs - time.producerTimerMs).setWidth 64 * 1000 :
        BitVec 64).toNat = (time.producerIntervalMs.toNat - time.producerTimerMs.toNat) * 1000 := by
      rw [toNat_thousandfold, BitVec.toNat_sub_of_le (Nat.le_of_lt (Nat.not_le.mp hpassed))]
    have hresidual : (time.residualUs.setWidth 64).toNat = time.residualUs.toNat :=
      BitVec.toNat_setWidth_of_le (by decide)
    rw [← hremaining, ← hresidual]
    generalize ((time.producerIntervalMs - time.producerTimerMs).setWidth 64 * 1000 : BitVec 64) =
      remainingUs
    dsimp only
    by_cases hspent : remainingUs ≤ time.residualUs.setWidth 64
    · rw [if_pos hspent, toNat_mainlineDeadlineMin, Nat.sub_eq_zero_of_le hspent]
      rfl
    · rw [if_neg hspent, toNat_mainlineDeadlineMin_saturateUs,
        BitVec.toNat_sub_of_le (Nat.le_of_lt (Nat.not_le.mp hspent))]

theorem updateTimeProducerDeadline_spec (co : MainlineObjects) (timerNextUs : BitVec 32) :
    (updateTimeProducerDeadline co timerNextUs).toNat =
      earliest timerNextUs.toNat (timeDue co) := by
  unfold updateTimeProducerDeadline timeDue
  cases co.producer with
  | none => rfl
  | some time => exact time.updateDeadline_spec timerNextUs

theorem updateStorageDeadline_spec (co : MainlineObjects) (timerNextUs : BitVec 32) :
    (updateStorageDeadline co timerNextUs).toNat =
      earliest timerNextUs.toNat (storageDue co) := by
  unfold updateStorageDeadline storageDue
  by_cases hauto : co.storageEnabled ∧ true ∈ co.storageAuto
  · rw [if_pos hauto, if_pos hauto]
    exact toNat_mainlineDeadlineMin timerNextUs mainlineCompatPollUs
  · rw [if_neg hauto, if_neg hauto]
    rfl

/-- A deadline of a feature that the build may leave out. -/
theorem toNat_ite_earliest {feature : Bool} {timerNextUs updated : BitVec 32} {due : List Nat}
    (h : updated.toNat = earliest timerNextUs.toNat due) :
    (if feature then updated else timerNextUs).toNat =
      earliest timerNextUs.toNat (if feature then due else []) := by
  cases feature with
  | false => rfl
  | true => exact h

theorem updateDeadline_of_not (build : MainlineBuild) (app : LssApp) (co : MainlineObjects)
    (nowMs timerNextUs : BitVec 32) :
    (updateDeadline build app co nowMs .not timerNextUs).toNat =
      earliest timerNextUs.toNat (dueUs build app co nowMs) := by
  have hcompat (timerNextUs : BitVec 32) :
      (mainlineDeadlineMin timerNextUs mainlineCompatPollUs).toNat =
        earliest timerNextUs.toNat [1000] := toNat_mainlineDeadlineMin timerNextUs _
  unfold updateDeadline dueUs
  rw [if_neg (by decide)]
  simp only [earliest_append]
  rw [toNat_ite_earliest (hcompat _),
    toNat_ite_earliest (updateStorageDeadline_spec co _),
    toNat_ite_earliest (updateTimeProducerDeadline_spec co _),
    toNat_ite_earliest (updateLssDeadline_spec app nowMs _),
    toNat_ite_earliest (updateGatewayLssDeadline_spec build co timerNextUs)]

theorem updateDeadline_of_reset (build : MainlineBuild) (app : LssApp) (co : MainlineObjects)
    (nowMs timerNextUs : BitVec 32) {resetStatus : ResetCommand} (h : resetStatus ≠ .not) :
    updateDeadline build app co nowMs resetStatus timerNextUs = timerNextUs := if_pos h

end CanopenRtt.App
