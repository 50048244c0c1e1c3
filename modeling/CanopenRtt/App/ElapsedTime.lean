import CanopenRtt.Support.Run
import CanopenRtt.Support.WrappingClock
import Mathlib.Data.BitVec
/-!
# Elapsed time of the mainline and of the realtime loop

`port/rtthread/CO_time_RTT.c`, `CO_RTT_mainlineWait`, and the time keeping of the two thread
entries of `port/rtthread/CO_app_RTT.c`.
-/

namespace CanopenRtt.App

open Support

/-- The backends of `CO_time_RTT.c`: the high-resolution counter, which RT-Thread lets wrap
after `UINT32_MAX` counts, and the tick. -/
inductive TimeBackend where
  | highRes
  | tick
  deriving DecidableEq

namespace TimeBackend

/-- The microseconds of a count: the counter counts microseconds, the tick milliseconds. -/
def us : TimeBackend → Nat → Nat
  | .highRes, count => count
  | .tick, count => 1000 * count

/-- The microseconds after which the readings repeat. -/
def period : TimeBackend → Nat
  | .highRes => 2 ^ 32 - 1
  | .tick => 2 ^ 32

def uint32Max : BitVec 32 := 0xFFFFFFFF

/-- `CO_RTT_timeNowUs` -/
def timeNowUs : TimeBackend → Nat → BitVec 32
  | .highRes, count => BitVec.ofNat 32 (count % (2 ^ 32 - 1))
  | .tick, count => BitVec.ofNat 32 count * 1000

/-- `CO_RTT_timeElapsedUs` -/
def timeElapsedUs (backend : TimeBackend) (nowUs previousUs : BitVec 32) : BitVec 32 :=
  if backend = .highRes ∧ nowUs < previousUs then uint32Max - previousUs + nowUs
  else nowUs - previousUs

theorem toNat_timeNowUs (backend : TimeBackend) (count : Nat) :
    (backend.timeNowUs count).toNat = backend.us count % backend.period := by
  cases backend with
  | highRes =>
      have hbelow : count % (2 ^ 32 - 1) < 2 ^ 32 - 1 := Nat.mod_lt _ (by decide)
      exact Nat.mod_eq_of_lt (by omega)
  | tick =>
      show (BitVec.ofNat 32 count * 1000).toNat = 1000 * count % 2 ^ 32
      rw [BitVec.toNat_mul, BitVec.toNat_ofNat, Nat.mod_mul_mod, Nat.mul_comm]
      rfl

theorem toNat_timeElapsedUs (backend : TimeBackend) {nowUs previousUs : BitVec 32}
    (hperiod : previousUs.toNat < backend.period) :
    (backend.timeElapsedUs nowUs previousUs).toNat =
      elapsed backend.period nowUs.toNat previousUs.toNat := by
  have hnow := nowUs.isLt
  have hprevious := previousUs.isLt
  unfold timeElapsedUs elapsed
  cases backend with
  | highRes =>
      by_cases hlt : nowUs.toNat < previousUs.toNat
      · rw [if_pos ⟨rfl, hlt⟩, if_pos hlt]
        change previousUs.toNat < 2 ^ 32 - 1 at hperiod
        show (uint32Max - previousUs + nowUs).toNat = 2 ^ 32 - 1 - previousUs.toNat + nowUs.toNat
        unfold uint32Max
        bv_omega
      · rw [if_neg fun h => hlt h.2, if_neg hlt]
        exact BitVec.toNat_sub_of_le (Nat.not_lt.mp hlt)
  | tick =>
      rw [if_neg fun h => nomatch h.1]
      by_cases hlt : nowUs.toNat < previousUs.toNat
      · rw [if_pos hlt]
        show (nowUs - previousUs).toNat = 2 ^ 32 - previousUs.toNat + nowUs.toNat
        bv_omega
      · rw [if_neg hlt]
        exact BitVec.toNat_sub_of_le (Nat.not_lt.mp hlt)

theorem timeElapsedUs_timeNowUs (backend : TimeBackend) {count count' : Nat}
    (hle : backend.us count ≤ backend.us count')
    (hclose : backend.us count' < backend.us count + backend.period) :
    (backend.timeElapsedUs (backend.timeNowUs count') (backend.timeNowUs count)).toNat =
      backend.us count' - backend.us count := by
  have hperiod : (backend.timeNowUs count).toNat < backend.period := by
    rw [toNat_timeNowUs]
    apply Nat.mod_lt
    cases backend <;> decide
  rw [toNat_timeElapsedUs backend hperiod, toNat_timeNowUs, toNat_timeNowUs,
    elapsed_mod hle hclose]

end TimeBackend

/-! ## The wait of the mainline -/

/-- `CO_RTT_MAINLINE_MAX_WAIT_US` -/
def mainlineMaxWaitUs : BitVec 32 := TimeBackend.uint32Max / 2

def int32Max : Nat := 2 ^ 31 - 1

/-- `co_rtt_mainline_us_to_ticks` -/
def mainlineUsToTicks (tickPerSecond delayUs : BitVec 32) : BitVec 32 :=
  let ticks : BitVec 64 := delayUs.setWidth 64 * tickPerSecond.setWidth 64 / 1000000
  let ticks := if BitVec.ofNat 64 int32Max < ticks then BitVec.ofNat 64 int32Max else ticks
  ticks.setWidth 32

/-- `CO_RTT_mainlineWait`: the timeout given to `rt_event_recv`, if it is called. -/
def mainlineWait (backend : TimeBackend) (tickPerSecond : BitVec 32) (initialized : Bool)
    (count : Nat) (deadlineBaseUs timerNextUs : BitVec 32) : Option (BitVec 32) :=
  if !initialized then none
  else if timerNextUs = 0 then none
  else
    let waitUs := if mainlineMaxWaitUs < timerNextUs then mainlineMaxWaitUs else timerNextUs
    let elapsedUs := backend.timeElapsedUs (backend.timeNowUs count) deadlineBaseUs
    if waitUs ≤ elapsedUs then none
    else
      let timeoutTicks := mainlineUsToTicks tickPerSecond (waitUs - elapsedUs)
      if timeoutTicks.sle 0 then none else some timeoutTicks

theorem toNat_mainlineUsToTicks (tickPerSecond delayUs : BitVec 32) :
    (mainlineUsToTicks tickPerSecond delayUs).toNat =
      min (delayUs.toNat * tickPerSecond.toNat / 1000000) int32Max := by
  have hproduct : delayUs.toNat * tickPerSecond.toNat < 2 ^ 64 := by
    have hlt : delayUs.toNat * tickPerSecond.toNat < 2 ^ 32 * 2 ^ 32 :=
      Nat.mul_lt_mul_of_lt_of_lt delayUs.isLt tickPerSecond.isLt
    exact hlt
  have hticks : (delayUs.setWidth 64 * tickPerSecond.setWidth 64 / 1000000).toNat =
      delayUs.toNat * tickPerSecond.toNat / 1000000 := by
    rw [BitVec.toNat_udiv, BitVec.toNat_mul, BitVec.toNat_setWidth_of_le (by decide),
      BitVec.toNat_setWidth_of_le (by decide), Nat.mod_eq_of_lt hproduct]
    rfl
  unfold mainlineUsToTicks
  dsimp only
  rw [BitVec.toNat_setWidth]
  by_cases hlarge : BitVec.ofNat 64 int32Max <
      delayUs.setWidth 64 * tickPerSecond.setWidth 64 / 1000000
  · rw [if_pos hlarge]
    rw [BitVec.lt_def, hticks] at hlarge
    change int32Max < _ at hlarge
    rw [Nat.min_eq_right (Nat.le_of_lt hlarge)]
    rfl
  · rw [if_neg hlarge]
    rw [BitVec.lt_def, hticks] at hlarge
    have hsmall := Nat.not_lt.mp hlarge
    change _ ≤ int32Max at hsmall
    rw [hticks, Nat.min_eq_left hsmall]
    exact Nat.mod_eq_of_lt (Nat.lt_of_le_of_lt hsmall (by decide))

theorem mainlineUsToTicks_le (tickPerSecond delayUs : BitVec 32) :
    (mainlineUsToTicks tickPerSecond delayUs).toNat * 1000000 ≤
      delayUs.toNat * tickPerSecond.toNat := by
  rw [toNat_mainlineUsToTicks]
  calc min (delayUs.toNat * tickPerSecond.toNat / 1000000) int32Max * 1000000
      ≤ delayUs.toNat * tickPerSecond.toNat / 1000000 * 1000000 :=
        Nat.mul_le_mul_right _ (Nat.min_le_left _ _)
    _ ≤ delayUs.toNat * tickPerSecond.toNat := Nat.div_mul_le_self _ _

/-- The timeout is a positive number of ticks that fits before the deadline. -/
theorem mainlineWait_spec {backend : TimeBackend} {tickPerSecond : BitVec 32} {initialized : Bool}
    {count : Nat} {deadlineBaseUs timerNextUs timeout : BitVec 32}
    (h : mainlineWait backend tickPerSecond initialized count deadlineBaseUs timerNextUs =
      some timeout) :
    0 < timeout.toInt ∧ timeout.toNat * 1000000 ≤
      (min timerNextUs.toNat mainlineMaxWaitUs.toNat -
        (backend.timeElapsedUs (backend.timeNowUs count) deadlineBaseUs).toNat) *
          tickPerSecond.toNat := by
  unfold mainlineWait at h
  cases initialized with
  | false => exact absurd h (by simp)
  | true =>
      have hwait : (if mainlineMaxWaitUs < timerNextUs then mainlineMaxWaitUs else
          timerNextUs).toNat = min timerNextUs.toNat mainlineMaxWaitUs.toNat := by
        by_cases hlarge : mainlineMaxWaitUs < timerNextUs
        · rw [if_pos hlarge, Nat.min_eq_right (Nat.le_of_lt hlarge)]
        · rw [if_neg hlarge, Nat.min_eq_left (Nat.not_lt.mp hlarge)]
      rw [← hwait]
      generalize (if mainlineMaxWaitUs < timerNextUs then mainlineMaxWaitUs else timerNextUs) =
        waitUs at h ⊢
      generalize backend.timeElapsedUs (backend.timeNowUs count) deadlineBaseUs = elapsedUs at h ⊢
      rw [if_neg (by decide)] at h
      by_cases hzero : timerNextUs = 0
      · rw [if_pos hzero] at h
        cases h
      · rw [if_neg hzero] at h
        by_cases hover : waitUs ≤ elapsedUs
        · rw [if_pos hover] at h
          cases h
        · rw [if_neg hover] at h
          by_cases hnone : (mainlineUsToTicks tickPerSecond (waitUs - elapsedUs)).sle 0 = true
          · rw [if_pos hnone] at h
            cases h
          · rw [if_neg hnone] at h
            cases h
            constructor
            · rw [BitVec.sle_iff_toInt_le, not_le] at hnone
              exact hnone
            · have hle : elapsedUs ≤ waitUs := Nat.le_of_lt (Nat.not_le.mp hover)
              rw [← BitVec.toNat_sub_of_le hle]
              exact mainlineUsToTicks_le _ _

/-! ## The loops -/

/-- The microseconds of a list of differences. -/
def totalUs (differences : List (BitVec 32)) : Nat := (differences.map BitVec.toNat).sum

theorem totalUs_concat (differences : List (BitVec 32)) (difference : BitVec 32) :
    totalUs (differences ++ [difference]) = totalUs differences + difference.toNat := by
  simp [totalUs]

/-- The time keeping of `co_app_rtt_main_thread_entry`, with the differences that were given
to `CO_process`. -/
structure Mainline where
  timeOldUs : BitVec 32
  deadlineBaseUs : BitVec 32
  timerNextUs : BitVec 32
  handed : List (BitVec 32)
  deriving DecidableEq

/-- A pass reads the clock and leaves the time until the next one. -/
structure Pass where
  count : Nat
  timerNextUs : BitVec 32

namespace Mainline

/-- The loop starts, also again after a Communication Reset. -/
def start (backend : TimeBackend) (count : Nat) : Mainline where
  timeOldUs := backend.timeNowUs count
  deadlineBaseUs := backend.timeNowUs count
  timerNextUs := 0
  handed := []

/-- One pass, in the build with the global timer or without it. -/
def pass (backend : TimeBackend) (globalTimerNext : Bool) (s : Mainline) (p : Pass) : Mainline :=
  let timeCurrentUs := backend.timeNowUs p.count
  let timeDifferenceUs := backend.timeElapsedUs timeCurrentUs s.timeOldUs
  if globalTimerNext then
    { timeOldUs := timeCurrentUs
      deadlineBaseUs := timeCurrentUs
      timerNextUs := p.timerNextUs
      handed := s.handed ++ [timeDifferenceUs] }
  else if timeDifferenceUs = 0 then { s with timeOldUs := timeCurrentUs }
  else { s with timeOldUs := timeCurrentUs, handed := s.handed ++ [timeDifferenceUs] }

theorem pass_spec (backend : TimeBackend) (globalTimerNext : Bool) (s : Mainline) (p : Pass) :
    (s.pass backend globalTimerNext p).timeOldUs = backend.timeNowUs p.count ∧
      (globalTimerNext = true →
        (s.pass backend globalTimerNext p).deadlineBaseUs = backend.timeNowUs p.count) ∧
      totalUs (s.pass backend globalTimerNext p).handed = totalUs s.handed +
        (backend.timeElapsedUs (backend.timeNowUs p.count) s.timeOldUs).toNat := by
  unfold pass
  cases globalTimerNext with
  | true => exact ⟨rfl, fun _ => rfl, totalUs_concat _ _⟩
  | false =>
      by_cases hzero : backend.timeElapsedUs (backend.timeNowUs p.count) s.timeOldUs = 0
      · rw [if_neg Bool.false_ne_true, if_pos hzero, hzero]
        exact ⟨rfl, nofun, rfl⟩
      · rw [if_neg Bool.false_ne_true, if_neg hzero]
        exact ⟨rfl, nofun, totalUs_concat _ _⟩

end Mainline

/-- The time keeping of `co_app_rtt_realtime_thread_entry`, with the differences that were
given to the SYNC, PDO and SRDO processing. -/
structure Realtime where
  lastRtUs : BitVec 32
  handed : List (BitVec 32)
  deriving DecidableEq

/-- A wake-up with a semaphore token: whether the lifecycle mutex is taken and there is a stack
with a CAN module, whether that has a node-ID and is in normal mode, and the clock. -/
structure Wake where
  stack : Bool
  normal : Bool
  count : Nat

namespace Realtime

def start (backend : TimeBackend) (count : Nat) : Realtime where
  lastRtUs := backend.timeNowUs count
  handed := []

def wake (backend : TimeBackend) (s : Realtime) (w : Wake) : Realtime :=
  if !w.stack then s
  else
    let nowUs := backend.timeNowUs w.count
    let timeDifferenceUs := backend.timeElapsedUs nowUs s.lastRtUs
    { lastRtUs := nowUs
      handed := if w.normal then s.handed ++ [timeDifferenceUs] else s.handed }

/-- The counts of the wake-ups that hand their difference over. -/
def processed (wakes : List Wake) : List Nat :=
  (wakes.filter fun w => w.stack && w.normal).map Wake.count

end Realtime

/-! ## The law -/

example :
    totalUs (run (Realtime.wake .highRes) (.start .highRes 4294967000)
      [⟨true, true, 4294967500⟩, ⟨false, false, 4294967500⟩, ⟨true, true, 4294967500⟩,
        ⟨true, true, 4294968000⟩, ⟨true, false, 4294969000⟩]).handed = 1000 := by decide

end CanopenRtt.App
