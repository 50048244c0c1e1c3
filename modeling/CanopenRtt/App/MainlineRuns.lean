import CanopenRtt.App.MainlineDeadline
import CanopenRtt.Support.Threads
/-!
# The event-driven mainline in any interleaving

The loop of `co_app_rtt_main_thread_entry` with `CO_RTT_mainlineWait`, `CO_RTT_mainlineWakeup` and
`CO_RTT_mainlineResetWakeups`, while time passes and other threads post work and wake the loop up.
Time passes in each place only as long as the place allows: `budgetUs` for the code between two
readings of the clock, the timeout for a wait.
-/

namespace CanopenRtt.App

open Support
open Lifecycle (ResetCommand)

/-- Where the mainline thread is: before `CO_RTT_mainlineWait`, in `rt_event_recv` with the count
at which it was called, behind the wait, between the sample of the clock and the end of the pass,
or in a Communication Reset. -/
inductive MainlineAt where
  | loop
  | blocked (since : Nat) (timeout : BitVec 32)
  | ready (since : Nat)
  | pass
  | reset
  | halted
  deriving DecidableEq

/-- The loop and its wake-ups. `works` counts the pieces of work that were posted, `seen` those of
them that were there when the last pass began; a piece in `unsent` is posted, but its
`CO_RTT_mainlineWakeup` is still to come. `wakeups` holds the counts of the wake-ups since that pass
began. `origin` and `base` are the counts at which the loop (re)started and the last pass began,
`due` holds the deadlines of that pass, `processed` what `co_app_rtt_lss_bitrate_process` left in
it. -/
structure MainlineSystem where
  count : Nat
  loop : Mainline
  main : MainlineAt := .loop
  wakeEvent : Bool := false
  works : Nat := 0
  seen : Nat := 0
  unsent : List Nat := []
  wakeups : List Nat := []
  origin : Nat
  base : Nat
  nowMs : BitVec 32 := 0
  due : List Nat := []
  processed : Option LssApp := none
  deriving DecidableEq

/-- The end of a pass: what CANopenNode and the extensions leave. -/
structure PassEnd where
  timerNextUs : BitVec 32
  resetStatus : ResetCommand
  app : LssApp
  objects : MainlineObjects
  answers : LssApp.ProcessAnswers

/-- What `co_app_rtt_lss_bitrate_process` leaves, if the pass calls it. -/
def PassEnd.processed (build : MainlineBuild) (nowMs : BitVec 32) (p : PassEnd) : Option LssApp :=
  if build.lssPersist ∧ p.resetStatus = .not then some (p.app.bitrateProcess nowMs p.answers).1
  else none

/-- `timer_next_us` at the end of the pass. -/
def PassEnd.deadline (build : MainlineBuild) (nowMs : BitVec 32) (p : PassEnd) : BitVec 32 :=
  updateDeadline build ((p.processed build nowMs).getD p.app) p.objects nowMs p.resetStatus
    p.timerNextUs

/-- The deadlines of the pass; one that ends in a reset command only has CANopenNode's. -/
def PassEnd.due (build : MainlineBuild) (nowMs : BitVec 32) (p : PassEnd) : List Nat :=
  p.timerNextUs.toNat ::
    if p.resetStatus = .not then
      dueUs build ((p.processed build nowMs).getD p.app) p.objects nowMs
    else []

namespace MainlineSystem

/-- The thread starts. -/
def start (backend : TimeBackend) (count : Nat) : MainlineSystem where
  count := count
  loop := .start backend count
  origin := count
  base := count

/-- `CO_RTT_mainlineWait` up to `rt_event_recv`. -/
def wait (backend : TimeBackend) (tickPerSecond : BitVec 32) (s : MainlineSystem) :
    MainlineSystem :=
  match mainlineWait backend tickPerSecond true s.count s.loop.deadlineBaseUs
    s.loop.timerNextUs with
  | none => { s with main := .ready s.count }
  | some timeout => { s with main := .blocked s.count timeout }

/-- The loop reads the clocks and begins a pass. -/
def sample (backend : TimeBackend) (nowMs : BitVec 32) (s : MainlineSystem) : MainlineSystem :=
  { s with
    loop := s.loop.pass backend true ⟨s.count, TimeBackend.uint32Max⟩
    main := .pass
    seen := s.works
    wakeups := []
    base := s.count
    nowMs := nowMs
    due := []
    processed := none }

/-- The pass ends. -/
def finish (build : MainlineBuild) (p : PassEnd) (s : MainlineSystem) : MainlineSystem :=
  { s with
    loop := { s.loop with timerNextUs := p.deadline build s.nowMs }
    main :=
      match p.resetStatus with
      | .not | .quit => .loop
      | .comm => .reset
      | .app => .halted
    due := p.due build s.nowMs
    processed := p.processed build s.nowMs }

/-- The loop goes on with the new stack. -/
def restart (backend : TimeBackend) (s : MainlineSystem) : MainlineSystem :=
  { s with
    loop := .start backend s.count
    main := .loop
    origin := s.count
    base := s.count
    due := []
    processed := none }

/-- How long the thread may be where it is. -/
def Prompt (backend : TimeBackend) (tickPerSecond : BitVec 32) (budgetUs : Nat)
    (s : MainlineSystem) : Prop :=
  match s.main with
  | .loop | .pass => backend.us s.count ≤ backend.us s.base + budgetUs
  | .blocked since timeout =>
      (backend.us s.count - backend.us since) * tickPerSecond.toNat ≤ timeout.toNat * 1000000
  | .ready since => backend.us s.count ≤ backend.us since + budgetUs
  | .reset | .halted => True

end MainlineSystem

open MainlineSystem in
/-- One step of the mainline thread, of a thread with work for it, or of the time. -/
inductive MainlineStep (build : MainlineBuild) (backend : TimeBackend) (tickPerSecond : BitVec 32)
    (budgetUs : Nat) : MainlineSystem → MainlineSystem → Prop where
  /-- A pending event does not let the thread wait. -/
  | elapse (s : MainlineSystem) (count : Nat) (hlater : s.count ≤ count)
      (hresumed : s.wakeEvent = true → ∀ since timeout, s.main ≠ .blocked since timeout)
      (hprompt : Prompt backend tickPerSecond budgetUs { s with count := count }) :
      MainlineStep build backend tickPerSecond budgetUs s { s with count := count }
  | post (s : MainlineSystem) :
      MainlineStep build backend tickPerSecond budgetUs s
        { s with works := s.works + 1, unsent := s.works :: s.unsent }
  /-- `CO_RTT_mainlineWakeup` for some work, or for none. -/
  | wakeup (s : MainlineSystem) (work : Nat) :
      MainlineStep build backend tickPerSecond budgetUs s
        { s with
          wakeEvent := true
          unsent := s.unsent.erase work
          wakeups := s.count :: s.wakeups }
  | wait (s : MainlineSystem) (hmain : s.main = .loop) :
      MainlineStep build backend tickPerSecond budgetUs s (s.wait backend tickPerSecond)
  | received (s : MainlineSystem) (since : Nat) (timeout : BitVec 32)
      (hmain : s.main = .blocked since timeout) (hevent : s.wakeEvent = true) :
      MainlineStep build backend tickPerSecond budgetUs s
        { s with wakeEvent := false, main := .ready s.count }
  | timedOut (s : MainlineSystem) (since : Nat) (timeout : BitVec 32)
      (hmain : s.main = .blocked since timeout) :
      MainlineStep build backend tickPerSecond budgetUs s { s with main := .ready s.count }
  | sample (s : MainlineSystem) (since : Nat) (nowMs : BitVec 32) (hmain : s.main = .ready since) :
      MainlineStep build backend tickPerSecond budgetUs s (s.sample backend nowMs)
  | finish (s : MainlineSystem) (p : PassEnd) (hmain : s.main = .pass) :
      MainlineStep build backend tickPerSecond budgetUs s (s.finish build p)
  /-- `CO_RTT_mainlineResetWakeups`, in `co_app_rtt_recreate_stack`. -/
  | resetWakeups (s : MainlineSystem) (hmain : s.main = .reset) :
      MainlineStep build backend tickPerSecond budgetUs s { s with wakeEvent := false }
  | restart (s : MainlineSystem) (hmain : s.main = .reset) :
      MainlineStep build backend tickPerSecond budgetUs s (s.restart backend)
  /-- The Communication Reset fails. -/
  | halt (s : MainlineSystem) (hmain : s.main = .reset) :
      MainlineStep build backend tickPerSecond budgetUs s { s with main := .halted }

/-! ## LSS delays -/

/-- No delay of an activation is over. -/
def LssApp.Settled (app : LssApp) (nowMs : BitVec 32) : Prop :=
  app.bitrateState = .preDelay ∨ app.bitrateState = .postDelay →
    reached nowMs app.bitrateDeadlineMs = false

theorem LssApp.settled_completeActivation {app : LssApp} {nowMs : BitVec 32}
    (h : app.bitrateState = .preDelay → reached nowMs app.bitrateDeadlineMs = false) :
    (app.completeActivation nowMs).Settled nowMs := by
  unfold completeActivation
  by_cases hover : app.bitrateState = .postDelay ∧ reached nowMs app.bitrateDeadlineMs = true
  · rw [if_pos hover]
    intro hdelay
    rw [bitrateState_finish] at hdelay
    simp at hdelay
  · rw [if_neg hover]
    intro hdelay
    rcases hdelay with hpre | hpost
    · exact h hpre
    · simpa [hpost] using hover

theorem LssApp.bitrateState_switchBitrate (app : LssApp) (canModule : CanModule)
    (nowMs : BitVec 32) (answers : ProcessAnswers) :
    (app.switchBitrate canModule nowMs answers).1.bitrateState ≠ .preDelay := by
  have hend := switchBitrate_cases app canModule nowMs answers
  generalize app.switchBitrate canModule nowMs answers = ended at hend
  cases hend <;> simp

theorem LssApp.settled_bitrateProcess (app : LssApp) (nowMs : BitVec 32)
    (answers : ProcessAnswers) : (app.bitrateProcess nowMs answers).1.Settled nowMs := by
  unfold bitrateProcess
  by_cases hidle : app.bitrateState = .idle ∨ app.bitrateState = .failed
  · rw [if_pos hidle]
    intro hdelay
    rcases hidle with hidle | hidle <;> simp [hidle] at hdelay
  · rw [if_neg hidle]
    cases app.canModule with
    | none =>
        intro hdelay
        simp at hdelay
    | some canModule =>
        dsimp only
        by_cases hover : app.bitrateState = .preDelay ∧ reached nowMs app.bitrateDeadlineMs = true
        · rw [if_pos hover]
          apply settled_completeActivation
          exact fun hpre => absurd hpre (app.bitrateState_switchBitrate canModule nowMs answers)
        · rw [if_neg hover]
          apply settled_completeActivation
          intro hpre
          simpa [hpre] using hover

/-! ## The deadlines of a pass -/

theorem PassEnd.deadline_le {build : MainlineBuild} {nowMs : BitVec 32} {p : PassEnd} {time : Nat}
    (h : time ∈ p.due build nowMs) : (p.deadline build nowMs).toNat ≤ time := by
  unfold due at h
  unfold deadline
  by_cases hnot : p.resetStatus = .not
  · rw [if_pos hnot] at h
    rw [hnot, updateDeadline_of_not]
    rcases List.mem_cons.mp h with rfl | hmem
    · exact earliest_le_bound _ _
    · exact earliest_le_of_mem hmem
  · rw [if_neg hnot, List.mem_singleton] at h
    rw [updateDeadline_of_reset build _ _ _ _ hnot, h]

theorem PassEnd.settled_processed {build : MainlineBuild} {nowMs : BitVec 32} {p : PassEnd}
    {app : LssApp} (h : p.processed build nowMs = some app) : app.Settled nowMs := by
  unfold processed at h
  split at h
  · cases h
    exact p.app.settled_bitrateProcess nowMs p.answers
  · cases h

/-! ## The wait -/

theorem mainlineMaxWaitUs_toNat : mainlineMaxWaitUs.toNat = 2 ^ 31 - 1 := rfl

theorem TimeBackend.us_mono (backend : TimeBackend) {count count' : Nat} (h : count ≤ count') :
    backend.us count ≤ backend.us count' := by
  cases backend with
  | highRes => exact h
  | tick => exact Nat.mul_le_mul_left 1000 h

theorem TimeBackend.period_ge (backend : TimeBackend) : 2 ^ 32 - 1 ≤ backend.period := by
  cases backend <;> decide

/-- A wait that lasts no longer than its timeout ends before the deadline. -/
theorem mainlineWait_ends {backend : TimeBackend} {tickPerSecond : BitVec 32} {base since : Nat}
    {timerNextUs timeout : BitVec 32} (hle : base ≤ since)
    (hclose : backend.us since < backend.us base + backend.period)
    (hwait : mainlineWait backend tickPerSecond true since (backend.timeNowUs base) timerNextUs =
      some timeout) {nowUs : Nat}
    (hprompt : (nowUs - backend.us since) * tickPerSecond.toNat ≤ timeout.toNat * 1000000) :
    nowUs ≤ backend.us base + min timerNextUs.toNat mainlineMaxWaitUs.toNat := by
  obtain ⟨hpositive, hfits⟩ := mainlineWait_spec hwait
  rw [backend.timeElapsedUs_timeNowUs (backend.us_mono hle) hclose] at hfits
  have htimeout : 0 < timeout.toNat := by
    rw [BitVec.toInt_eq_toNat_cond] at hpositive
    split at hpositive <;> omega
  have hroom : (nowUs - backend.us since) * tickPerSecond.toNat ≤
      (min timerNextUs.toNat mainlineMaxWaitUs.toNat -
        (backend.us since - backend.us base)) * tickPerSecond.toNat := Nat.le_trans hprompt hfits
  have hspare : 0 < (min timerNextUs.toNat mainlineMaxWaitUs.toNat -
      (backend.us since - backend.us base)) * tickPerSecond.toNat := by omega
  have hticks : 0 < tickPerSecond.toNat := Nat.pos_of_mul_pos_left hspare
  have hleft := Nat.pos_of_mul_pos_right hspare
  have hlast := Nat.le_of_mul_le_mul_right hroom hticks
  have hmono := backend.us_mono hle
  omega

/-! ## The invariant -/

namespace MainlineSystem

/-- A wake-up is pending, or a pass comes without one. -/
def Awake (s : MainlineSystem) : Prop :=
  s.wakeEvent = true ∨
    match s.main with
    | .loop => s.loop.timerNextUs = 0
    | .ready _ | .reset | .halted => True
    | .blocked _ _ | .pass => False

/-- How the thread came to where it is. -/
def Arrived (backend : TimeBackend) (tickPerSecond : BitVec 32) (budgetUs : Nat)
    (s : MainlineSystem) : Prop :=
  match s.main with
  | .blocked since timeout =>
      s.base ≤ since ∧ backend.us since ≤ backend.us s.base + budgetUs ∧
        mainlineWait backend tickPerSecond true since (backend.timeNowUs s.base)
          s.loop.timerNextUs = some timeout
  | .ready since => backend.us since ≤ backend.us s.base + (2 ^ 31 - 1) ∧ since ≤ s.count
  | .loop | .pass | .reset | .halted => True

/-- How far the answer to a wake-up is, counted from the restart if that came later. -/
def Answered (backend : TimeBackend) (budgetUs : Nat) (s : MainlineSystem) (wakeup : Nat) : Prop :=
  match s.main with
  | .blocked _ _ => backend.us s.count ≤ backend.us (max wakeup s.origin) + budgetUs
  | .ready since => backend.us since ≤ backend.us (max wakeup s.origin) + budgetUs
  | .loop | .pass | .reset | .halted => True

structure Inv (backend : TimeBackend) (tickPerSecond : BitVec 32) (budgetUs : Nat)
    (s : MainlineSystem) : Prop where
  later : s.base ≤ s.count
  old : s.loop.timeOldUs = backend.timeNowUs s.base
  deadlineBase : s.loop.deadlineBaseUs = backend.timeNowUs s.base
  total : totalUs s.loop.handed + backend.us s.origin = backend.us s.base
  prompt : s.Prompt backend tickPerSecond budgetUs
  arrived : s.Arrived backend tickPerSecond budgetUs
  due : ∀ time ∈ s.due, s.loop.timerNextUs.toNat ≤ time
  settled : ∀ app, s.processed = some app → app.Settled s.nowMs
  wake : ∀ work < s.works, work < s.seen ∨ work ∈ s.unsent ∨ s.Awake
  wakeups : ∀ wakeup ∈ s.wakeups, s.Awake ∧ s.base ≤ max wakeup s.origin ∧
    s.Answered backend budgetUs wakeup

variable {backend : TimeBackend} {tickPerSecond : BitVec 32} {budgetUs : Nat} {s : MainlineSystem}

theorem inv_start (backend : TimeBackend) (tickPerSecond : BitVec 32) (budgetUs count : Nat) :
    Inv backend tickPerSecond budgetUs (start backend count) where
  later := Nat.le_refl count
  old := rfl
  deadlineBase := rfl
  total := Nat.zero_add _
  prompt := Nat.le_add_right _ _
  arrived := trivial
  due := by simp [start]
  settled := by simp [start]
  wake := by simp [start]
  wakeups := by simp [start]

/-- A blocked thread is not behind a deadline. -/
theorem Inv.blocked (h : Inv backend tickPerSecond budgetUs s) (hbudget : budgetUs < 2 ^ 31)
    {since : Nat} {timeout : BitVec 32} (hmain : s.main = .blocked since timeout) :
    backend.us s.count ≤
      backend.us s.base + min s.loop.timerNextUs.toNat mainlineMaxWaitUs.toNat := by
  have harrived := h.arrived
  have hprompt := h.prompt
  simp only [Arrived, Prompt, hmain] at harrived hprompt
  obtain ⟨hle, hsince, hwait⟩ := harrived
  have hperiod := backend.period_ge
  apply mainlineWait_ends hle _ hwait hprompt
  omega

theorem inv_elapse (h : Inv backend tickPerSecond budgetUs s) {count : Nat}
    (hlater : s.count ≤ count)
    (hresumed : s.wakeEvent = true → ∀ since timeout, s.main ≠ .blocked since timeout)
    (hprompt : Prompt backend tickPerSecond budgetUs { s with count := count }) :
    Inv backend tickPerSecond budgetUs { s with count := count } :=
  { h with
    later := Nat.le_trans h.later hlater
    prompt := hprompt
    arrived := by
      have harrived := h.arrived
      unfold Arrived at harrived ⊢
      cases hmain : s.main with
      | blocked since timeout => simpa only [hmain] using harrived
      | ready since =>
          simp only [hmain] at harrived ⊢
          exact ⟨harrived.1, Nat.le_trans harrived.2 hlater⟩
      | loop | pass | reset | halted => trivial
    wakeups := by
      intro wakeup hmem
      obtain ⟨hawake, hbase, hanswered⟩ := h.wakeups wakeup hmem
      refine ⟨hawake, hbase, ?_⟩
      unfold Answered at hanswered ⊢
      cases hmain : s.main with
      | blocked since timeout =>
          rcases hawake with hpending | hplace
          · exact absurd hmain (hresumed hpending since timeout)
          · simp only [hmain] at hplace
      | ready since => simpa only [hmain] using hanswered
      | loop | pass | reset | halted => trivial }

theorem inv_post (h : Inv backend tickPerSecond budgetUs s) :
    Inv backend tickPerSecond budgetUs
      { s with works := s.works + 1, unsent := s.works :: s.unsent } :=
  { h with
    wake := by
      intro work hwork
      rcases Nat.lt_succ_iff_lt_or_eq.mp hwork with hold | rfl
      · rcases h.wake work hold with hseen | hunsent | hawake
        · exact .inl hseen
        · exact .inr (.inl (List.mem_cons_of_mem _ hunsent))
        · exact .inr (.inr hawake)
      · exact .inr (.inl List.mem_cons_self) }

theorem Inv.answered_count (h : Inv backend tickPerSecond budgetUs s) :
    s.Answered backend budgetUs s.count := by
  have harrived := h.arrived
  have hnow := backend.us_mono (Nat.le_max_left s.count s.origin)
  unfold Answered
  cases hmain : s.main with
  | blocked since timeout => exact Nat.le_trans hnow (Nat.le_add_right _ _)
  | ready since =>
      simp only [Arrived, hmain] at harrived
      have hsince := harrived.2
      exact Nat.le_trans (Nat.le_trans (backend.us_mono hsince) hnow) (Nat.le_add_right _ _)
  | loop | pass | reset | halted => trivial

theorem inv_wakeup (h : Inv backend tickPerSecond budgetUs s) (work : Nat) :
    Inv backend tickPerSecond budgetUs
      { s with
        wakeEvent := true
        unsent := s.unsent.erase work
        wakeups := s.count :: s.wakeups } :=
  { h with
    wake := fun _ _ => .inr (.inr (.inl rfl))
    wakeups := by
      intro wakeup hmem
      rcases List.mem_cons.mp hmem with rfl | hold
      · exact ⟨.inl rfl, Nat.le_trans h.later (Nat.le_max_left _ _), h.answered_count⟩
      · exact ⟨.inl rfl, (h.wakeups wakeup hold).2⟩ }

theorem Inv.since_wakeup (h : Inv backend tickPerSecond budgetUs s) (hmain : s.main = .loop)
    {wakeup : Nat} (hmem : wakeup ∈ s.wakeups) :
    backend.us s.count ≤ backend.us (max wakeup s.origin) + budgetUs := by
  have hprompt := h.prompt
  simp only [Prompt, hmain] at hprompt
  have hbase := backend.us_mono (h.wakeups wakeup hmem).2.1
  omega

theorem inv_wait (h : Inv backend tickPerSecond budgetUs s) (hbudget : budgetUs < 2 ^ 31)
    (hmain : s.main = .loop) :
    Inv backend tickPerSecond budgetUs (s.wait backend tickPerSecond) := by
  have hprompt := h.prompt
  simp only [Prompt, hmain] at hprompt
  have hdeadline := h.deadlineBase
  unfold wait
  cases hwait : mainlineWait backend tickPerSecond true s.count s.loop.deadlineBaseUs
      s.loop.timerNextUs with
  | none =>
      exact
        { h with
          prompt := Nat.le_add_right _ _
          arrived := by
            constructor
            · show backend.us s.count ≤ backend.us s.base + (2 ^ 31 - 1)
              omega
            · exact Nat.le_refl s.count
          wake := fun _ _ => .inr (.inr (.inr trivial))
          wakeups := fun wakeup hmem =>
            ⟨.inr trivial, (h.wakeups wakeup hmem).2.1, h.since_wakeup hmain hmem⟩ }
  | some timeout =>
      have hpending (hawake : s.Awake) : s.wakeEvent = true := by
        rcases hawake with hpending | hplace
        · exact hpending
        · -- with the deadline 0 there is no wait
          simp only [hmain] at hplace
          rw [hplace] at hwait
          simp [mainlineWait] at hwait
      exact
        { h with
          prompt := by
            show (backend.us s.count - backend.us s.count) * tickPerSecond.toNat ≤ _
            rw [Nat.sub_self, Nat.zero_mul]
            exact Nat.zero_le _
          arrived := by
            rw [hdeadline] at hwait
            exact ⟨h.later, hprompt, hwait⟩
          wake := by
            intro work hwork
            rcases h.wake work hwork with hseen | hunsent | hawake
            · exact .inl hseen
            · exact .inr (.inl hunsent)
            · exact .inr (.inr (.inl (hpending hawake)))
          wakeups := fun wakeup hmem =>
            ⟨.inl (hpending (h.wakeups wakeup hmem).1), (h.wakeups wakeup hmem).2.1,
              h.since_wakeup hmain hmem⟩ }

theorem inv_ready (h : Inv backend tickPerSecond budgetUs s) (hbudget : budgetUs < 2 ^ 31)
    {since : Nat} {timeout : BitVec 32} (hmain : s.main = .blocked since timeout)
    (wakeEvent : Bool) : Inv backend tickPerSecond budgetUs
      { s with wakeEvent := wakeEvent, main := .ready s.count } := by
  have hends := h.blocked hbudget hmain
  rw [mainlineMaxWaitUs_toNat] at hends
  exact
    { h with
      prompt := Nat.le_add_right _ _
      arrived := by
        constructor
        · show backend.us s.count ≤ backend.us s.base + (2 ^ 31 - 1)
          omega
        · exact Nat.le_refl s.count
      wake := fun _ _ => .inr (.inr (.inr trivial))
      wakeups := by
        intro wakeup hmem
        obtain ⟨-, hbase, hanswered⟩ := h.wakeups wakeup hmem
        simp only [Answered, hmain] at hanswered
        exact ⟨.inr trivial, hbase, hanswered⟩ }

theorem inv_sample (h : Inv backend tickPerSecond budgetUs s) (hbudget : budgetUs < 2 ^ 31)
    {since : Nat} (hmain : s.main = .ready since) (nowMs : BitVec 32) :
    Inv backend tickPerSecond budgetUs (s.sample backend nowMs) := by
  have harrived := h.arrived
  have hprompt := h.prompt
  simp only [Arrived, Prompt, hmain] at harrived hprompt
  have hperiod := backend.period_ge
  have hlater := backend.us_mono h.later
  obtain ⟨hold, hdeadline, htotal⟩ :=
    Mainline.pass_spec backend true s.loop ⟨s.count, TimeBackend.uint32Max⟩
  rw [h.old, backend.timeElapsedUs_timeNowUs hlater (by omega)] at htotal
  exact
    { later := Nat.le_refl _
      old := hold
      deadlineBase := hdeadline rfl
      total := by
        show totalUs (s.loop.pass backend true ⟨s.count, TimeBackend.uint32Max⟩).handed +
          backend.us s.origin = backend.us s.count
        have hbefore := h.total
        omega
      prompt := Nat.le_add_right _ _
      arrived := trivial
      due := by simp [sample]
      settled := by simp [sample]
      wake := fun _ hwork => .inl hwork
      wakeups := by simp [sample] }

theorem inv_finish (h : Inv backend tickPerSecond budgetUs s) (build : MainlineBuild)
    (p : PassEnd) (hmain : s.main = .pass) :
    Inv backend tickPerSecond budgetUs (s.finish build p) := by
  have hprompt := h.prompt
  simp only [Prompt, hmain] at hprompt
  have hpending (hawake : s.Awake) : s.wakeEvent = true := by
    rcases hawake with hpending | hplace
    · exact hpending
    · simp only [hmain] at hplace
  exact
    { later := h.later
      old := h.old
      deadlineBase := h.deadlineBase
      total := h.total
      prompt := by
        unfold Prompt finish
        cases p.resetStatus <;> first | exact hprompt | trivial
      arrived := by
        unfold Arrived finish
        cases p.resetStatus <;> trivial
      due := fun _ htime => PassEnd.deadline_le htime
      settled := fun _ hprocessed => PassEnd.settled_processed hprocessed
      wake := by
        intro work hwork
        rcases h.wake work hwork with hseen | hunsent | hawake
        · exact .inl hseen
        · exact .inr (.inl hunsent)
        · exact .inr (.inr (.inl (hpending hawake)))
      wakeups := by
        intro wakeup hmem
        obtain ⟨hawake, hbase, -⟩ := h.wakeups wakeup hmem
        refine ⟨.inl (hpending hawake), hbase, ?_⟩
        unfold Answered finish
        cases p.resetStatus <;> trivial }

theorem inv_restart (h : Inv backend tickPerSecond budgetUs s) :
    Inv backend tickPerSecond budgetUs (s.restart backend) where
  later := Nat.le_refl _
  old := rfl
  deadlineBase := rfl
  total := Nat.zero_add _
  prompt := Nat.le_add_right _ _
  arrived := trivial
  due := by simp [restart]
  settled := by simp [restart]
  wake := by
    intro work hwork
    rcases h.wake work hwork with hseen | hunsent | hawake
    · exact .inl hseen
    · exact .inr (.inl hunsent)
    · exact .inr (.inr (.inr rfl))
  wakeups := fun _ _ => ⟨.inr rfl, Nat.le_max_right _ _, trivial⟩

theorem inv_idle (h : Inv backend tickPerSecond budgetUs s) (wakeEvent : Bool) {main : MainlineAt}
    (hidle : main = .reset ∨ main = .halted) :
    Inv backend tickPerSecond budgetUs { s with wakeEvent := wakeEvent, main := main } := by
  have hbase (wakeup : Nat) (hmem : wakeup ∈ s.wakeups) := (h.wakeups wakeup hmem).2.1
  rcases hidle with rfl | rfl <;>
    exact
      { h with
        prompt := trivial
        arrived := trivial
        wake := fun _ _ => .inr (.inr (.inr trivial))
        wakeups := fun wakeup hmem => ⟨.inr trivial, hbase wakeup hmem, trivial⟩ }

theorem inv_step {build : MainlineBuild} (hbudget : budgetUs < 2 ^ 31) {t : MainlineSystem}
    (h : Inv backend tickPerSecond budgetUs s)
    (hstep : MainlineStep build backend tickPerSecond budgetUs s t) :
    Inv backend tickPerSecond budgetUs t := by
  cases hstep with
  | elapse count hlater hresumed hprompt => exact inv_elapse h hlater hresumed hprompt
  | post => exact inv_post h
  | wakeup work => exact inv_wakeup h work
  | wait hmain => exact inv_wait h hbudget hmain
  | received since timeout hmain hevent => exact inv_ready h hbudget hmain false
  | timedOut since timeout hmain => exact inv_ready h hbudget hmain s.wakeEvent
  | sample since nowMs hmain => exact inv_sample h hbudget hmain nowMs
  | finish p hmain => exact inv_finish h build p hmain
  | resetWakeups hmain =>
      have hidle := inv_idle h false (.inl hmain)
      exact hidle
  | restart hmain => exact inv_restart h
  | halt hmain => exact inv_idle h s.wakeEvent (.inr rfl)

/-! ## The law -/

/-- CANopenNode is handed the time that has passed, a wait does not outlast a deadline, no work is
kept back that somebody has woken the loop up for, and a wake-up leads to a pass within twice the
budget. -/
structure Law (backend : TimeBackend) (budgetUs : Nat) (s : MainlineSystem) : Prop where
  elapsed : totalUs s.loop.handed = backend.us s.base - backend.us s.origin
  due : ∀ since timeout, s.main = .blocked since timeout →
    ∀ time ∈ s.due, backend.us s.count ≤ backend.us s.base + time
  wake : ∀ since timeout, s.main = .blocked since timeout →
    ∀ work < s.works, work < s.seen ∨ work ∈ s.unsent ∨ s.wakeEvent = true
  response : s.main ≠ .reset → s.main ≠ .halted →
    ∀ wakeup ∈ s.wakeups,
      backend.us s.count ≤ backend.us (max wakeup s.origin) + 2 * budgetUs
  settled : ∀ app, s.processed = some app → app.Settled s.nowMs

theorem Inv.response (h : Inv backend tickPerSecond budgetUs s) (hreset : s.main ≠ .reset)
    (hhalted : s.main ≠ .halted) {wakeup : Nat} (hmem : wakeup ∈ s.wakeups) :
    backend.us s.count ≤ backend.us (max wakeup s.origin) + 2 * budgetUs := by
  obtain ⟨-, hbase, hanswered⟩ := h.wakeups wakeup hmem
  have hprompt := h.prompt
  have hmono := backend.us_mono hbase
  unfold Prompt at hprompt
  unfold Answered at hanswered
  cases hmain : s.main with
  | loop | pass =>
      simp only [hmain] at hprompt
      omega
  | blocked since timeout =>
      simp only [hmain] at hanswered
      omega
  | ready since =>
      simp only [hmain] at hanswered hprompt
      omega
  | reset => exact absurd hmain hreset
  | halted => exact absurd hmain hhalted

/-- In every interleaving in which the code between two readings of the clock takes less than
half of the period. -/
theorem law_of_mainline (build : MainlineBuild) (backend : TimeBackend)
    (tickPerSecond : BitVec 32) {budgetUs : Nat} (hbudget : budgetUs < 2 ^ 31) (count : Nat)
    {s : MainlineSystem}
    (h : Reachable (MainlineStep build backend tickPerSecond budgetUs) (start backend count) s) :
    Law backend budgetUs s := by
  have hinv := h.invariant (inv_start backend tickPerSecond budgetUs count)
    fun hbefore hstep => inv_step hbudget hbefore hstep
  exact
    { elapsed := by
        have htotal := hinv.total
        omega
      due := by
        intro since timeout hmain time htime
        have hends := hinv.blocked hbudget hmain
        have hdeadline := hinv.due time htime
        omega
      wake := by
        intro since timeout hmain work hwork
        rcases hinv.wake work hwork with hseen | hunsent | hpending | hplace
        · exact .inl hseen
        · exact .inr (.inl hunsent)
        · exact .inr (.inr hpending)
        · simp only [hmain] at hplace
      response := fun hreset hhalted _ hmem => hinv.response hreset hhalted hmem
      settled := hinv.settled }

/-- A pass in the first delay of an activation, with a TIME message due after it. -/
def delayedPass : PassEnd where
  timerNextUs := 50000
  resetStatus := .not
  app :=
    { bitrateState := .preDelay
      previousBitrate := 125
      targetBitrate := 250
      bitrateDelayMs := 20
      bitrateDeadlineMs := 20
      baudrate := 125
      pendingBitrate := 250
      canModule := some { txEnabled := false, canNormal := true } }
  objects :=
    { gateway := none
      nodeIdUnconfigured := false
      nmt := some .operational
      time := some
        { isProducer := true, producerIntervalMs := 100, producerTimerMs := 60, residualUs := 500 }
      storageEnabled := false
      storageAuto := [] }
  answers := { lock := true, switch := ⟨true, true⟩, rollback := ⟨true, true⟩ }

/-- The wait of `delayedPass`, from count 0 on. -/
def delayedWait : MainlineSystem where
  count := 0
  loop := { timeOldUs := 0, deadlineBaseUs := 0, timerNextUs := 20000, handed := [0] }
  main := .blocked 0 20
  origin := 0
  base := 0
  due := [50000, 20000, 39500]
  processed := some delayedPass.app

/-- The loop waits for the end of the delay, and a wake-up comes after 7 ms. -/
theorem law_of_delayedWait :
    Law .tick 1000 { delayedWait with count := 7, wakeEvent := true, wakeups := [7] } := by
  let build : MainlineBuild :=
    { gatewayLss := true, lssPersist := true, timeProducer := true, storage := true,
      compatPoll := false, firstLssState := 10, lastLssState := 20 }
  have hpass : Reachable (MainlineStep build .tick 1000 1000) (start .tick 0)
      (((start .tick 0).wait .tick 1000).sample .tick 0) :=
    .tail (.single (.wait _ rfl)) (.sample _ 0 0 (by decide))
  have hblocked : Reachable (MainlineStep build .tick 1000 1000) (start .tick 0) delayedWait := by
    have hwait := (hpass.tail (.finish _ delayedPass rfl)).tail (.wait _ rfl)
    have hsame : ((((start .tick 0).wait .tick 1000).sample .tick 0).finish build
        delayedPass).wait .tick 1000 = delayedWait := by decide
    rwa [hsame] at hwait
  have hlater := hblocked.tail (.elapse delayedWait 7 (by decide) (by simp [delayedWait])
    (by simp [Prompt, delayedWait, TimeBackend.us]))
  exact law_of_mainline build .tick 1000 (by decide) 0 (hlater.tail (.wakeup _ 0))

end MainlineSystem

end CanopenRtt.App
