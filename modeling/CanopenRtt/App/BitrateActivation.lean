import CanopenRtt.App.LssBitrate
import CanopenRtt.Support.Run
/-!
# Safety of bitrate activations

A node is observed along real time: the mainline samples the clock at the start
of a loop, callbacks and process calls follow with any time in between. The
second delay is counted from the sample of the call that switched, not from the
switch, so a gate opens too early when the call runs late.
-/

namespace CanopenRtt.App

open Support

/-- The application, the bitrate last programmed with success, real time in
milliseconds, and the moments of the current activation. -/
structure Node where
  app : LssApp
  programmed : BitVec 16
  clock : Nat
  sampled : Nat
  delay : Nat
  activatedAt : Nat
  switchSample : Nat
  switchedAt : Nat
  deriving DecidableEq

/-- The time that passes in a process call until the switch is in effect, from there
until the gate opens, and from there to its end. -/
structure CallTimes where
  untilSwitch : Nat
  untilOpen : Nat
  untilEnd : Nat
  deriving DecidableEq

inductive Event where
  | loopStart (elapsed : Nat)
  | configure (bitrate : BitVec 16)
  | activate (elapsed : Nat) (delay : BitVec 16)
  | process (times : CallTimes) (answers : LssApp.ProcessAnswers)
  | communicationReset (elapsed : Nat) (answers : LssApp.ResetAnswers)
  deriving DecidableEq

/-- The bitrate last programmed with success. -/
def programmedAfter (programmed : BitVec 16) (attempts : List Attempt) : BitVec 16 :=
  attempts.foldl (fun last attempt => if attempt.ok then attempt.bitrate else last) programmed

namespace Node

/-- An application before its first communication initialization. -/
def powerOn (bitrate programmed : BitVec 16) (clock : Nat) : Node where
  app :=
    { bitrateState := .idle
      previousBitrate := 0
      targetBitrate := 0
      bitrateDelayMs := 0
      bitrateDeadlineMs := 0
      baudrate := bitrate
      pendingBitrate := bitrate
      canModule := none }
  programmed := programmed
  clock := clock
  sampled := clock
  delay := 0
  activatedAt := clock
  switchSample := clock
  switchedAt := clock

/-- The process call of one loop, with the sample of its start. -/
def processed (node : Node) (answers : LssApp.ProcessAnswers) : LssApp × List Attempt :=
  node.app.bitrateProcess (tick 32 node.sampled) answers

/-- The node after a process call with its result. -/
def afterProcess (node : Node) (times : CallTimes) (result : LssApp × List Attempt) : Node :=
  let ended := node.clock + times.untilSwitch + times.untilOpen + times.untilEnd
  if result.2 = [⟨node.app.targetBitrate, true⟩] then
    { node with
      app := result.1
      programmed := programmedAfter node.programmed result.2
      clock := ended
      switchSample := node.sampled
      switchedAt := node.clock + times.untilSwitch }
  else
    { node with
      app := result.1
      programmed := programmedAfter node.programmed result.2
      clock := ended }

def step (node : Node) : Event → Node
  | .loopStart elapsed =>
      { node with clock := node.clock + elapsed, sampled := node.clock + elapsed }
  | .configure bitrate => { node with app := { node.app with pendingBitrate := bitrate } }
  | .activate elapsed delay =>
      let app := node.app.activateBitrate (tick 32 (node.clock + elapsed)) delay
      if app = node.app then { node with clock := node.clock + elapsed }
      else
        { node with
          app := app
          clock := node.clock + elapsed
          delay := delay.toNat
          activatedAt := node.clock + elapsed }
  | .process times answers => node.afterProcess times (node.processed answers)
  | .communicationReset elapsed answers =>
      { node with
        app := (node.app.recreateStack answers).1
        programmed := programmedAfter node.programmed (node.app.recreateStack answers).2
        clock := node.clock + elapsed }

/-- Where the deadline of the current delay lies in real time. -/
def preDeadline (node : Node) : Nat := node.activatedAt + node.delay

def postDeadline (node : Node) : Nat := node.switchSample + node.delay

/-- How much later than the sample of its call the switch took effect. -/
def lateness (node : Node) : Nat := node.switchedAt - node.switchSample

/-- A process call in the first delay has a sample that the wrapping comparison
judges rightly, and no call in the second delay has its sample at the deadline or
less than the lateness of the switch after it. -/
def StampFits (node : Node) : Event → Prop
  | .process _ _ =>
      (node.app.bitrateState = .preDelay → node.preDeadline ≤ node.sampled + 2 ^ 31) ∧
      (node.app.bitrateState = .postDelay → node.postDeadline ≤ node.sampled →
        node.postDeadline + node.lateness ≤ node.sampled)
  | _ => True

/-- When a step that opens the gate does so: `co_app_rtt_lss_bitrate_finish` stands
inside the process call. -/
def openTime (node : Node) : Event → Nat
  | .process times _ => node.clock + times.untilSwitch + times.untilOpen
  | event => (node.step event).clock

/-- The calls of the CAN device in a step. -/
def attempts (node : Node) : Event → List Attempt
  | .process _ answers => (node.processed answers).2
  | .communicationReset _ answers => (node.app.recreateStack answers).2
  | _ => []

def IsReset : Event → Prop
  | .communicationReset _ _ => True
  | _ => False

def IsProcess : Event → Prop
  | .process _ _ => True
  | _ => False

def IsActivate : Event → Prop
  | .activate _ _ => True
  | _ => False

/-- What a step of an activation promises. -/
structure ActivationSafe (node : Node) (event : Event) : Prop where
  /-- An activation that is accepted closes the gate, and it stays closed up to its end. -/
  closed : (node.step event).app.bitrateState ≠ .idle → (node.step event).app.txEnabled = false
  /-- The gate opens with a reset, after a rollback, or `delay` ms after the switch. -/
  opens : node.app.txEnabled = false → (node.step event).app.txEnabled = true →
    IsReset event ∨ IsProcess event ∧
      ((∃ target previous, node.attempts event = [⟨target, false⟩, ⟨previous, true⟩]) ∨
        (node.step event).switchedAt + node.delay ≤ node.openTime event)
  /-- The controller is reprogrammed at least `delay` ms after the activation. -/
  reprograms : IsProcess event → node.attempts event ≠ [] →
    node.activatedAt + node.delay ≤ node.clock
  /-- With an open gate `baudrate` is the bitrate that was programmed. -/
  baudrate : (node.step event).app.txEnabled = true →
    (node.step event).app.baudrate = (node.step event).programmed
  /-- A lost switch fails the activation. -/
  fails : IsProcess event →
    (∃ target previous, node.attempts event = [⟨target, false⟩, ⟨previous, false⟩]) →
    (node.step event).app.bitrateState = .failed
  /-- Only a reset leaves a failed activation. -/
  failed : node.app.bitrateState = .failed → ¬ IsReset event →
    (node.step event).app.bitrateState = .failed ∧ (node.step event).app.txEnabled = false
  /-- An activation in progress is not disturbed by another one. -/
  ignored : IsActivate event → node.app.bitrateState ≠ .idle → (node.step event).app = node.app

/-! ## The invariant -/

/-- The gate, the programmed bitrate and the deadlines of a node. -/
structure Inv (node : Node) : Prop where
  sampled : node.sampled ≤ node.clock
  closed : node.app.bitrateState ≠ .idle → node.app.txEnabled = false
  baudrate : node.app.bitrateState ≠ .failed → node.app.canModule.isSome = true →
    node.app.baudrate = node.programmed
  delay : node.app.bitrateState = .preDelay ∨ node.app.bitrateState = .postDelay →
    node.app.bitrateDelayMs.toNat = node.delay
  pre : node.app.bitrateState = .preDelay →
    node.app.bitrateDeadlineMs = tick 32 node.preDeadline
  post : node.app.bitrateState = .postDelay →
    node.app.bitrateDeadlineMs = tick 32 node.postDeadline ∧ node.switchSample ≤ node.sampled ∧
      node.switchSample ≤ node.switchedAt

theorem inv_powerOn (bitrate programmed : BitVec 16) (clock : Nat) :
    Inv (powerOn bitrate programmed clock) where
  sampled := Nat.le_refl clock
  closed h := absurd rfl h
  baudrate _ h := by contradiction
  delay h := by rcases h with h | h <;> contradiction
  pre h := by contradiction
  post h := by contradiction

theorem setWidth_eq_tick (delay : BitVec 16) : delay.setWidth 32 = tick 32 delay.toNat := by
  rw [tick, BitVec.ofNat_toNat]

/-- The deadline of a first delay has passed when the call finds it reached. -/
theorem preDeadline_le {node : Node} (h : Inv node)
    (hclose : node.preDeadline ≤ node.sampled + 2 ^ 31)
    (hstate : node.app.bitrateState = .preDelay)
    (hreached : reached (tick 32 node.sampled) node.app.bitrateDeadlineMs = true) :
    node.preDeadline ≤ node.sampled := by
  rw [h.pre hstate] at hreached
  exact le_of_reached hreached hclose

/-- So has the deadline of a second delay: it lies at most 65535 ms after a sample. -/
theorem postDeadline_le {node : Node} (h : Inv node)
    (hstate : node.app.bitrateState = .postDelay)
    (hreached : reached (tick 32 node.sampled) node.app.bitrateDeadlineMs = true) :
    node.postDeadline ≤ node.sampled := by
  obtain ⟨hdeadline, hsample, -⟩ := h.post hstate
  have hdelay : node.delay < 2 ^ 16 := by
    rw [← h.delay (.inr hstate)]
    exact node.app.bitrateDelayMs.isLt
  rw [hdeadline] at hreached
  apply le_of_reached hreached
  unfold postDeadline
  omega

/-- A call that switches and completes at once has no delay to wait for. -/
theorem delay_eq_zero {node : Node} (h : Inv node)
    (hstate : node.app.bitrateState = .preDelay)
    (hreached : reached (tick 32 node.sampled)
      (tick 32 node.sampled + node.app.bitrateDelayMs.setWidth 32) = true) : node.delay = 0 := by
  have hdelay := h.delay (.inl hstate)
  have hlt := node.app.bitrateDelayMs.isLt
  rw [setWidth_eq_tick, hdelay, tick_add] at hreached
  have hle := le_of_reached hreached (by omega)
  omega

@[simp] theorem step_process (node : Node) (times : CallTimes)
    (answers : LssApp.ProcessAnswers) : node.step (.process times answers) =
      node.afterProcess times (node.app.bitrateProcess (tick 32 node.sampled) answers) := rfl

@[simp] theorem attempts_process (node : Node) (times : CallTimes)
    (answers : LssApp.ProcessAnswers) : node.attempts (.process times answers) =
      (node.app.bitrateProcess (tick 32 node.sampled) answers).2 := rfl

@[simp] theorem app_afterProcess (node : Node) (times : CallTimes)
    (result : LssApp × List Attempt) : (node.afterProcess times result).app = result.1 := by
  unfold afterProcess
  split <;> rfl

@[simp] theorem programmed_afterProcess (node : Node) (times : CallTimes)
    (result : LssApp × List Attempt) :
    (node.afterProcess times result).programmed = programmedAfter node.programmed result.2 := by
  unfold afterProcess
  split <;> rfl

@[simp] theorem clock_afterProcess (node : Node) (times : CallTimes)
    (result : LssApp × List Attempt) :
    (node.afterProcess times result).clock =
      node.clock + times.untilSwitch + times.untilOpen + times.untilEnd := by
  unfold afterProcess
  split <;> rfl

@[simp] theorem sampled_afterProcess (node : Node) (times : CallTimes)
    (result : LssApp × List Attempt) : (node.afterProcess times result).sampled = node.sampled := by
  unfold afterProcess
  split <;> rfl

theorem afterProcess_of_not_switched (node : Node) (times : CallTimes) (app : LssApp)
    {attempts : List Attempt} (h : attempts ≠ [⟨node.app.targetBitrate, true⟩]) :
    node.afterProcess times (app, attempts) =
      { node with
        app := app
        programmed := programmedAfter node.programmed attempts
        clock := node.clock + times.untilSwitch + times.untilOpen + times.untilEnd } := by
  unfold afterProcess
  rw [if_neg h]

theorem afterProcess_of_switched (node : Node) (times : CallTimes) (app : LssApp) :
    node.afterProcess times (app, [⟨node.app.targetBitrate, true⟩]) =
      { node with
        app := app
        programmed := node.app.targetBitrate
        clock := node.clock + times.untilSwitch + times.untilOpen + times.untilEnd
        switchSample := node.sampled
        switchedAt := node.clock + times.untilSwitch } := by
  unfold afterProcess
  rw [if_pos rfl]
  rfl

theorem inv_of_over {node : Node} (hsampled : node.sampled ≤ node.clock)
    (hstate : node.app.bitrateState = .idle ∨ node.app.bitrateState = .failed)
    (hclosed : node.app.bitrateState ≠ .idle → node.app.txEnabled = false)
    (hbaudrate : node.app.bitrateState ≠ .failed → node.app.canModule.isSome = true →
      node.app.baudrate = node.programmed) : Inv node where
  sampled := hsampled
  closed := hclosed
  baudrate := hbaudrate
  delay h := by
    rcases hstate with hs | hs <;> rcases h with h | h <;> rw [hs] at h <;> contradiction
  pre h := by rcases hstate with hs | hs <;> rw [hs] at h <;> contradiction
  post h := by rcases hstate with hs | hs <;> rw [hs] at h <;> contradiction

theorem isSome_of_txEnabled {app : LssApp} (h : app.txEnabled = true) :
    app.canModule.isSome = true := by
  unfold LssApp.txEnabled at h
  split at h
  · contradiction
  · next hmodule => rw [hmodule]; rfl

theorem inv_process {node : Node} (h : Inv node) (times : CallTimes)
    (answers : LssApp.ProcessAnswers) : Inv (node.step (.process times answers)) := by
  have hsampled : node.sampled ≤
      node.clock + times.untilSwitch + times.untilOpen + times.untilEnd :=
    h.sampled.trans (by omega)
  have hended := LssApp.bitrateProcess_cases node.app (tick 32 node.sampled) answers
  rw [step_process]
  generalize node.app.bitrateProcess (tick 32 node.sampled) answers = ended at hended
  cases hended with
  | unchanged =>
      rw [afterProcess_of_not_switched _ _ _ (by simp)]
      exact { h with sampled := hsampled }
  | failed hstate =>
      rw [afterProcess_of_not_switched _ _ _ (by simp)]
      exact inv_of_over hsampled (.inr rfl) (fun _ => LssApp.txEnabled_fail _)
        fun hne => absurd rfl hne
  | completed hstate hreached =>
      rw [afterProcess_of_not_switched _ _ _ (by simp)]
      refine inv_of_over hsampled (.inl rfl) (fun hne => absurd rfl hne) ?_
      intro _ hmodule
      have hsome : node.app.canModule.isSome = true := by
        simpa [LssApp.finish, LssApp.resetState, LssApp.setTxEnabled] using hmodule
      exact h.baudrate (by rw [hstate]; decide) hsome
  | switched hstate hreached switched htx =>
      rw [afterProcess_of_switched]
      have hclosed := h.closed (by rw [hstate]; decide)
      refine ⟨hsampled, fun _ => htx.trans hclosed, fun _ _ => rfl, ?_, ?_, ?_⟩
      · intro _
        exact h.delay (.inl hstate)
      · intro hpre
        contradiction
      · intro _
        refine ⟨?_, Nat.le_refl _, h.sampled.trans (Nat.le_add_right _ _)⟩
        have hdelay := h.delay (.inl hstate)
        unfold LssApp.switchedTo postDeadline
        dsimp only
        rw [setWidth_eq_tick, hdelay, tick_add]
  | switchedAndCompleted hstate hreached switched hagain =>
      rw [afterProcess_of_switched]
      exact inv_of_over hsampled (.inl rfl) (fun hne => absurd rfl hne) fun _ _ => rfl
  | rolledBack hstate hreached restored =>
      rw [afterProcess_of_not_switched _ _ _ (by simp)]
      exact inv_of_over hsampled (.inl rfl) (fun hne => absurd rfl hne) fun _ _ => rfl
  | lost hstate hreached left =>
      rw [afterProcess_of_not_switched _ _ _ (by simp)]
      exact inv_of_over hsampled (.inr rfl) (fun _ => LssApp.txEnabled_fail _)
        fun hne => absurd rfl hne

theorem inv_loopStart {node : Node} (h : Inv node) (elapsed : Nat) :
    Inv (node.step (.loopStart elapsed)) where
  sampled := Nat.le_refl _
  closed := h.closed
  baudrate := h.baudrate
  delay := h.delay
  pre := h.pre
  post hpost := by
    obtain ⟨hdeadline, hsample, hswitch⟩ := h.post hpost
    exact ⟨hdeadline, hsample.trans (h.sampled.trans (Nat.le_add_right _ _)), hswitch⟩

theorem inv_configure {node : Node} (h : Inv node) (bitrate : BitVec 16) :
    Inv (node.step (.configure bitrate)) where
  sampled := h.sampled
  closed := h.closed
  baudrate := h.baudrate
  delay := h.delay
  pre := h.pre
  post := h.post

theorem step_activate_cases (node : Node) (elapsed : Nat) (delay : BitVec 16) :
    node.step (.activate elapsed delay) = { node with clock := node.clock + elapsed } ∨
      node.app.bitrateState = .idle ∧ node.app.canModule.isSome = true ∧
        node.step (.activate elapsed delay) =
          { node with
            app :=
              { node.app.setTxEnabled false with
                previousBitrate := node.app.baudrate
                targetBitrate := node.app.pendingBitrate
                bitrateDelayMs := delay
                bitrateDeadlineMs := tick 32 (node.clock + elapsed) + delay.setWidth 32
                bitrateState := .preDelay }
            clock := node.clock + elapsed
            delay := delay.toNat
            activatedAt := node.clock + elapsed } := by
  have hcases := node.app.activateBitrate_cases (tick 32 (node.clock + elapsed)) delay
  rcases hcases with hignored | ⟨hidle, hmodule, haccepted⟩
  · left
    unfold step
    dsimp only
    rw [if_pos hignored]
  · right
    refine ⟨hidle, hmodule, ?_⟩
    unfold step
    dsimp only
    rw [haccepted, if_neg]
    intro hsame
    have hstate := congrArg LssApp.bitrateState hsame
    rw [hidle] at hstate
    contradiction

theorem txEnabled_setTxEnabled_false (app : LssApp) :
    (app.setTxEnabled false).txEnabled = false := by
  unfold LssApp.setTxEnabled LssApp.txEnabled
  cases app.canModule <;> rfl

theorem inv_activate {node : Node} (h : Inv node) (elapsed : Nat) (delay : BitVec 16) :
    Inv (node.step (.activate elapsed delay)) := by
  have hsampled : node.sampled ≤ node.clock + elapsed := h.sampled.trans (Nat.le_add_right _ _)
  rcases step_activate_cases node elapsed delay with hignored | ⟨hidle, hmodule, haccepted⟩
  · rw [hignored]
    exact { h with sampled := hsampled }
  · rw [haccepted]
    refine ⟨hsampled, fun _ => txEnabled_setTxEnabled_false node.app, fun _ _ => ?_,
      fun _ => rfl, fun _ => ?_, ?_⟩
    · exact h.baudrate (by rw [hidle]; decide) hmodule
    · unfold preDeadline
      dsimp only
      rw [setWidth_eq_tick, tick_add]
    · intro hpost
      contradiction

@[simp] theorem step_communicationReset (node : Node) (elapsed : Nat)
    (answers : LssApp.ResetAnswers) : node.step (.communicationReset elapsed answers) =
      { node with
        app := (node.app.recreateStack answers).1
        programmed := programmedAfter node.programmed (node.app.recreateStack answers).2
        clock := node.clock + elapsed } := rfl

theorem inv_communicationReset {node : Node} (h : Inv node) (elapsed : Nat)
    (answers : LssApp.ResetAnswers) : Inv (node.step (.communicationReset elapsed answers)) := by
  have hsampled : node.sampled ≤ node.clock + elapsed := h.sampled.trans (Nat.le_add_right _ _)
  rw [step_communicationReset]
  rcases node.app.recreateStack_cases answers with hdeleted | hunbound | hfresh
  · rw [hdeleted]
    exact ⟨hsampled, fun _ => rfl, fun _ hmodule => by contradiction, h.delay, h.pre, h.post⟩
  · rw [hunbound]
    exact inv_of_over hsampled (.inl rfl) (fun _ => rfl) fun _ hmodule => by contradiction
  · rw [hfresh]
    exact inv_of_over hsampled (.inl rfl) (fun hne => absurd rfl hne) fun _ _ => rfl

theorem inv_step {node : Node} (h : Inv node) (event : Event) : Inv (node.step event) := by
  cases event with
  | loopStart elapsed => exact inv_loopStart h elapsed
  | configure bitrate => exact inv_configure h bitrate
  | activate elapsed delay => exact inv_activate h elapsed delay
  | process times answers => exact inv_process h times answers
  | communicationReset elapsed answers => exact inv_communicationReset h elapsed answers

/-! ## Safety of a step -/

theorem gate_of_inv {node : Node} (h : Inv node) :
    (node.app.bitrateState ≠ .idle → node.app.txEnabled = false) ∧
      (node.app.txEnabled = true → node.app.baudrate = node.programmed) := by
  refine ⟨h.closed, fun htx => ?_⟩
  have hidle : node.app.bitrateState = .idle := by
    by_contra hbusy
    rw [h.closed hbusy] at htx
    contradiction
  exact h.baudrate (by rw [hidle]; decide) (isSome_of_txEnabled htx)

/-- The gate opens in a process call after a rollback or a full second delay. -/
theorem opens_process {node : Node} (h : Inv node) {times : CallTimes}
    {answers : LssApp.ProcessAnswers} (hfits : StampFits node (.process times answers))
    (hbefore : node.app.txEnabled = false)
    (hafter : (node.step (.process times answers)).app.txEnabled = true) :
    (∃ target previous, node.attempts (.process times answers) =
        [⟨target, false⟩, ⟨previous, true⟩]) ∨
      (node.step (.process times answers)).switchedAt + node.delay ≤
        node.openTime (.process times answers) := by
  have hended := LssApp.bitrateProcess_cases node.app (tick 32 node.sampled) answers
  rw [attempts_process]
  rw [step_process] at hafter ⊢
  rw [app_afterProcess] at hafter
  unfold openTime
  generalize node.app.bitrateProcess (tick 32 node.sampled) answers = ended at hended hafter
  cases hended with
  | unchanged => exact absurd (hbefore.symm.trans hafter) (by decide)
  | failed hstate =>
      rw [LssApp.txEnabled_fail] at hafter
      contradiction
  | completed hstate hreached =>
      right
      obtain ⟨-, -, hswitch⟩ := h.post hstate
      have hsampled := h.sampled
      have hlate := hfits.2 hstate (postDeadline_le h hstate hreached)
      unfold postDeadline lateness at hlate
      rw [afterProcess_of_not_switched _ _ _ (by simp)]
      dsimp only
      omega
  | switched hstate hreached switched htx =>
      have hclosed : (node.app.switchedTo switched (tick 32 node.sampled)).txEnabled = false :=
        htx.trans hbefore
      rw [hclosed] at hafter
      contradiction
  | switchedAndCompleted hstate hreached switched hagain =>
      right
      rw [afterProcess_of_switched]
      dsimp only
      rw [delay_eq_zero h hstate hagain]
      exact Nat.le_add_right _ _
  | rolledBack hstate hreached restored => exact .inl ⟨_, _, rfl⟩
  | lost hstate hreached left =>
      rw [LssApp.txEnabled_fail] at hafter
      contradiction

theorem reprograms_process {node : Node} (h : Inv node) {times : CallTimes}
    {answers : LssApp.ProcessAnswers} (hfits : StampFits node (.process times answers))
    (hattempts : node.attempts (.process times answers) ≠ []) :
    node.activatedAt + node.delay ≤ node.clock := by
  have hdue (hstate : node.app.bitrateState = .preDelay)
      (hreached : reached (tick 32 node.sampled) node.app.bitrateDeadlineMs = true) :
      node.activatedAt + node.delay ≤ node.clock :=
    (preDeadline_le h (hfits.1 hstate) hstate hreached).trans h.sampled
  have hended := LssApp.bitrateProcess_cases node.app (tick 32 node.sampled) answers
  rw [attempts_process] at hattempts
  generalize node.app.bitrateProcess (tick 32 node.sampled) answers = ended at hended hattempts
  cases hended with
  | unchanged => exact absurd rfl hattempts
  | failed hstate => exact absurd rfl hattempts
  | completed hstate hreached => exact absurd rfl hattempts
  | switched hstate hreached switched htx => exact hdue hstate hreached
  | switchedAndCompleted hstate hreached switched hagain => exact hdue hstate hreached
  | rolledBack hstate hreached restored => exact hdue hstate hreached
  | lost hstate hreached left => exact hdue hstate hreached

theorem fails_process {node : Node} {times : CallTimes} {answers : LssApp.ProcessAnswers}
    (hlost : ∃ target previous, node.attempts (.process times answers) =
      [⟨target, false⟩, ⟨previous, false⟩]) :
    (node.step (.process times answers)).app.bitrateState = .failed := by
  obtain ⟨target, previous, hattempts⟩ := hlost
  have hended := LssApp.bitrateProcess_cases node.app (tick 32 node.sampled) answers
  rw [step_process, app_afterProcess]
  rw [attempts_process] at hattempts
  generalize node.app.bitrateProcess (tick 32 node.sampled) answers = ended at hended hattempts
  cases hended with
  | unchanged => contradiction
  | failed hstate => contradiction
  | completed hstate hreached => contradiction
  | switched hstate hreached switched htx => simp at hattempts
  | switchedAndCompleted hstate hreached switched hagain => simp at hattempts
  | rolledBack hstate hreached restored => simp at hattempts
  | lost hstate hreached left => rfl

theorem app_step_of_failed {node : Node} (h : node.app.bitrateState = .failed) {event : Event}
    (hreset : ¬ IsReset event) :
    (node.step event).app.bitrateState = .failed ∧
      (node.step event).app.txEnabled = node.app.txEnabled := by
  cases event with
  | loopStart elapsed => exact ⟨h, rfl⟩
  | configure bitrate => exact ⟨h, rfl⟩
  | activate elapsed delay =>
      rcases step_activate_cases node elapsed delay with hignored | ⟨hidle, -⟩
      · rw [hignored]
        exact ⟨h, rfl⟩
      · rw [h] at hidle
        contradiction
  | process times answers =>
      rw [step_process, app_afterProcess, LssApp.bitrateProcess, if_pos (.inr h)]
      exact ⟨h, rfl⟩
  | communicationReset elapsed answers => exact absurd trivial hreset

theorem activationSafe {node : Node} (h : Inv node) {event : Event} (hfits : StampFits node event) :
    ActivationSafe node event where
  closed := (gate_of_inv (inv_step h event)).1
  baudrate := (gate_of_inv (inv_step h event)).2
  opens hbefore hafter := by
    cases event with
    | loopStart elapsed => exact absurd (hbefore.symm.trans hafter) (by decide)
    | configure bitrate => exact absurd (hbefore.symm.trans hafter) (by decide)
    | activate elapsed delay =>
        rcases step_activate_cases node elapsed delay with hignored | ⟨-, -, haccepted⟩
        · rw [hignored] at hafter
          exact absurd (hbefore.symm.trans hafter) (by decide)
        · rw [haccepted] at hafter
          exact absurd ((txEnabled_setTxEnabled_false node.app).symm.trans hafter) (by decide)
    | process times answers => exact .inr ⟨trivial, opens_process h hfits hbefore hafter⟩
    | communicationReset elapsed answers => exact .inl trivial
  reprograms hprocess hattempts := by
    cases event with
    | process times answers => exact reprograms_process h hfits hattempts
    | _ => contradiction
  fails hprocess hlost := by
    cases event with
    | process times answers => exact fails_process hlost
    | _ => contradiction
  failed hfailed hreset := by
    obtain ⟨hstate, htx⟩ := app_step_of_failed hfailed hreset
    exact ⟨hstate, htx.trans (h.closed (by rw [hfailed]; decide))⟩
  ignored hactivate hbusy := by
    cases event with
    | activate elapsed delay =>
        rcases step_activate_cases node elapsed delay with hignored | ⟨hidle, -⟩
        · rw [hignored]
        · exact absurd hidle hbusy
    | _ => contradiction

/-- Every run from power-on whose process calls use stamps that fit is safe at
every step. -/
theorem bitrateActivation_of_run (bitrate programmed : BitVec 16) (clock : Nat)
    (events : List Event)
    (hfits : EveryStep step StampFits (powerOn bitrate programmed clock) events) :
    EveryStep step ActivationSafe (powerOn bitrate programmed clock) events := by
  refine everyStep_of_invariant ?_ ?_ (inv_powerOn bitrate programmed clock) hfits
  · intro node event h _
    exact inv_step h event
  · intro node event h hevent
    exact activationSafe h hevent

/-- Start-up, a configured bitrate, an activation with 10 ms, and a process call that
the switch keeps busy for `busy` ms, followed by one that starts `rest` ms later. -/
def activationRun (busy rest : Nat) : List Event :=
  [.communicationReset 0 { newStack := true, canInit := true, lssInit := true, remaining := true },
    .configure 500, .loopStart 0, .activate 0 10, .loopStart 10,
    .process { untilSwitch := busy, untilOpen := 0, untilEnd := 0 }
      { lock := true, switch := ⟨true, true⟩, rollback := ⟨true, true⟩ },
    .loopStart rest,
    .process { untilSwitch := 0, untilOpen := 0, untilEnd := 0 }
      { lock := true, switch := ⟨true, true⟩, rollback := ⟨true, true⟩ }]

/-- The switch takes effect 15 ms after the sample: the gate opens with it. -/
theorem bitrateActivation_lateSwitch :
    ¬ EveryStep step ActivationSafe (powerOn 125 125 0) (activationRun 15 0) := by
  rintro ⟨-, -, -, -, -, -, -, hlast, -⟩
  rcases hlast.opens (by decide +kernel) (by decide +kernel) with hreset | ⟨-, hrolled | hdelay⟩
  · exact hreset
  · obtain ⟨target, previous, hattempts⟩ := hrolled
    have hlength : _ = 2 := congrArg List.length hattempts
    exact absurd hlength (by decide +kernel)
  · exact absurd hdelay (by decide +kernel)

/-- The switch takes effect 5 ms after the sample, and the next loop starts late enough. -/
theorem bitrateActivation_lateLoop :
    EveryStep step ActivationSafe (powerOn 125 125 0) (activationRun 5 10) :=
  bitrateActivation_of_run 125 125 0 (activationRun 5 10)
    ⟨trivial, trivial, trivial, trivial, trivial,
      ⟨fun _ => by decide +kernel, fun h => absurd h (by decide +kernel)⟩, trivial,
      ⟨fun h => absurd h (by decide +kernel), fun _ _ => by decide +kernel⟩, trivial⟩

end Node

end CanopenRtt.App
