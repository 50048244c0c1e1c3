import CanopenRtt.Cia402.RemoteLoop
/-!
# Runs of a client behind SDO

The Device stays on the command path whatever the transfers do, and reaches the target when they do
not fail for ever.
-/

namespace CanopenRtt.Cia402

open CanopenRtt.Support CanopenRtt.Profile Controller Device

/-! ## What a call that goes through does -/

theorem Fate.done {controlword after : Word} {update : ControlwordUpdate} {valid : Bool}
    (h : Fate controlword update true valid after) :
    valid = false ∧ after = applyControlwordUpdate controlword update := by
  cases h with
  | kept hdone => exact absurd hdone.symm Bool.false_ne_true
  | lost hdone => exact absurd hdone.symm Bool.false_ne_true
  | confirmed => exact ⟨rfl, rfl⟩

theorem Transfers.done_iff {transfers : Transfers} : transfers.isDone = true ↔
    transfers.statusword.isDone = true ∧
      (transfers.controlword.isDone && transfers.delivery.isDone) = true := by
  unfold Transfers.isDone
  simp only [Bool.and_eq_true, and_assoc]

theorem Called.completes {remote : Remote} {transfers : Transfers} {after : Client}
    {controlword : Word} (h : Called remote transfers after controlword)
    (hdone : transfers.isDone = true) (hvalid : remote.client.pendingUpdateValid = true) :
    after.pendingUpdateValid = false ∧
      controlword = applyControlwordUpdate remote.controlword remote.client.pendingUpdate := by
  cases h with
  | idle _ hnone => exact absurd (hnone.symm.trans hvalid) Bool.false_ne_true
  | retried _ _ _ _ hfate _ =>
      rw [(Transfers.done_iff.mp hdone).2] at hfate
      exact hfate.done
  | stepped _ _ _ hnone => exact absurd (hnone.symm.trans hvalid) Bool.false_ne_true

theorem Called.observes {remote : Remote} {transfers : Transfers} {after : Client}
    {controlword : Word} (h : Called remote transfers after controlword)
    (hdone : transfers.isDone = true) (hvalid : remote.client.pendingUpdateValid = false) :
    after.pendingUpdateValid = false ∧ ∃ elapsed, after.controller =
      (Controller.process remote.client.controller
        { statuswordValid := true, statusword := remote.device.image.statusword } elapsed).1 := by
  obtain ⟨hstatusword, hrest⟩ := Transfers.done_iff.mp hdone
  cases h with
  | idle _ _ hfailed => exact absurd (hfailed.symm.trans hstatusword) Bool.false_ne_true
  | retried _ _ hsome => exact absurd (hvalid.symm.trans hsome) Bool.false_ne_true
  | stepped feedback elapsed _ _ hfeedback hprocess hcontroller hafter =>
      have hread : feedback =
          { statuswordValid := true, statusword := remote.device.image.statusword } :=
        hfeedback.resolve_right fun hfailed =>
          absurd (hfailed.1.symm.trans hstatusword) Bool.false_ne_true
      rw [hread] at hprocess
      refine ⟨?_, elapsed, ?_⟩
      · rcases hafter with ⟨-, hnone, -⟩ | ⟨-, hfate, -⟩
        · exact hnone
        · rw [hrest] at hfate
          exact hfate.done.1
      · rw [hcontroller, hprocess]

/-! ## Every run -/

namespace Remote

/-- The start: a target is set, nothing is under way, and 0x6040 asks for no transition, or for the
next one of the path. -/
structure Rests (remote : Remote) (target : Target) : Prop where
  configured : Configured remote.client
  targetValid : remote.client.controller.targetValid = true
  aim : remote.client.controller.target = target
  low : remote.client.controller.faultResetPulseHigh = false
  view : remote.client.controller.view = none
  pending : remote.client.pendingUpdateValid = false
  idle : remote.device.pdsTransitionOperation = none
  normal : remote.device.state.faulted = false
  quiet : acceptedTransition (settled remote.device.state) (pdsCommand remote.controlword) = none ∨
    pdsCommand remote.controlword = (commandForTarget (settled remote.device.state) target).1
  shown : decodeStatusword remote.device.image.statusword = remote.device.state

/-- What holds after every clean run, whatever the transfers do. -/
structure Law (target : Target) (start : State) (remote : Remote) : Prop where
  /-- the Device is on the command path -/
  path : ∃ n, n ≤ distance target start ∧ remote.device.state = pathAt target start n
  /-- the Controller is at most one transition behind -/
  behind : ∀ state, remote.client.controller.view = some state → state ≠ .notReadyToSwitchOn →
    remote.device.state = state ∨ remote.device.state = pathNext target state
  /-- a step moves the Device on along the path, or not at all -/
  onward : ∀ input, remote.Clean input → ∃ n,
    (remote.step input).device.state = (pathNext target)^[n] remote.device.state ∧
      distance target (remote.step input).device.state + n = distance target remote.device.state
  /-- a call that goes through completes the pending update -/
  completes : ∀ timeDifference transfers, transfers.isDone = true →
    remote.client.pendingUpdateValid = true →
      (remote.step (.call timeDifference transfers)).client.pendingUpdateValid = false ∧
        (remote.step (.call timeDifference transfers)).controlword =
          applyControlwordUpdate remote.controlword remote.client.pendingUpdate
  /-- with nothing pending it observes the Device, and leaves the command for it in 0x6040 -/
  leads : ∀ timeDifference transfers, remote.Clean (.call timeDifference transfers) →
    transfers.isDone = true → remote.client.pendingUpdateValid = false →
    remote.device.state ≠ .notReadyToSwitchOn → remote.device.state ≠ targetState target →
      (remote.step (.call timeDifference transfers)).client.pendingUpdateValid = false ∧
        (remote.step (.call timeDifference transfers)).client.controller.view =
          some remote.device.state ∧
        pdsCommand (remote.step (.call timeDifference transfers)).controlword =
          (commandForTarget remote.device.state target).1
  /-- under the command for its state an idle Device goes on -/
  served : ∀ inputs, remote.CleanPass inputs →
    pdsCommand remote.controlword = (commandForTarget remote.device.state target).1 →
    remote.device.state ≠ .notReadyToSwitchOn → remote.device.state ≠ targetState target →
    ¬ remote.device.control.Owned →
      (remote.pass inputs).device.state = pathNext target remote.device.state ∨
        (remote.pass inputs).device.state = remote.device.state ∧
          (remote.pass inputs).device.pdsTransitionTargetState =
            pathNext target remote.device.state

/-- The client reaches its axis, and some loop on the path stands behind the two. -/
structure Inv (target : Target) (start : State) (remote : Remote) : Prop where
  configured : Configured remote.client
  tracked : ∃ loop c, Simulates remote loop ∧ Tracks target start loop c

/-- The loop of a start. -/
def loop (remote : Remote) : Loop where
  controller := remote.client.controller
  device := remote.device
  controlword := remote.controlword
  updates := []
  applied := 0
  statuswords := [remote.device.image.statusword]
  observed := 0

section

variable {target : Target} {start : State} {remote : Remote} {loop : Loop} {c : Conveyor}

theorem loop_rests (h : remote.Rests target) : remote.loop.Rests target := by
  refine ⟨h.targetValid, h.aim, h.low, h.view, h.idle, h.normal, h.quiet, rfl, rfl, ?_, rfl⟩
  exact congrArg (fun state => [state]) h.shown

theorem inv_of_rests (h : remote.Rests target) (hownership : remote.device.control.Ownership)
    (hbound : remote.device.Bound) : remote.Inv target remote.device.state := by
  refine ⟨h.configured, remote.loop, _, ⟨⟨rfl, rfl, rfl, h.shown⟩, rfl, ?_⟩,
    tracks_of_rests (loop_rests h) hownership hbound⟩
  rw [h.pending]
  exact .none rfl

variable (hstart : start.normal = true) (hopen : OpenPath target start)

include hstart hopen

theorem Inv.step (h : remote.Inv target start) {input : RemoteInput}
    (hclean : remote.Clean input) : (remote.step input).Inv target start := by
  obtain ⟨hconfigured, loop, c, hsimulates, htracks⟩ := h
  obtain ⟨after, c', -, hafter, hnext⟩ := hsimulates.step hstart hopen htracks hconfigured hclean
  refine ⟨?_, after, c', hnext, hafter⟩
  cases input with
  | call timeDifference transfers => exact configured_call hconfigured timeDifference _
  | pass inputs => exact hconfigured

theorem path_onward (h : Simulates remote loop) (htracks : Tracks target start loop c)
    {after : Remote} {next : Loop} {c' : Conveyor} (hafter : Simulates after next)
    (hnext : Tracks target start next c') (hextends : c.Extends c') :
    ∃ n, after.device.state = (pathNext target)^[n] remote.device.state ∧
      distance target after.device.state + n = distance target remote.device.state := by
  obtain ⟨n, hn⟩ := Nat.exists_eq_add_of_le hextends.position
  have hbefore := h.toMirrors.state htracks
  have hreached := hafter.toMirrors.state hnext
  refine ⟨n, ?_, ?_⟩
  · rw [hreached, hbefore, hn, pathAt, pathAt, Nat.add_comm, Function.iterate_add_apply]
  · have hdistance := distance_pathAt hstart hopen c.position htracks.reach
    have hdistanceAfter := distance_pathAt hstart hopen c'.position hnext.reach
    rw [hreached, hbefore]
    omega

omit hstart hopen in
/-- The order for the point that the Controller has seen is the newest one. -/
theorem leads_of_seen {loop : Loop} {c : Conveyor} (h : Tracks target start loop c)
    (happlied : loop.applied = loop.updates.length)
    (hview : loop.controller.view = some (pathAt target start c.seen)) (hbase : c.base ≤ c.seen)
    (hdistant : pathAt target start c.seen ≠ targetState target) :
    pdsCommand loop.controlword = (commandForTarget (pathAt target start c.seen) target).1 := by
  have hsent := h.sent hview hbase hdistant
  have hall : c.applied = c.sent.length := by
    rw [← h.applied, happlied]
    exact (List.forall₂_iff_get.mp h.updates).1
  have hreached : c.seen ≤ c.inForce := by
    apply Conveyor.le_inForce h.ordered.sent_sorted
    rw [hall, List.take_length]
    exact hsent
  have hlatest := h.ordered.inForce_le_seen hbase
  rcases h.command with hleads | ⟨hnone, -⟩
  · rw [Nat.le_antisymm hlatest hreached] at hleads
    exact hleads.2
  · have hlength := List.length_pos_of_mem hsent
    omega

omit hopen in
theorem observed_call (h : Simulates remote loop) (htracks : Tracks target start loop c)
    (hconfigured : Configured remote.client) {timeDifference : UInt32} {transfers : Transfers}
    (hdone : transfers.isDone = true) (hvalid : remote.client.pendingUpdateValid = false) :
    (remote.step (.call timeDifference transfers)).client.pendingUpdateValid = false ∧
      (remote.step (.call timeDifference transfers)).client.controller.view =
        some remote.device.state := by
  have hcalled := @called_outcome remote transfers hconfigured timeDifference
  obtain ⟨hnone, elapsed, hcontroller⟩ := hcalled.observes hdone hvalid
  refine ⟨hnone, ?_⟩
  have hread := h.toMirrors.read htracks
  obtain ⟨found, hlooked⟩ := htracks.look hstart (some (loop.statuswords.length - 1))
  have hsame := (htracks.sequenced hstart hlooked elapsed).view
  rw [hread, h.controller] at hsame
  have hshows : (Feedback.mk true remote.device.image.statusword).Shows remote.device.state := by
    refine ⟨rfl, h.fresh, ?_⟩
    rw [← h.device]
    exact htracks.ownership.known
  change (remote.outcome timeDifference transfers).client.controller.view = _
  rw [hcontroller, hsame]
  exact view_of_shows hshows elapsed

omit hstart hopen in
theorem base_le_seen (htracks : Tracks target start loop c)
    (hready : pathAt target start c.seen ≠ .notReadyToSwitchOn) : c.base ≤ c.seen := by
  by_contra hbefore
  rw [htracks.base, Nat.not_le] at hbefore
  exact hready (@notReady_of_lt target start _ hbefore).2.2.1

omit hstart hopen in
theorem behind_of_view (h : Simulates remote loop) (htracks : Tracks target start loop c)
    {state : State} (hview : remote.client.controller.view = some state)
    (hready : state ≠ .notReadyToSwitchOn) :
    remote.device.state = state ∨ remote.device.state = pathNext target state := by
  rw [← h.controller] at hview
  rcases htracks.view with ⟨hnone, -⟩ | hseen
  · exact absurd (hnone.symm.trans hview) (Option.some_ne_none _).symm
  · obtain rfl := Option.some.inj (hseen.symm.trans hview)
    have hforce := htracks.ordered.inForce_le_seen (base_le_seen htracks hready)
    have hlag := htracks.ordered.lag
    have hle := htracks.ordered.seen_le
    rw [h.toMirrors.state htracks]
    rcases Nat.eq_or_lt_of_le hle with hsame | hbehind
    · exact .inl (by rw [hsame])
    · have hnext : c.position = c.seen + 1 := by omega
      rw [hnext, pathAt_succ]
      exact .inr rfl

theorem leads_of_call (h : Simulates remote loop) (htracks : Tracks target start loop c)
    (hconfigured : Configured remote.client) {timeDifference : UInt32} {transfers : Transfers}
    (hclean : remote.Clean (.call timeDifference transfers)) (hdone : transfers.isDone = true)
    (hvalid : remote.client.pendingUpdateValid = false)
    (hready : remote.device.state ≠ .notReadyToSwitchOn)
    (hdistant : remote.device.state ≠ targetState target) :
    pdsCommand (remote.step (.call timeDifference transfers)).controlword =
      (commandForTarget remote.device.state target).1 := by
  obtain ⟨hnone, hview⟩ := @observed_call target start remote loop c hstart h htracks hconfigured
    timeDifference transfers hdone hvalid
  obtain ⟨after, c', hextends, hnext, hafter⟩ := h.step hstart hopen htracks hconfigured hclean
  have hpending := hafter.pending
  rw [hnone] at hpending
  rw [← hafter.controller] at hview
  have hseen := hnext.view.resolve_left fun hunseen =>
    absurd (hunseen.1.symm.trans hview) (Option.some_ne_none _).symm
  have hpoint : pathAt target start c'.seen = remote.device.state :=
    Option.some.inj (hseen.symm.trans hview)
  rw [← hpoint] at hready hdistant
  have hleads := leads_of_seen hnext hpending.applied_all hseen (base_le_seen hnext hready) hdistant
  rw [hpoint, hafter.controlword] at hleads
  exact hleads

theorem served_of_command (h : Simulates remote loop) (htracks : Tracks target start loop c)
    {inputs : PassInputs} (hclean : remote.CleanPass inputs)
    (hcommand : pdsCommand remote.controlword = (commandForTarget remote.device.state target).1)
    (hready : remote.device.state ≠ .notReadyToSwitchOn)
    (hdistant : remote.device.state ≠ targetState target)
    (hidle : ¬ remote.device.control.Owned) :
    (remote.pass inputs).device.state = pathNext target remote.device.state ∨
      (remote.pass inputs).device.state = remote.device.state ∧
        (remote.pass inputs).device.pdsTransitionTargetState =
          pathNext target remote.device.state := by
  have hstate := h.toMirrors.state htracks
  have hnormal : remote.device.state.normal = true := by
    rw [hstate]
    exact normal_pathAt hstart c.position
  have hunblocked : Unblocked target remote.device.state := by
    rw [hstate]
    exact hopen c.position
  have hunfaulted : remote.device.state.faulted = false := by
    rw [hstate]
    exact pathAt_unfaulted hstart c.position
  have hownership := htracks.ownership
  have hbound := htracks.bound
  rw [h.device] at hownership hbound
  have hfits := commandFits hnormal hready hdistant hunblocked
  rw [← hcommand] at hfits
  obtain ⟨op, haccepted⟩ := hfits.accepted
  exact (undisturbed_processAxis hownership hbound (fun _ => rfl) hunfaulted hclean).serves hidle
    haccepted

theorem Inv.law (h : remote.Inv target start) : remote.Law target start := by
  obtain ⟨hconfigured, loop, c, hsimulates, htracks⟩ := h
  constructor
  · exact ⟨c.position, htracks.reach, hsimulates.toMirrors.state htracks⟩
  · exact fun _ hview hready => behind_of_view hsimulates htracks hview hready
  · intro input hclean
    obtain ⟨after, c', hextends, hnext, hafter⟩ :=
      hsimulates.step hstart hopen htracks hconfigured hclean
    exact path_onward hstart hopen hsimulates htracks hafter hnext hextends
  · intro timeDifference transfers hdone hvalid
    exact (@called_outcome remote transfers hconfigured timeDifference).completes hdone hvalid
  · intro timeDifference transfers hclean hdone hvalid hready hdistant
    obtain ⟨hnone, hview⟩ := observed_call hstart hsimulates htracks hconfigured hdone hvalid
    exact ⟨hnone, hview,
      leads_of_call hstart hopen hsimulates htracks hconfigured hclean hdone hvalid hready hdistant⟩
  · intro inputs hclean hcommand hready hdistant hidle
    exact served_of_command hstart hopen hsimulates htracks hclean hcommand hready hdistant hidle

end

end Remote

/-! ## Every fair run -/

def RemoteInput.isDone : RemoteInput → Bool
  | .call _ transfers => transfers.isDone
  | .pass _ => false

namespace Remote

/-- The two after the first `n` inputs. -/
def after (start : Remote) (inputs : Nat → RemoteInput) (n : Nat) : Remote :=
  trajectory step start inputs n

/-- Transfers fail and callbacks are late, but not for ever: again and again two calls in a row go
through, the Device is processed between calls, and no callback is BUSY. -/
structure Fair (start : Remote) (inputs : Nat → RemoteInput) : Prop where
  rounds : ∀ n, ∃ m k, n ≤ m ∧ m < k ∧ (inputs m).isDone = true ∧ (inputs k).isDone = true ∧
    ∀ j, m < j → j < k → ∃ answers, inputs j = .pass answers
  passes : ∀ n, ∃ m, n ≤ m ∧ ∃ answers, inputs m = .pass answers
  freed : ∀ n, ∃ m, n ≤ m ∧ ¬ (start.after inputs m).device.control.Owned

/-- The loops behind a run. -/
structure Follows (target : Target) (origin : State) (start : Remote) (inputs : Nat → RemoteInput)
    (loop : Nat → Loop) (c : Nat → Conveyor) : Prop where
  configured : ∀ n, Configured (start.after inputs n).client
  simulates : ∀ n, Simulates (start.after inputs n) (loop n)
  tracks : ∀ n, Tracks target origin (loop n) (c n)
  grows : ∀ n, (c n).Extends (c (n + 1))

section

variable {target : Target} {origin : State} {start : Remote} {inputs : Nat → RemoteInput}
  {loop : Nat → Loop} {c : Nat → Conveyor}

theorem after_succ (n : Nat) :
    start.after inputs (n + 1) = (start.after inputs n).step (inputs n) := rfl

theorem exists_follows (hnormal : origin.normal = true) (hopen : OpenPath target origin)
    (hinv : start.Inv target origin) (hclean : ∀ n, (start.after inputs n).Clean (inputs n)) :
    ∃ loop c, Follows target origin start inputs loop c := by
  obtain ⟨hconfigured, first, c, hsimulates, htracks⟩ := hinv
  have hstep : ∀ n (t : Loop × Conveyor), (Configured (start.after inputs n).client ∧
      Simulates (start.after inputs n) t.1 ∧ Tracks target origin t.1 t.2) →
      ∃ t' : Loop × Conveyor, t.2.Extends t'.2 ∧ Configured (start.after inputs (n + 1)).client ∧
        Simulates (start.after inputs (n + 1)) t'.1 ∧ Tracks target origin t'.1 t'.2 := by
    rintro n ⟨loop, c⟩ ⟨hreaches, h, hloop⟩
    obtain ⟨next, c', hextends, hnext, hafter⟩ :=
      h.step hnormal hopen hloop hreaches (hclean n)
    have hinv : (start.after inputs n).Inv target origin := ⟨hreaches, loop, c, h, hloop⟩
    exact ⟨(next, c'), hextends, (hinv.step hnormal hopen (hclean n)).configured, hafter, hnext⟩
  obtain ⟨follow, hfollow, hmove⟩ := @exists_simulation _ _ (start.after inputs)
    (fun remote (t : Loop × Conveyor) =>
      Configured remote.client ∧ Simulates remote t.1 ∧ Tracks target origin t.1 t.2)
    (fun t t' => t.2.Extends t'.2) hstep (first, c) ⟨hconfigured, hsimulates, htracks⟩
  exact ⟨fun n => (follow n).1, fun n => (follow n).2, fun n => (hfollow n).1,
    fun n => (hfollow n).2.1, fun n => (hfollow n).2.2, hmove⟩

theorem Follows.state (h : Follows target origin start inputs loop c) (n : Nat) :
    (start.after inputs n).device.state = pathAt target origin (c n).position :=
  (h.simulates n).toMirrors.state (h.tracks n)

theorem Follows.none_pending (h : Follows target origin start inputs loop c) {n : Nat}
    (hdone : (inputs n).isDone = true) :
    (start.after inputs (n + 1)).client.pendingUpdateValid = false := by
  rw [after_succ]
  cases hinput : inputs n with
  | call timeDifference transfers =>
      rw [hinput] at hdone
      have hcalled := @called_outcome _ transfers (h.configured n) timeDifference
      cases hvalid : (start.after inputs n).client.pendingUpdateValid with
      | true => exact (hcalled.completes hdone hvalid).1
      | false => exact (hcalled.observes hdone hvalid).1
  | pass answers =>
      rw [hinput] at hdone
      exact absurd hdone Bool.false_ne_true

theorem Follows.exists_quiet (h : Follows target origin start inputs loop c)
    (hfair : Fair start inputs) (n : Nat) : ∃ k, n ≤ k ∧ (inputs k).isDone = true ∧
      (start.after inputs k).client.pendingUpdateValid = false := by
  obtain ⟨m, k, hm, hk, hfirst, hsecond, hbetween⟩ := hfair.rounds n
  refine ⟨k, by omega, hsecond, ?_⟩
  have hquiet : ∀ j, m + 1 ≤ j → j ≤ k →
      (start.after inputs j).client.pendingUpdateValid = false := by
    intro j hj
    induction j, hj using Nat.le_induction with
    | base => exact fun _ => h.none_pending hfirst
    | succ j hj ih =>
        intro hle
        obtain ⟨answers, hpass⟩ := hbetween j (by omega) (by omega)
        rw [after_succ, hpass]
        exact ih (by omega)
  exact hquiet k (by omega) le_rfl

/-- Where the Device stands when such a call goes through is what the Controller sees, and all its
orders are applied. -/
theorem Follows.seen (h : Follows target origin start inputs loop c)
    (hnormal : origin.normal = true) (hopen : OpenPath target origin) {k : Nat}
    (hdone : (inputs k).isDone = true)
    (hquiet : (start.after inputs k).client.pendingUpdateValid = false) :
    (start.after inputs (k + 1)).client.controller.view =
        some (start.after inputs k).device.state ∧
      (c (k + 1)).seen = (c k).position ∧ (loop (k + 1)).applied = (loop (k + 1)).updates.length ∧
      (loop (k + 1)).controller.view = some (pathAt target origin (c (k + 1)).seen) := by
  obtain ⟨timeDifference, transfers, hinput⟩ : ∃ timeDifference transfers,
      inputs k = .call timeDifference transfers := by
    cases hinput : inputs k with
    | call timeDifference transfers => exact ⟨timeDifference, transfers, rfl⟩
    | pass answers =>
        rw [hinput] at hdone
        exact absurd hdone Bool.false_ne_true
  have hthrough : transfers.isDone = true := by
    rw [hinput] at hdone
    exact hdone
  have hobserved := @observed_call target origin _ _ _ hnormal (h.simulates k) (h.tracks k)
    (h.configured k) timeDifference transfers hthrough hquiet
  rw [← hinput, ← after_succ] at hobserved
  obtain ⟨hnone, hview⟩ := hobserved
  have hpending := (h.simulates (k + 1)).pending
  rw [hnone] at hpending
  have hloop := hview
  rw [← (h.simulates (k + 1)).controller] at hloop
  have hseen := (h.tracks (k + 1)).view.resolve_left fun hunseen =>
    absurd (hunseen.1.symm.trans hloop) (Option.some_ne_none _).symm
  have hpoint : pathAt target origin (c (k + 1)).seen = pathAt target origin (c k).position := by
    rw [← h.state k]
    exact Option.some.inj (hseen.symm.trans hloop)
  have hsame := pathAt_injective hnormal hopen
    ((h.tracks (k + 1)).ordered.seen_le.trans (h.tracks (k + 1)).reach) (h.tracks k).reach hpoint
  exact ⟨hview, hsame, hpending.applied_all, hseen⟩

/-- Once the Device stands still short of the target, its order comes into force. -/
theorem Follows.leads (h : Follows target origin start inputs loop c)
    (hnormal : origin.normal = true) (hopen : OpenPath target origin) (hfair : Fair start inputs)
    {n point : Nat} (hstill : ∀ m, n ≤ m → (c m).position = point)
    (hbase : firstPoint origin ≤ point) (hshort : point < distance target origin) :
    ∃ m, n ≤ m ∧ ∀ k, m ≤ k → Leads target origin (start.after inputs k).controlword point := by
  have hdistant : pathAt target origin point ≠ targetState target :=
    fun hreached => hshort.ne ((pathAt_eq_target_iff hnormal hopen hshort.le).mp hreached)
  obtain ⟨k, hk, hdone, hquiet⟩ := h.exists_quiet hfair n
  obtain ⟨-, hseen, happlied, hview⟩ := h.seen hnormal hopen hdone hquiet
  rw [hstill k hk] at hseen
  have hsent : point ∈ (c (k + 1)).sent := by
    rw [← hseen]
    apply (h.tracks (k + 1)).sent hview
    · rw [(h.tracks (k + 1)).base, hseen]
      exact hbase
    · rw [hseen]
      exact hdistant
  have hall : (c (k + 1)).applied = (c (k + 1)).sent.length := by
    rw [← (h.tracks (k + 1)).applied, happlied]
    exact (List.forall₂_iff_get.mp (h.tracks (k + 1)).updates).1
  refine ⟨k + 1, by omega, fun j hj => ?_⟩
  have hlater := Conveyor.extends_of_le h.grows hj
  have htaken := hall ▸ hlater.applied
  have hpositive := List.length_pos_of_mem hsent
  have hreached : point ≤ (c j).inForce :=
    Conveyor.le_inForce (h.tracks j).ordered.sent_sorted
      ((List.prefix_take_iff.mpr ⟨hlater.sent, htaken⟩).subset hsent)
  have hposition := hstill j (by omega)
  have hlatest := (h.tracks j).inForce_le (by rw [(h.tracks j).base, hposition]; exact hbase)
  rw [← (h.simulates j).controlword]
  rcases (h.tracks j).command with hleads | ⟨hnone, -⟩
  · rw [show (c j).inForce = point by omega] at hleads
    exact hleads
  · omega

theorem owner_passes (hnormal : origin.normal = true) (hopen : OpenPath target origin)
    {remote : Remote} {loop : Loop} {c : Conveyor} (hmirrors : Mirrors remote loop)
    (htracks : Tracks target origin loop c) {passes : List PassInputs}
    (hclean : EveryStep pass CleanPass remote passes)
    (hstays : (run pass remote passes).device.state = remote.device.state) {next : State}
    (hfits : CommandFits remote.device.state next (pdsCommand remote.controlword))
    (hdiffers : remote.device.state ≠ next)
    (hready : remote.device.state ≠ .notReadyToSwitchOn) {Q : Device.Axis → Prop}
    (hleads : ∀ axis, Q axis → ¬ axis.control.Owned ∨ axis.pdsTransitionTargetState = next)
    (hlatched : ∀ axis : Device.Axis, axis.pdsTransitionTargetState = next → Q axis)
    (howner : Q remote.device) : Q (run pass remote passes).device := by
  induction passes generalizing remote loop c with
  | nil => exact howner
  | cons answers passes ih =>
      obtain ⟨c₁, hextends, hafter, hnext⟩ := hmirrors.pass hnormal hopen htracks hclean.1
      obtain ⟨last, c', hmore, hlast, hfinal, -⟩ := hnext.passes hnormal hopen hafter hclean.2
      have hbefore := hmirrors.state htracks
      have hpassed := hnext.state hafter
      have hended : (run pass remote (answers :: passes)).device.state =
          pathAt target origin c'.position := hfinal.state hlast
      have hsame := pathAt_injective hnormal hopen hlast.reach htracks.reach
        (hended.symm.trans (hstays.trans hbefore))
      have hfirst := hextends.position
      have hsecond := hmore.position
      have hstate : (remote.pass answers).device.state = remote.device.state := by
        rw [hpassed, hbefore, show c₁.position = c.position by omega]
      have hownership := htracks.ownership
      have hbound := htracks.bound
      rw [hmirrors.device] at hownership hbound
      have hunfaulted : remote.device.state.faulted = false := by
        rw [hbefore]
        exact pathAt_unfaulted hnormal c.position
      have howned := @owner_pass _ { answers with
          controlword := fun _ => some remote.controlword, setStatusword := true } _ _ hownership
        hbound (fun _ => rfl) hunfaulted hfits hdiffers hready hstate (hleads _ howner)
      apply ih hnext hafter hclean.2 (hstays.trans hstate.symm)
      · rw [hstate]
        exact hfits
      · rw [hstate]
        exact hdiffers
      · rw [hstate]
        exact hready
      · exact hlatched _ howned

/-- The passes of an input. -/
def passesOf : RemoteInput → List PassInputs
  | .call _ transfers => transfers.passes
  | .pass inputs => [inputs]

theorem device_step (remote : Remote) (input : RemoteInput) :
    (remote.step input).device = (run pass remote (passesOf input)).device := by
  cases input <;> rfl

theorem clean_passes {remote : Remote} {input : RemoteInput} (h : remote.Clean input) :
    EveryStep pass CleanPass remote (passesOf input) := by
  cases input with
  | call timeDifference transfers => exact h
  | pass inputs => exact ⟨h, trivial⟩

theorem Follows.not_still (h : Follows target origin start inputs loop c)
    (hnormal : origin.normal = true) (hopen : OpenPath target origin)
    (hclean : ∀ n, (start.after inputs n).Clean (inputs n)) (hfair : Fair start inputs)
    {n point : Nat} (hshort : point < distance target origin) :
    ¬ ∀ m, n ≤ m → (c m).position = point := by
  intro hstill
  have hstate : ∀ k, n ≤ k → (start.after inputs k).device.state = pathAt target origin point := by
    intro k hk
    rw [h.state k, hstill k hk]
  have hdiffers : pathAt target origin point ≠ pathAt target origin (point + 1) := by
    intro heq
    have := pathAt_injective hnormal hopen hshort.le hshort heq
    omega
  by_cases hbase : firstPoint origin ≤ point
  · obtain ⟨leads, hn, hleads⟩ := h.leads hnormal hopen hfair hstill hbase hshort
    have hready := @ready_of_firstPoint target origin hnormal point hbase
    have hfits : ∀ k, leads ≤ k → CommandFits (start.after inputs k).device.state
        (pathAt target origin (point + 1)) (pdsCommand (start.after inputs k).controlword) := by
      intro k hk
      rw [hstate k (by omega), ← (h.simulates k).controlword]
      apply (h.tracks k).fits hnormal hopen
      · rw [(h.tracks k).base]
        exact hbase
      · rw [(h.simulates k).controlword]
        exact hleads k hk
    have hkeeps : ∀ {Q : Device.Axis → Prop}, (∀ axis, Q axis → ¬ axis.control.Owned ∨
          axis.pdsTransitionTargetState = pathAt target origin (point + 1)) →
        (∀ axis : Device.Axis, axis.pdsTransitionTargetState = pathAt target origin (point + 1) →
          Q axis) → ∀ k, leads ≤ k → Q (start.after inputs k).device →
        Q (start.after inputs (k + 1)).device := by
      intro Q hsome hlatched k hk howner
      have hnow := hstate k (by omega)
      have hafter := hstate (k + 1) (by omega)
      rw [after_succ, device_step] at hafter ⊢
      exact owner_passes hnormal hopen (h.simulates k).toMirrors (h.tracks k)
        (clean_passes (hclean k)) (hafter.trans hnow.symm) (hfits k hk)
        (by rw [hnow]; exact hdiffers) (by rw [hnow]; exact hready) hsome hlatched howner
    refine @not_held_for_ever (fun k => ¬ (start.after inputs k).device.control.Owned)
      (fun k => (start.after inputs k).device.pdsTransitionTargetState =
        pathAt target origin (point + 1))
      (fun k => ∃ answers, inputs k = .pass answers) leads ?_ ?_ ?_ hfair.passes hfair.freed ?_
    · intro k hk hwaits
      exact @hkeeps (fun axis => ¬ axis.control.Owned ∨
        axis.pdsTransitionTargetState = pathAt target origin (point + 1)) (fun _ => id)
        (fun _ => .inr) k hk hwaits
    · intro k hk hheld
      exact @hkeeps (fun axis => axis.pdsTransitionTargetState =
        pathAt target origin (point + 1)) (fun _ => .inr) (fun _ => id) k hk hheld
    · rintro k hk ⟨answers, hinput⟩ hwaits
      have hownership := (h.tracks k).ownership
      have hbound := (h.tracks k).bound
      rw [(h.simulates k).device] at hownership hbound
      have hnow := hstate k (by omega)
      have hafter := hstate (k + 1) (by omega)
      rw [after_succ, hinput] at hafter ⊢
      refine owner_pass hownership hbound (fun _ => rfl) ?_ (hfits k hk)
        ?_ ?_ (hafter.trans hnow.symm)
        hwaits
      · rw [hnow]
        exact pathAt_unfaulted hnormal point
      · rw [hnow]
        exact hdiffers
      · rw [hnow]
        exact hready
    · intro k hheld hfree
      have hownership := (h.tracks k).ownership
      rw [(h.simulates k).device] at hownership
      exact hfree (owned_of_target hnormal hownership hheld)
  · -- a Device that is not ready leaves that state in its first pass
    obtain ⟨pass, hpass, answers, hinput⟩ := hfair.passes n
    obtain ⟨-, -, hnotReady, -⟩ := @notReady_of_lt target _ _ (Nat.lt_of_not_le hbase)
    have hnow := hstate pass hpass
    have hafter := hstate (pass + 1) (by omega)
    rw [hnotReady] at hnow hafter
    have hownership := (h.tracks pass).ownership
    have hbound := (h.tracks pass).bound
    have hidle : ¬ (loop pass).device.control.Owned := by
      intro howned
      have hreached := (h.tracks pass).base_le_of_owned howned
      rw [(h.tracks pass).base, hstill pass hpass] at hreached
      exact hbase hreached
    rw [(h.simulates pass).device] at hownership hbound hidle
    rw [after_succ, hinput] at hafter
    have hmove := @undisturbed_processAxis { answers with
        controlword := fun _ => some (start.after inputs pass).controlword, setStatusword := true }
      _ _ hownership hbound (fun _ => rfl) (by rw [hnow]; rfl)
      (by rw [show (processAxis _ _).state = _ from hafter]; rfl)
    have hpowered := hmove.powersUp hidle hnow
    exact absurd (hpowered.symm.trans hafter) (by decide)

theorem seen_step (hnormal : origin.normal = true) {remote : Remote} {loop : Loop} {c : Conveyor}
    (h : Simulates remote loop) (htracks : Tracks target origin loop c)
    (hconfigured : Configured remote.client) (input : RemoteInput) :
    (remote.step input).client.controller.view = remote.client.controller.view ∨
      (remote.step input).client.controller.view = some remote.device.state := by
  cases input with
  | pass answers => exact .inl rfl
  | call timeDifference transfers =>
      have hcalled := @called_outcome remote transfers hconfigured timeDifference
      change (remote.outcome timeDifference transfers).client.controller.view = _ ∨
        (remote.outcome timeDifference transfers).client.controller.view = _
      generalize remote.delivered (remote.outcome timeDifference transfers) transfers.delivery =
        controlword at hcalled
      cases hcalled with
      | idle age _ _ hcontroller =>
          rw [hcontroller]
          exact .inl rfl
      | retried age _ _ hcontroller =>
          rw [hcontroller]
          exact .inl rfl
      | stepped feedback elapsed _ _ hfeedback hprocess hcontroller =>
          obtain ⟨index, hindex⟩ := h.toMirrors.exists_read htracks hfeedback
          obtain ⟨found, hlooked⟩ := htracks.look hnormal index
          have hsame := (htracks.sequenced hnormal hlooked elapsed).view
          rw [hindex, h.controller, hprocess] at hsame
          rw [hcontroller, hsame]
          rcases hfeedback with rfl | ⟨-, rfl⟩
          · right
            apply view_of_shows
            refine ⟨rfl, h.fresh, ?_⟩
            rw [← h.device]
            exact htracks.ownership.known
          · left
            rw [view_observe, if_neg Bool.false_ne_true]

/-- A fair clean run ends at the target, and the Controller sees it. -/
theorem Follows.arrives (h : Follows target origin start inputs loop c)
    (hnormal : origin.normal = true) (hopen : OpenPath target origin)
    (hclean : ∀ n, (start.after inputs n).Clean (inputs n)) (hfair : Fair start inputs) :
    ∃ n, ∀ m, n ≤ m → (start.after inputs m).device.state = targetState target ∧
      (start.after inputs m).client.controller.view = some (targetState target) := by
  have hprogress : ∀ k, (c k).position < distance target origin →
      ∃ m, k ≤ m ∧ (c k).position < (c m).position := by
    intro k hshort
    by_contra hnone
    apply h.not_still hnormal hopen hclean hfair hshort
    intro m hm
    have hgrown := (Conveyor.extends_of_le h.grows hm).position
    have hle : (c m).position ≤ (c k).position :=
      Nat.le_of_not_lt fun hlt => hnone ⟨m, hm, hlt⟩
    exact Nat.le_antisymm hle hgrown
  obtain ⟨n, hn⟩ := @eventually_eq_of_progress (fun n => (c n).position) _
    (fun k => (h.grows k).position) (fun k => (h.tracks k).reach) hprogress
  have hstate : ∀ m, n ≤ m → (start.after inputs m).device.state = targetState target := by
    intro m hm
    rw [h.state m, show (c m).position = distance target origin from hn m hm]
    exact (pathAt_eq_target_iff hnormal hopen le_rfl).mpr rfl
  obtain ⟨k, hk, hdone, hquiet⟩ := h.exists_quiet hfair n
  refine ⟨k + 1, fun m hm => ⟨hstate m (by omega), ?_⟩⟩
  induction m, hm using Nat.le_induction with
  | base =>
      rw [(h.seen hnormal hopen hdone hquiet).1, hstate k hk]
  | succ m hm ih =>
      rw [after_succ]
      rcases seen_step hnormal (h.simulates m) (h.tracks m) (h.configured m) (inputs m) with
        hsame | hshown
      · rw [hsame]
        exact ih
      · rw [hshown, hstate m (by omega)]

end

/-! ## The whole composition -/

/-- On its path in every clean run, and at its target in every fair one. -/
structure Converges (target : Target) (start : Remote) : Prop where
  law : ∀ inputs, EveryStep step Clean start inputs →
    (run step start inputs).Law target start.device.state
  reached : ∀ inputs : Nat → RemoteInput, (∀ n, (start.after inputs n).Clean (inputs n)) →
    Fair start inputs →
      ∃ n, ∀ m, n ≤ m → (start.after inputs m).device.state = targetState target ∧
        (start.after inputs m).client.controller.view = some (targetState target)

/-- A client behind lossy SDO transfers converges with one axis of a reachable Device. -/
theorem converges_of_lossyTransfers {manager : Manager} (hreachable : Reachable manager)
    (hbound : manager.odBound = true) {start : Remote} (hmem : start.device ∈ manager.axes)
    {target : Target} (hrests : start.Rests target)
    (hopen : OpenPath target start.device.state) : start.Converges target := by
  have hownership := (hreachable.axisReachable _ hmem).ownership
  have hnormal := normal_of_rests (loop_rests hrests) hownership
  have hinv := inv_of_rests hrests hownership (hreachable.bound hbound _ hmem)
  constructor
  · intro inputs hclean
    have hstep : ∀ remote input, Inv target start.device.state remote → remote.Clean input →
        (remote.step input).Inv target start.device.state :=
      fun _ _ h hinput => h.step hnormal hopen hinput
    exact (run_invariant_of_everyStep hstep hinv hclean).law hnormal hopen
  · intro inputs hclean hfair
    obtain ⟨loop, c, hfollows⟩ := exists_follows hnormal hopen hinv hclean
    exact hfollows.arrives hnormal hopen hclean hfair

/-- A client that is to enable the axis. -/
def enabling (axis : Device.Axis) : Remote where
  client :=
    { transport := ⟨true, true⟩, controller := (setTarget (Controller.init ⟨1000, 1000⟩) 3).1
      nodeId := 1, logicalDevice := 0, initialized := true }
  device := axis
  controlword := 0

def through : Transfers := ⟨.done, .done, [], .done⟩

/-- The download has reached 0x6040, but its answer is lost. -/
def unconfirmed : Transfers :=
  ⟨.done, .done, [], .failed { call := okCall, transfer := clearedTransfer } rfl true⟩

/-- The Shutdown is written twice. -/
def lossyInputs : List RemoteInput :=
  [.pass {}, .call 1 unconfirmed, .pass {}, .call 1 through, .call 1 through, .pass {},
    .call 1 through, .pass {}]

theorem converges_of_lossyInputs :
    ∃ axis ∈ cyclicManager.axes, (enabling axis).Converges .operationEnabled ∧
      (run step (enabling axis) lossyInputs).device.state = .operationEnabled := by
  have hstates : ∀ axis ∈ cyclicManager.axes, axis.state = .notReadyToSwitchOn ∧
      axis.pdsTransitionOperation = none ∧
      decodeStatusword axis.image.statusword = .notReadyToSwitchOn ∧
      (run step (enabling axis) lossyInputs).device.state = .operationEnabled := by decide +kernel
  obtain ⟨axis, hmem⟩ : ∃ axis, axis ∈ cyclicManager.axes :=
    List.exists_mem_of_ne_nil _ (by decide +kernel)
  obtain ⟨hstate, hidle, hshown, hrun⟩ := hstates axis hmem
  refine ⟨axis, hmem, ?_, hrun⟩
  apply converges_of_lossyTransfers reachable_cyclicManager (by decide +kernel) hmem
  · have hnode : 1 ≠ 0 ∧ 1 ≤ 127 := by decide
    refine ⟨⟨rfl, rfl, rfl, hnode, rfl⟩, rfl, rfl, rfl, rfl, rfl, hidle, ?_, ?_, ?_⟩
    · simp only [enabling, hstate]
      decide
    · simp only [enabling, hstate]
      decide
    · exact hshown.trans hstate.symm
  · simp only [enabling, hstate]
    exact @openPath_of_reached _ _ 4 (by decide) (by decide)

end Remote

end CanopenRtt.Cia402
