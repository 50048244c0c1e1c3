import CanopenRtt.Support.Trajectory
import CanopenRtt.Cia402.ClosedLoop
/-!
# The closed loop converges

A loop that starts at rest keeps its Device on the command path under any order
of steps, and reaches the target when reads, updates and callbacks are late but
not lost.
-/

namespace CanopenRtt.Cia402

open CanopenRtt.Support Controller Device

/-! ## The loop at rest -/

/-- The conveyor of a loop in which nothing has been sent. -/
def restConveyor (start : State) : Conveyor where
  base := firstPoint start
  sent := []
  applied := 0
  shown := [0]
  observed := 0
  position := 0

theorem restConveyor_ordered (start : State) : (restConveyor start).Ordered where
  sent_sorted := List.Pairwise.nil
  shown_sorted := List.pairwise_singleton _ _
  sent_le := fun _ hsent => absurd hsent List.not_mem_nil
  shown_le := fun _ hshown => (List.mem_singleton.mp hshown).le
  observed_lt := Nat.zero_lt_one
  applied_le := le_rfl
  lag := Nat.zero_le _

theorem pathAt_firstPoint (target : Target) (start : State) :
    pathAt target start (firstPoint start) = settled start := by
  unfold firstPoint settled
  split_ifs with hnotReady
  · rw [pathAt_succ, pathAt_zero, pathNext, if_neg, if_pos hnotReady]
    rw [hnotReady]
    exact (targetState_ready target).symm
  · rfl

theorem commandForTarget_target (target : Target) :
    (commandForTarget (targetState target) target).1 = .unknown := by
  cases target <;> rfl

theorem command_of_rests {loop : Loop} {target : Target} (h : loop.Rests target) :
    Leads target loop.device.state loop.controlword (firstPoint loop.device.state) ∨
      0 = 0 ∧ 0 ≤ firstPoint loop.device.state ∧
        acceptedTransition (pathAt target loop.device.state (firstPoint loop.device.state))
          (pdsCommand loop.controlword) = none := by
  unfold Leads
  rw [pathAt_firstPoint]
  rcases h.quiet with hquiet | hnext
  · exact .inr ⟨rfl, Nat.zero_le _, hquiet⟩
  · by_cases hreached : settled loop.device.state = targetState target
    · refine .inr ⟨rfl, Nat.zero_le _, ?_⟩
      rw [hnext, hreached, commandForTarget_target]
      cases target <;> rfl
    · exact .inl ⟨hreached, hnext⟩

theorem tracks_of_rests {loop : Loop} {target : Target} (h : loop.Rests target)
    (hownership : loop.device.control.Ownership) (hbound : loop.device.Bound) :
    Tracks target loop.device.state loop (restConveyor loop.device.state) where
  base := rfl
  ordered := restConveyor_ordered loop.device.state
  reach := Nat.zero_le _
  targetValid := h.targetValid
  aim := h.aim
  low := h.low
  view := .inl ⟨h.view, rfl⟩
  sent := fun hview => absurd (h.view.symm.trans hview) (Option.some_ne_none _).symm
  ownership := hownership
  bound := hbound
  state := rfl
  owner := .inl (hownership.target.mp h.idle)
  command := command_of_rests h
  updates := by
    rw [h.updates]
    exact List.Forall₂.nil
  applied := h.applied
  statuswords := by
    have hwords := h.statuswords
    obtain ⟨statusword, hsingle, hstate⟩ := List.map_eq_singleton_iff.mp hwords
    rw [hsingle]
    exact List.Forall₂.cons hstate .nil
  observed := h.observed

theorem normal_of_rests {loop : Loop} {target : Target} (h : loop.Rests target)
    (hownership : loop.device.control.Ownership) : loop.device.state.normal = true := by
  have hknown : loop.device.state ≠ .unknown := hownership.known
  unfold State.normal
  rw [h.normal]
  simpa using hknown

/-! ## What a fair surrounding promises -/

/-- The loop after the first `n` inputs. -/
def Loop.after (start : Loop) (inputs : Nat → LoopInput) (n : Nat) : Loop :=
  trajectory Loop.step start inputs n

/-- Reads, updates and callbacks are late, not lost: the Device is processed again and
again, some pass finds no callback BUSY, every update is applied some day, and every
Statusword is observed some day, or a newer one is. -/
structure Fair (start : Loop) (inputs : Nat → LoopInput) : Prop where
  passes : ∀ n, ∃ m, n ≤ m ∧ ∃ answers, inputs m = .pass answers
  freed : ∀ n, ∃ m, n ≤ m ∧ ¬ (start.after inputs m).device.control.Owned
  delivered : ∀ n, ∃ m, n ≤ m ∧
    (start.after inputs n).updates.length ≤ (start.after inputs m).applied
  observed : ∀ n, ∃ m, n ≤ m ∧
    (start.after inputs n).statuswords.length ≤ (start.after inputs m).observed + 1

/-! ## Every fair loop arrives -/

theorem owned_of_target {target : Target} {origin : State} {axis : Device.Axis} {point : Nat}
    (hnormal : origin.normal = true) (hownership : axis.control.Ownership)
    (howner : axis.pdsTransitionTargetState = pathAt target origin point) :
    axis.control.Owned := by
  left
  apply mt hownership.target.mp
  rw [show axis.control.target = pathAt target origin point from howner]
  intro hunknown
  have hknown := @normal_pathAt target _ hnormal point
  rw [hunknown] at hknown
  exact absurd hknown (by decide)

/-- Under its order an idle Device that stays latches the next state, and an owner that leads there
is kept until it is done. -/
theorem owner_pass {axis : Device.Axis} {answers : PassInputs} {controlword : Word} {next : State}
    (hownership : axis.control.Ownership) (hbound : axis.Bound)
    (hread : ∀ site, answers.controlword site = some controlword)
    (hunfaulted : axis.state.faulted = false)
    (hfits : CommandFits axis.state next (pdsCommand controlword)) (hdiffers : axis.state ≠ next)
    (hready : axis.state ≠ .notReadyToSwitchOn)
    (hstays : (processAxis answers axis).state = axis.state)
    (howner : ¬ axis.control.Owned ∨ axis.pdsTransitionTargetState = next) :
    (processAxis answers axis).pdsTransitionTargetState = next := by
  have hmove := undisturbed_processAxis hownership hbound hread hunfaulted
    (by rw [hstays]; exact hunfaulted)
  obtain ⟨op, haccepted⟩ := hfits.accepted
  rcases howner with hidle | htarget
  · rcases hmove.serves hidle haccepted with hmoved | ⟨-, howner⟩
    · exact absurd (hstays.symm.trans hmoved) hdiffers
    · exact howner
  · have hnext : ∀ {op : DriveOperation} {latched : State} {base : Control},
        Latch (axis.control.sampled controlword) (pdsCommand controlword) op latched base →
        latched = next := by
      intro op latched base hlatch
      cases hlatch with
      | held _ hheld => exact hheld.symm.trans htarget
      | begun hbegins =>
          cases hbegins with
          | accepted _ hother =>
              exact (Prod.mk.inj (Option.some.inj (hother.symm.trans haccepted))).2
          | disableVoltage _ hcommand _ _ hnext =>
              exact hnext.trans (hfits.disableVoltage hcommand).symm
          | quickStop _ hcommand _ _ _ hnext => exact hnext.trans (hfits.quickStop hcommand).2.symm
    cases hmove with
    | waiting _ _ howner => exact howner.trans htarget
    | powerUp _ hnotReady => exact absurd hnotReady hready
    | busy hlatch _ howner => exact howner.trans (hnext hlatch)
    | done hlatch hmoved => exact absurd (hstays.symm.trans (hmoved.trans (hnext hlatch))) hdiffers

section Arrival

variable {target : Target} {start : Loop} {inputs : Nat → LoopInput} {c : Nat → Conveyor}
  (hnormal : start.device.state.normal = true) (hopen : OpenPath target start.device.state)
  (hclean : ∀ n, (start.after inputs n).Clean (inputs n)) (hfair : Fair start inputs)
  (htracks : ∀ n, Tracks target start.device.state (start.after inputs n) (c n))
  (hextends : ∀ n, (c n).Extends (c (n + 1)))

theorem after_succ (n : Nat) :
    start.after inputs (n + 1) = (start.after inputs n).step (inputs n) := rfl

theorem pass_or_unchanged (start : Loop) (inputs : Nat → LoopInput) (n : Nat) :
    (∃ answers, inputs n = .pass answers) ∨
      (start.after inputs (n + 1)).device = (start.after inputs n).device := by
  rw [after_succ]
  cases inputs n with
  | process index timeDifference => exact .inr rfl
  | apply =>
      right
      rw [Loop.step]
      split <;> rfl
  | pass answers => exact .inl ⟨answers, rfl⟩

include htracks in
theorem shown_of_pass (hnormal : start.device.state.normal = true)
    (hopen : OpenPath target start.device.state) {n : Nat} {answers : PassInputs}
    (hinput : inputs n = .pass answers) :
    ∃ h : (c n).shown.length < (c (n + 1)).shown.length,
      (c (n + 1)).shown[(c n).shown.length] = (c (n + 1)).position := by
  obtain ⟨hlengthBefore, -⟩ := List.forall₂_iff_get.mp (htracks n).statuswords
  obtain ⟨hlength, hpoints⟩ := List.forall₂_iff_get.mp (htracks (n + 1)).statuswords
  have hwords : (start.after inputs (n + 1)).statuswords =
      (start.after inputs n).statuswords ++
        [(start.after inputs (n + 1)).device.image.statusword] := by
    rw [after_succ, hinput]
    rfl
  have hshows : decodeStatusword (start.after inputs (n + 1)).device.image.statusword =
      (start.after inputs (n + 1)).device.state := by
    rw [after_succ, hinput]
    exact decodeStatusword_processAxis (htracks n).ownership rfl
  have hgrown : (start.after inputs (n + 1)).statuswords.length = (c n).shown.length + 1 := by
    rw [hwords, List.length_append, hlengthBefore]
    rfl
  have hlt : (c n).shown.length < (c (n + 1)).shown.length := by omega
  refine ⟨hlt, ?_⟩
  have hpoint := hpoints (c n).shown.length (by omega) hlt
  have hltWord : (c n).shown.length < (start.after inputs (n + 1)).statuswords.length := by omega
  have hword : (start.after inputs (n + 1)).statuswords[(c n).shown.length] =
      (start.after inputs (n + 1)).device.image.statusword := by
    simp only [hwords, ← hlengthBefore, List.getElem_concat_length]
  simp only [List.get_eq_getElem] at hpoint
  rw [hword, hshows, (htracks (n + 1)).state] at hpoint
  have hle := (htracks (n + 1)).ordered.shown_le _ (List.getElem_mem hlt)
  exact (pathAt_injective hnormal hopen (htracks (n + 1)).reach
    (hle.trans (htracks (n + 1)).reach) hpoint).symm

include htracks hextends in
theorem observed_of_still (hnormal : start.device.state.normal = true)
    (hopen : OpenPath target start.device.state) (hfair : Fair start inputs) {n point : Nat}
    (hstill : ∀ m, n ≤ m → (c m).position = point) :
    ∃ m, n ≤ m ∧ ∀ k, m ≤ k → (c k).seen = point ∧ 0 < (c k).observed := by
  obtain ⟨pass, hpass, answers, hinput⟩ := hfair.passes n
  obtain ⟨m, hm, hobserved⟩ := hfair.observed (pass + 1)
  refine ⟨m, by omega, fun k hk => ?_⟩
  obtain ⟨hshown, hpoint⟩ := shown_of_pass htracks hnormal hopen hinput
  rw [hstill (pass + 1) (by omega)] at hpoint
  have hlater : (c (pass + 1)).Extends (c k) := Conveyor.extends_of_le hextends (by omega)
  have hsofar := (Conveyor.extends_of_le hextends hk).observed
  have hfirst := (htracks pass).ordered.observed_lt
  rw [(List.forall₂_iff_get.mp (htracks (pass + 1)).statuswords).1,
    (htracks m).observed] at hobserved
  have hindex : (c pass).shown.length < (c k).shown.length :=
    Nat.lt_of_lt_of_le hshown hlater.shown.length_le
  have hentry : (c k).shown[(c pass).shown.length] = point := by
    rw [← hpoint]
    exact (hlater.shown.getElem hshown).symm
  have hseen := (htracks k).ordered.le_seen (by omega) hindex
  have hbound := (htracks k).ordered.seen_le
  rw [hstill k (by omega)] at hbound
  exact ⟨by omega, by omega⟩

include htracks hextends in
/-- Once the Device stands still short of the target, its order comes into force. -/
theorem leads_of_still (hnormal : start.device.state.normal = true)
    (hopen : OpenPath target start.device.state) (hfair : Fair start inputs) {n point : Nat}
    (hstill : ∀ m, n ≤ m → (c m).position = point) (hbase : firstPoint start.device.state ≤ point)
    (hshort : point < distance target start.device.state) :
    ∃ m, n ≤ m ∧ ∀ k, m ≤ k →
      Leads target start.device.state (start.after inputs k).controlword point := by
  have hdistant : pathAt target start.device.state point ≠ targetState target :=
    fun hreached => hshort.ne ((pathAt_eq_target_iff hnormal hopen hshort.le).mp hreached)
  obtain ⟨seen, hseen, hview⟩ := observed_of_still htracks hextends hnormal hopen hfair hstill
  obtain ⟨hpoint, hfound⟩ := hview seen le_rfl
  have hsent : point ∈ (c seen).sent := by
    have hknown := (htracks seen).view.resolve_left (fun hnone => by omega)
    have hmem := (htracks seen).sent hknown (by rw [(htracks seen).base, hpoint]; exact hbase)
      (by rw [hpoint]; exact hdistant)
    rwa [hpoint] at hmem
  have hdelivered : ∀ n, ∃ m, n ≤ m ∧ (c n).sent.length ≤ (c m).applied := by
    intro n
    obtain ⟨m, hm, happlied⟩ := hfair.delivered n
    rw [(List.forall₂_iff_get.mp (htracks n).updates).1, (htracks m).applied] at happlied
    exact ⟨m, hm, happlied⟩
  obtain ⟨m, hm, hforce⟩ :=
    Conveyor.inForce_of_sent (fun k => (htracks k).ordered) hextends hdelivered hsent
  refine ⟨m, by omega, fun k hk => ?_⟩
  obtain ⟨hbehind, happlied⟩ := hforce k hk
  have hposition := hstill k (by omega)
  have hle := (htracks k).inForce_le (by rw [(htracks k).base, hposition]; exact hbase)
  have hsame : (c k).inForce = point := by omega
  rcases (htracks k).command with hleads | ⟨hnone, -⟩
  · rwa [hsame] at hleads
  · omega

include htracks in
/-- Under its order an idle Device latches the next point, and an owner that leads there
is kept until it is done. -/
theorem owner_of_still (hnormal : start.device.state.normal = true)
    (hopen : OpenPath target start.device.state) {n point : Nat}
    (hposition : (c n).position = point) (hstill : (c (n + 1)).position = point)
    (hbase : firstPoint start.device.state ≤ point)
    (hshort : point < distance target start.device.state)
    (hleads : Leads target start.device.state (start.after inputs n).controlword point)
    {answers : PassInputs} (hinput : inputs n = .pass answers)
    (howner : ¬ (start.after inputs n).device.control.Owned ∨
      (start.after inputs n).device.pdsTransitionTargetState =
        pathAt target start.device.state (point + 1)) :
    (start.after inputs (n + 1)).device.pdsTransitionTargetState =
      pathAt target start.device.state (point + 1) := by
  have hstate := (htracks n).state
  have hstateAfter := (htracks (n + 1)).state
  rw [hposition] at hstate
  rw [hstill] at hstateAfter
  have hpasses : (start.after inputs (n + 1)).device =
      processAxis ((start.after inputs n).surroundings answers) (start.after inputs n).device := by
    rw [after_succ, hinput]
    rfl
  have hdiffers : pathAt target start.device.state point ≠
      pathAt target start.device.state (point + 1) := by
    intro heq
    have := pathAt_injective hnormal hopen hshort.le hshort heq
    omega
  have hready := @ready_of_firstPoint target _ hnormal point hbase
  have hunfaulted := @pathAt_unfaulted target _ hnormal point
  have hfits := (htracks n).fits hnormal hopen (by rw [(htracks n).base]; exact hbase) hleads
  rw [hpasses] at hstateAfter ⊢
  apply owner_pass (htracks n).ownership (htracks n).bound (fun _ => rfl)
  · rw [hstate]
    exact hunfaulted
  · rw [hstate]
    exact hfits
  · rw [hstate]
    exact hdiffers
  · rw [hstate]
    exact hready
  · exact hstateAfter.trans hstate.symm
  · exact howner

include htracks hextends in
theorem not_still (hnormal : start.device.state.normal = true)
    (hopen : OpenPath target start.device.state) (hfair : Fair start inputs) {n point : Nat}
    (hshort : point < distance target start.device.state) :
    ¬ ∀ m, n ≤ m → (c m).position = point := by
  intro hstill
  by_cases hbase : firstPoint start.device.state ≤ point
  · obtain ⟨leads, hn, hleads⟩ :=
      leads_of_still htracks hextends hnormal hopen hfair hstill hbase hshort
    have howner : ∀ k, leads ≤ k → (∃ answers, inputs k = .pass answers) →
        (¬ (start.after inputs k).device.control.Owned ∨
          (start.after inputs k).device.pdsTransitionTargetState =
            pathAt target start.device.state (point + 1)) →
        (start.after inputs (k + 1)).device.pdsTransitionTargetState =
          pathAt target start.device.state (point + 1) := by
      rintro k hk ⟨answers, hinput⟩ hwaits
      exact owner_of_still htracks hnormal hopen (hstill k (by omega)) (hstill (k + 1) (by omega))
        hbase hshort (hleads k hk) hinput hwaits
    refine @not_held_for_ever (fun k => ¬ (start.after inputs k).device.control.Owned)
      (fun k => (start.after inputs k).device.pdsTransitionTargetState =
        pathAt target start.device.state (point + 1))
      (fun k => ∃ answers, inputs k = .pass answers) leads ?_ ?_ howner hfair.passes hfair.freed ?_
    · intro k hk hwaits
      rcases pass_or_unchanged start inputs k with hpass | hsame
      · exact .inr (howner k hk hpass hwaits)
      · rw [hsame]
        exact hwaits
    · intro k hk hheld
      rcases pass_or_unchanged start inputs k with hpass | hsame
      · exact howner k hk hpass (.inr hheld)
      · rw [hsame]
        exact hheld
    · intro k hheld hfree
      exact hfree (owned_of_target hnormal (htracks k).ownership hheld)
  · -- a Device that is not ready leaves that state in its first pass
    obtain ⟨pass, hpass, answers, hinput⟩ := hfair.passes n
    have hbefore : (c pass).position < firstPoint start.device.state := by
      rw [hstill pass hpass]
      exact Nat.lt_of_not_le hbase
    obtain ⟨-, -, hnotReady, -⟩ := @notReady_of_lt target _ _ hbefore
    have hstate := (htracks pass).state
    have hstateAfter := (htracks (pass + 1)).state
    rw [hnotReady] at hstate
    rw [hstill (pass + 1) (by omega), ← hstill pass hpass, hnotReady] at hstateAfter
    have hpasses : (start.after inputs (pass + 1)).device =
        processAxis ((start.after inputs pass).surroundings answers)
          (start.after inputs pass).device := by
      rw [after_succ, hinput]
      rfl
    have hmove := undisturbed_processAxis (htracks pass).ownership (htracks pass).bound
      (fun _ => rfl : ∀ site, ((start.after inputs pass).surroundings answers).controlword site =
        some (start.after inputs pass).controlword)
      (by rw [hstate]; rfl) (by rw [← hpasses, hstateAfter]; rfl)
    have hidle : ¬ (start.after inputs pass).device.control.Owned := by
      intro howned
      have hreached := (htracks pass).base_le_of_owned howned
      rw [(htracks pass).base] at hreached
      exact absurd hbefore (Nat.not_lt.mpr hreached)
    have hpowered := hmove.powersUp hidle hstate
    rw [← hpasses] at hpowered
    exact absurd (hpowered.symm.trans hstateAfter) (by decide)

end Arrival

/-- A fair clean loop reaches the target and shows it to the Controller. -/
theorem arrives {target : Target} {start : Loop} (hrests : start.Rests target)
    (hownership : start.device.control.Ownership) (hbound : start.device.Bound)
    (hopen : OpenPath target start.device.state) {inputs : Nat → LoopInput}
    (hclean : ∀ n, (start.after inputs n).Clean (inputs n)) (hfair : Fair start inputs) :
    ∃ n, ∀ m, n ≤ m → (start.after inputs m).device.state = targetState target ∧
      (start.after inputs m).controller.view = some (targetState target) := by
  have hnormal := normal_of_rests hrests hownership
  obtain ⟨c, htracks, hextends⟩ := exists_simulation
    (fun n t (h : Tracks target start.device.state (start.after inputs n) t) =>
      h.step hnormal hopen (hclean n))
    (tracks_of_rests hrests hownership hbound)
  obtain ⟨n, hn⟩ := @eventually_eq_of_progress (fun n => (c n).position)
    (distance target start.device.state) (fun k => (hextends k).position)
    (fun k => (htracks k).reach) (by
      intro k hshort
      by_contra hnone
      refine @not_still _ _ _ _ htracks hextends hnormal hopen hfair k _ hshort fun m hm => ?_
      have hgrown := (Conveyor.extends_of_le hextends hm).position
      have hle : (c m).position ≤ (c k).position :=
        Nat.le_of_not_lt fun hlt => hnone ⟨m, hm, hlt⟩
      exact Nat.le_antisymm hle hgrown)
  obtain ⟨last, hlast, hseen⟩ := observed_of_still htracks hextends hnormal hopen hfair hn
  have harrived := (pathAt_eq_target_iff hnormal hopen le_rfl).mpr rfl
  refine ⟨last, fun m hm => ⟨?_, ?_⟩⟩
  · rw [(htracks m).state, hn m (hlast.trans hm)]
    exact harrived
  · obtain ⟨hpoint, hobserved⟩ := hseen m hm
    have hview := (htracks m).view.resolve_left (fun hnone => by omega)
    rw [hpoint, harrived] at hview
    exact hview

/-! ## The whole claim about a loop -/

/-- What holds of a loop that starts at rest on an open path. -/
structure Converges (target : Target) (start : Loop) : Prop where
  /-- every clean step keeps the state or takes the next step of the path -/
  path : ∀ inputs input, EveryStep Loop.step Loop.Clean start (inputs ++ [input]) →
    (run Loop.step start (inputs ++ [input])).device.state =
        (run Loop.step start inputs).device.state ∨
      (run Loop.step start (inputs ++ [input])).device.state =
          pathNext target (run Loop.step start inputs).device.state ∧
        distance target (run Loop.step start (inputs ++ [input])).device.state + 1 =
          distance target (run Loop.step start inputs).device.state
  /-- an update emitted in agreement with the Device is accepted by it, and a pass of
  the idle Device under it serves it -/
  accepted : ∀ inputs index timeDifference, EveryStep Loop.step Loop.Clean start inputs →
    ∀ controller update, process (run Loop.step start inputs).controller
        ((run Loop.step start inputs).feedback index) timeDifference = (controller, update) →
      update.valid = true → controller.view = some (run Loop.step start inputs).device.state →
        (∃ op, acceptedTransition (run Loop.step start inputs).device.state
          (pdsCommand (applyControlwordUpdate (run Loop.step start inputs).controlword update)) =
            some (op, pathNext target (run Loop.step start inputs).device.state)) ∧
        ∀ answers : PassInputs, (∀ site, answers.controlword site =
            some (applyControlwordUpdate (run Loop.step start inputs).controlword update)) →
          ¬ (run Loop.step start inputs).device.control.Owned →
          (processAxis answers (run Loop.step start inputs).device).state.faulted = false →
          (processAxis answers (run Loop.step start inputs).device).state =
              pathNext target (run Loop.step start inputs).device.state ∨
            (processAxis answers (run Loop.step start inputs).device).state =
                (run Loop.step start inputs).device.state ∧
              (processAxis answers (run Loop.step start inputs).device).pdsTransitionTargetState =
                pathNext target (run Loop.step start inputs).device.state
  /-- a fresh agreement short of the target is answered by an update, unless the
  transition timeout has expired -/
  commands : ∀ inputs index timeDifference, EveryStep Loop.step Loop.Clean start inputs →
    ∀ controller update, process (run Loop.step start inputs).controller
        ((run Loop.step start inputs).feedback index) timeDifference = (controller, update) →
      ((run Loop.step start inputs).feedback index).statuswordValid = true →
      controller.view = some (run Loop.step start inputs).device.state →
      (run Loop.step start inputs).device.state ≠ .notReadyToSwitchOn →
      (run Loop.step start inputs).device.state ≠ targetState target →
        update.valid = true ∨ controller.result = .transitionTimeout
  /-- a fair run ends at the target, and the Controller sees it -/
  reached : ∀ inputs : Nat → LoopInput, (∀ n, (start.after inputs n).Clean (inputs n)) →
    Fair start inputs →
      ∃ n, ∀ m, n ≤ m → (start.after inputs m).device.state = targetState target ∧
        (start.after inputs m).controller.view = some (targetState target)

section Converges

variable {target : Target} {start loop : Loop} {c : Conveyor}
  (hnormal : start.device.state.normal = true) (hopen : OpenPath target start.device.state)
  (h : Tracks target start.device.state loop c)

include hnormal hopen h

theorem path_of_tracks {input : LoopInput} (hclean : loop.Clean input) :
    (loop.step input).device.state = loop.device.state ∨
      (loop.step input).device.state = pathNext target loop.device.state ∧
        distance target (loop.step input).device.state + 1 = distance target loop.device.state := by
  cases input with
  | process index timeDifference => exact .inl rfl
  | apply =>
      left
      rw [Loop.step]
      split <;> rfl
  | pass answers =>
      have hstep : (loop.step (.pass answers)).device =
          processAxis (loop.surroundings answers) loop.device := rfl
      have hreach := h.reach
      obtain ⟨c', -, hafter⟩ := h.pass hnormal hopen hclean
      have hpassed := h.passed hnormal hopen hclean
      rw [← hstep] at hpassed
      cases hpassed with
      | kept hstate => exact .inl hstate
      | completed hpoint => exact .inl (hpoint.trans h.state.symm)
      | moved hstate _ hpoint =>
          right
          have hnext : (loop.step (.pass answers)).device.state =
              pathNext target loop.device.state := by
            rw [hstate, pathAt_succ, ← h.state]
          have hdistant : loop.device.state ≠ targetState target := by
            rw [h.state]
            rcases hpoint with hbefore | ⟨-, hleads⟩
            · rw [h.base] at hbefore
              obtain ⟨-, -, hnotReady, -⟩ := @notReady_of_lt target _ _ hbefore
              rw [hnotReady]
              exact (targetState_ready target).symm
            · exact hleads.1
          refine ⟨hnext, ?_⟩
          rw [hnext]
          refine distance_pathNext (h.normal hnormal) hdistant ?_ ?_
          · rw [h.state]
            exact hopen c.position
          · rw [h.state, ← pathAt_succ]
            exact hopen (c.position + 1)

/-- An update emitted while the views agree is the command of the Device's own state. -/
theorem update_of_agreement {index : Option Nat} {timeDifference : UInt32}
    {controller : Controller.Axis} {update : ControlwordUpdate}
    (hprocess : process loop.controller (loop.feedback index) timeDifference = (controller, update))
    (hvalid : update.valid = true) (hview : controller.view = some loop.device.state) :
    CommandFits loop.device.state (pathNext target loop.device.state)
      (pdsCommand (applyControlwordUpdate loop.controlword update)) := by
  obtain ⟨found, hlooked⟩ := h.look hnormal index
  obtain ⟨-, -, -, hsame, hcommand⟩ := h.sequenced hnormal hlooked timeDifference
  rw [hprocess] at hsame hcommand
  obtain ⟨state, hstate, hdistant, hupdate⟩ := hcommand hvalid
  rw [← hsame] at hstate
  obtain rfl := Option.some.inj (hview.symm.trans hstate)
  rw [target_observe, h.aim] at hdistant hupdate
  dsimp only at hupdate
  have hready : loop.device.state ≠ .notReadyToSwitchOn := by
    intro hnotReady
    rw [hupdate, hnotReady] at hvalid
    exact absurd hvalid Bool.false_ne_true
  have hunblocked : Unblocked target loop.device.state := by
    rw [h.state]
    exact hopen c.position
  have hfits := commandFits (h.normal hnormal) hready hdistant hunblocked
  rw [hupdate, pdsCommand_apply _ hfits.ordinary.1 hfits.ordinary.2]
  exact hfits

omit hopen in
theorem served_of_agreement {controlword : Word} {answers : PassInputs}
    (hfits : CommandFits loop.device.state (pathNext target loop.device.state)
      (pdsCommand controlword))
    (hread : ∀ site, answers.controlword site = some controlword)
    (hidle : ¬ loop.device.control.Owned)
    (hclean : (processAxis answers loop.device).state.faulted = false) :
    (processAxis answers loop.device).state = pathNext target loop.device.state ∨
      (processAxis answers loop.device).state = loop.device.state ∧
        (processAxis answers loop.device).pdsTransitionTargetState =
          pathNext target loop.device.state := by
  have hunfaulted : loop.device.state.faulted = false := by
    rw [h.state]
    exact pathAt_unfaulted hnormal c.position
  obtain ⟨op, haccepted⟩ := hfits.accepted
  exact (undisturbed_processAxis h.ownership h.bound hread hunfaulted hclean).serves hidle haccepted

theorem command_of_agreement {index : Option Nat} {timeDifference : UInt32}
    {controller : Controller.Axis} {update : ControlwordUpdate}
    (hprocess : process loop.controller (loop.feedback index) timeDifference = (controller, update))
    (hfresh : (loop.feedback index).statuswordValid = true)
    (hview : controller.view = some loop.device.state)
    (hready : loop.device.state ≠ .notReadyToSwitchOn)
    (hdistant : loop.device.state ≠ targetState target) :
    update.valid = true ∨ controller.result = .transitionTimeout := by
  obtain ⟨found, hlooked⟩ := h.look hnormal index
  obtain ⟨-, -, -, hsame, -⟩ := h.sequenced hnormal hlooked timeDifference
  rw [hprocess] at hsame
  have hobserved := view_observe loop.controller (loop.feedback index) timeDifference
  rw [← hsame, hview, if_pos hfresh, recognize] at hobserved
  have hshows : (loop.feedback index).Shows loop.device.state := by
    split_ifs at hobserved with hunknown
    have hstate := Option.some.inj hobserved
    exact ⟨hfresh, hstate.symm, h.ownership.known⟩
  have hunblocked : Unblocked target loop.device.state := by
    rw [h.state]
    exact hopen c.position
  have hunfaulted : loop.device.state.faulted = false := by
    rw [h.state]
    exact pathAt_unfaulted hnormal c.position
  have hfits := commandFits (h.normal hnormal) hready hdistant hunblocked
  have houtcome := process_of_distant hshows h.low h.targetValid hunfaulted
    (by rw [h.aim]; exact hdistant) (by rw [h.aim]; exact hunblocked hdistant) timeDifference
  rw [hprocess, h.aim] at houtcome
  rcases houtcome with hupdate | hresult
  · left
    dsimp only at hupdate
    rw [hupdate]
    exact valid_commandUpdate hfits.ordinary.1
  · exact .inr hresult

end Converges

theorem converges_of_rests {target : Target} {start : Loop} (hrests : start.Rests target)
    (hownership : start.device.control.Ownership) (hbound : start.device.Bound)
    (hopen : OpenPath target start.device.state) : Converges target start := by
  have hnormal := normal_of_rests hrests hownership
  have htracks : ∀ {inputs : List LoopInput}, EveryStep Loop.step Loop.Clean start inputs →
      ∃ c, Tracks target start.device.state (run Loop.step start inputs) c := by
    intro inputs hclean
    have hstart : ∃ c, Tracks target start.device.state start c :=
      ⟨_, tracks_of_rests hrests hownership hbound⟩
    have hstep : ∀ loop input, (∃ c, Tracks target start.device.state loop c) →
        loop.Clean input → ∃ c, Tracks target start.device.state (loop.step input) c := by
      rintro loop input ⟨c, h⟩ hinput
      obtain ⟨c', -, hafter⟩ := h.step hnormal hopen hinput
      exact ⟨c', hafter⟩
    exact run_invariant_of_everyStep hstep hstart hclean
  refine ⟨?_, ?_, ?_, fun inputs hclean hfair =>
    arrives hrests hownership hbound hopen hclean hfair⟩
  · intro inputs input hclean
    obtain ⟨hearlier, hlast, -⟩ := (everyStep_append start inputs [input]).mp hclean
    obtain ⟨c, h⟩ := htracks hearlier
    rw [run_concat]
    exact path_of_tracks hnormal hopen h hlast
  · intro inputs index timeDifference hclean controller update hprocess hvalid hview
    obtain ⟨c, h⟩ := htracks hclean
    have hfits := update_of_agreement hnormal hopen h hprocess hvalid hview
    exact ⟨hfits.accepted, fun answers hread hidle hstays =>
      served_of_agreement hnormal h hfits hread hidle hstays⟩
  · intro inputs index timeDifference hclean controller update hprocess hfresh hview hready hdistant
    obtain ⟨c, h⟩ := htracks hclean
    exact command_of_agreement hnormal hopen h hprocess hfresh hview hready hdistant

/-- Closed-loop convergence of one Controller axis with one axis of a reachable Device. -/
theorem closedLoop_of_reachable {manager : Manager} (hreachable : Reachable manager)
    (hbound : manager.odBound = true) {start : Loop} (hmem : start.device ∈ manager.axes)
    {target : Target} (hrests : start.Rests target)
    (hopen : OpenPath target start.device.state) : Converges target start :=
  converges_of_rests hrests (hreachable.axisReachable _ hmem).ownership
    (hreachable.bound hbound _ hmem) hopen

theorem openPath_of_reached {target : Target} {start : State} {n : Nat}
    (hreached : pathAt target start n = targetState target)
    (hbefore : ∀ m, m < n → Unblocked target (pathAt target start m)) : OpenPath target start := by
  have hstays : ∀ m, n ≤ m → pathAt target start m = targetState target := by
    intro m hm
    induction m, hm using Nat.le_induction with
    | base => exact hreached
    | succ m hm ih => rw [pathAt_succ, ih, pathNext, if_pos rfl]
  intro m
  by_cases hm : m < n
  · exact hbefore m hm
  · intro hdistant
    exact absurd (hstays m (Nat.le_of_not_lt hm)) hdistant

instance (target : Target) (state : State) : Decidable (Unblocked target state) := by
  unfold Unblocked
  infer_instance

/-- A Controller that is to enable the axis, which shows its state in 0x6041. -/
def enablingLoop (axis : Device.Axis) : Loop where
  controller := (setTarget (Controller.init ⟨1000, 1000⟩) 3).1
  device := axis
  controlword := 0
  updates := []
  applied := 0
  statuswords := [statuswordForState axis.state]
  observed := 0

theorem closedLoop_poweringUp :
    ∃ axis ∈ cyclicManager.axes, axis.state = .notReadyToSwitchOn ∧
      Converges .operationEnabled (enablingLoop axis) := by
  have hstates : ∀ axis ∈ cyclicManager.axes, axis.state = .notReadyToSwitchOn ∧
      axis.pdsTransitionOperation = none := by decide +kernel
  obtain ⟨axis, hmem⟩ : ∃ axis, axis ∈ cyclicManager.axes :=
    List.exists_mem_of_ne_nil _ (by decide +kernel)
  obtain ⟨hstate, hidle⟩ := hstates axis hmem
  refine ⟨axis, hmem, hstate, closedLoop_of_reachable reachable_cyclicManager (by decide +kernel)
    hmem ⟨rfl, rfl, rfl, rfl, hidle, ?_, ?_, rfl, rfl, ?_, rfl⟩ ?_⟩
  · simp only [enablingLoop, hstate]
    decide
  · simp only [enablingLoop, hstate]
    decide
  · simp only [enablingLoop, hstate]
    decide
  · simp only [enablingLoop, hstate]
    exact @openPath_of_reached _ _ 4 (by decide) (by decide)

/-- Power up, then Shutdown. -/
def readied : List Step :=
  [.process fun _ => {}, .process fun _ => { controlword := fun _ => some 6 }]

/-- A Controlword left from before takes the Device off the path, though the path is
open and everything else is at rest. -/
theorem closedLoop_staleControlword :
    ∃ axis ∈ (run Manager.step cyclicManager readied).axes,
      axis.state = .readyToSwitchOn ∧ axis.pdsTransitionOperation = none ∧
        OpenPath .operationEnabled axis.state ∧ (enablingLoop axis).Clean (.pass {}) ∧
        distance .operationEnabled axis.state <
          distance .operationEnabled ((enablingLoop axis).step (.pass {})).device.state := by
  have hstates : ∀ axis ∈ (run Manager.step cyclicManager readied).axes,
      axis.state = .readyToSwitchOn ∧ axis.pdsTransitionOperation = none ∧
        ((enablingLoop axis).step (.pass {})).device.state = .switchOnDisabled := by decide +kernel
  obtain ⟨axis, hmem⟩ : ∃ axis, axis ∈ (run Manager.step cyclicManager readied).axes :=
    List.exists_mem_of_ne_nil _ (by decide +kernel)
  obtain ⟨hstate, hidle, hafter⟩ := hstates axis hmem
  refine ⟨axis, hmem, hstate, hidle, ?_, ?_, ?_⟩
  · rw [hstate]
    exact @openPath_of_reached _ _ 2 (by decide) (by decide)
  · rw [Loop.Clean, hafter]
    rfl
  · rw [hstate, hafter]
    decide

end CanopenRtt.Cia402
