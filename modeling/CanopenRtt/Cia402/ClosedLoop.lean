import CanopenRtt.Support.Conveyor
import CanopenRtt.Cia402.Controller.Sequence
import CanopenRtt.Cia402.Device.Undisturbed
import CanopenRtt.Cia402.Path
/-!
# One Controller axis and one Device axis

The two cores, closed through 0x6040 and 0x6041. Every update and every
Statusword ever sent is kept: updates are applied in order, and a read may
observe any published Statusword that is not older than the last one observed.
`Tracks` names each of them by the point of the command path it belongs to, which
makes the loop a conveyor of orders.
-/

namespace CanopenRtt.Cia402

open CanopenRtt.Support Controller Device

structure Loop where
  controller : Controller.Axis
  device : Device.Axis
  /-- 0x6040, which nobody else writes -/
  controlword : Word
  updates : List ControlwordUpdate
  applied : Nat
  statuswords : List Word
  observed : Nat

inductive LoopInput where
  /-- a process call of the Controller, whose read finds the Statusword of this index -/
  | process (index : Option Nat) (timeDifference : UInt32)
  /-- the next update reaches 0x6040 -/
  | apply
  /-- a supervisor pass of the Device -/
  | pass (inputs : PassInputs)

/-- What a read finds: nothing older than what was observed before. -/
def Loop.read (loop : Loop) (index : Option Nat) : Option (Nat × Word) :=
  match index with
  | none => none
  | some index =>
      if index < loop.observed then none
      else loop.statuswords[index]?.map fun statusword => (index, statusword)

def Loop.feedback (loop : Loop) (index : Option Nat) : Feedback :=
  match loop.read index with
  | some (_, statusword) => { statuswordValid := true, statusword := statusword }
  | none => { statuswordValid := false, statusword := 0 }

/-- The surroundings of a pass: every read of 0x6040 finds it, and 0x6041 is written. -/
def Loop.surroundings (loop : Loop) (inputs : PassInputs) : PassInputs :=
  { inputs with controlword := fun _ => some loop.controlword, setStatusword := true }

def Loop.step (loop : Loop) : LoopInput → Loop
  | .process index timeDifference =>
      let (controller, update) :=
        process loop.controller (loop.feedback index) timeDifference
      { loop with
        controller := controller
        updates := if update.valid then loop.updates ++ [update] else loop.updates
        observed := ((loop.read index).map Prod.fst).getD loop.observed }
  | .apply =>
      match loop.updates[loop.applied]? with
      | some update =>
          { loop with
            controlword := applyControlwordUpdate loop.controlword update
            applied := loop.applied + 1 }
      | none => loop
  | .pass inputs =>
      let device := processAxis (loop.surroundings inputs) loop.device
      { loop with
        device := device
        statuswords := loop.statuswords ++ [device.image.statusword] }

/-- The state in which the Device first looks at commands. -/
def settled (state : State) : State :=
  if state = .notReadyToSwitchOn then .switchOnDisabled else state

/-- The loop before the first call: a target is set, nothing is under way, and 0x6040
asks for no transition, or for the next one of the path. -/
structure Loop.Rests (loop : Loop) (target : Target) : Prop where
  targetValid : loop.controller.targetValid = true
  aim : loop.controller.target = target
  low : loop.controller.faultResetPulseHigh = false
  view : loop.controller.view = none
  idle : loop.device.pdsTransitionOperation = none
  normal : loop.device.state.faulted = false
  quiet : acceptedTransition (settled loop.device.state) (pdsCommand loop.controlword) = none ∨
    pdsCommand loop.controlword = (commandForTarget (settled loop.device.state) target).1
  updates : loop.updates = []
  applied : loop.applied = 0
  statuswords : loop.statuswords.map decodeStatusword = [loop.device.state]
  observed : loop.observed = 0

/-- No fault occurs in this step. -/
def Loop.Clean (loop : Loop) (input : LoopInput) : Prop :=
  (loop.step input).device.state.faulted = false

/-! ## The conveyor behind the loop -/

/-- The first point of the path at which the Controller commands. -/
def firstPoint (start : State) : Nat := if start = .notReadyToSwitchOn then 1 else 0

section Tracks

variable (target : Target) (start : State)

/-- The command in 0x6040 is the one for this point of the path. -/
def Leads (controlword : Word) (point : Nat) : Prop :=
  pathAt target start point ≠ targetState target ∧
    pdsCommand controlword = (commandForTarget (pathAt target start point) target).1

/-- The target of the PDS owner: none, the next point, or, after a Disable Voltage
that stopped a mode callback, the present one. -/
def OwnerOnPath (owner : State) (controlword : Word) (c : Conveyor) : Prop :=
  owner = .unknown ∨
    owner = pathAt target start c.position ∧ owner = .switchOnDisabled ∨
    owner = pathAt target start (c.position + 1) ∧ c.position = c.inForce ∧
      Leads target start controlword c.position

/-- The loop and the points its parts stand at. -/
structure Tracks (loop : Loop) (c : Conveyor) : Prop where
  base : c.base = firstPoint start
  ordered : c.Ordered
  reach : c.position ≤ distance target start
  targetValid : loop.controller.targetValid = true
  aim : loop.controller.target = target
  low : loop.controller.faultResetPulseHigh = false
  view : loop.controller.view = none ∧ c.observed = 0 ∨
    loop.controller.view = some (pathAt target start c.seen)
  /-- the order for what was seen has been sent -/
  sent : loop.controller.view = some (pathAt target start c.seen) → c.base ≤ c.seen →
    pathAt target start c.seen ≠ targetState target → c.seen ∈ c.sent
  ownership : loop.device.control.Ownership
  bound : loop.device.Bound
  state : loop.device.state = pathAt target start c.position
  owner : OwnerOnPath target start loop.device.pdsTransitionTargetState loop.controlword c
  command : Leads target start loop.controlword c.inForce ∨
    c.applied = 0 ∧ c.position ≤ c.base ∧
      acceptedTransition (pathAt target start c.base) (pdsCommand loop.controlword) = none
  updates : List.Forall₂ (fun update point => pathAt target start point ≠ targetState target ∧
    update = commandUpdate (commandForTarget (pathAt target start point) target).1 {})
      loop.updates c.sent
  applied : loop.applied = c.applied
  statuswords : List.Forall₂ (fun statusword point =>
    decodeStatusword statusword = pathAt target start point) loop.statuswords c.shown
  observed : loop.observed = c.observed

end Tracks

section Points

variable {target : Target} {start : State} (hstart : start.normal = true)
  (hopen : OpenPath target start)

include hstart

theorem ready_of_firstPoint {point : Nat} (h : firstPoint start ≤ point) :
    pathAt target start point ≠ .notReadyToSwitchOn := by
  apply pathAt_ready hstart
  unfold firstPoint at h
  split_ifs at h with hnotReady
  · exact .inl h
  · exact .inr hnotReady

omit hstart in
theorem notReady_of_lt {point : Nat} (h : point < firstPoint start) :
    point = 0 ∧ start = .notReadyToSwitchOn ∧
      pathAt target start point = .notReadyToSwitchOn ∧
      pathAt target start (point + 1) = .switchOnDisabled := by
  unfold firstPoint at h
  split_ifs at h with hnotReady
  · obtain rfl : point = 0 := Nat.lt_one_iff.mp h
    refine ⟨rfl, hnotReady, hnotReady, ?_⟩
    rw [pathAt_succ, pathAt_zero, pathNext, if_neg, if_pos hnotReady]
    rw [hnotReady]
    exact (targetState_ready target).symm
  · exact absurd h (Nat.not_lt_zero point)

include hopen

theorem commandFits_pathAt {point : Nat} (h : firstPoint start ≤ point)
    (hdistant : pathAt target start point ≠ targetState target) :
    CommandFits (pathAt target start point) (pathAt target start (point + 1))
      (commandForTarget (pathAt target start point) target).1 := by
  rw [pathAt_succ]
  exact commandFits (normal_pathAt hstart point) (ready_of_firstPoint hstart h) hdistant
    (hopen point)

end Points

/-! ## The steps of the loop -/

section Steps

variable {target : Target} {start : State} {loop : Loop} {c : Conveyor}
  (hstart : start.normal = true) (hopen : OpenPath target start)

theorem Tracks.normal (h : Tracks target start loop c) (hstart : start.normal = true) :
    loop.device.state.normal = true := by
  rw [h.state]
  exact normal_pathAt hstart c.position

theorem Tracks.base_le_sent (h : Tracks target start loop c) {point : Nat}
    (hsent : point ∈ c.sent) : firstPoint start ≤ point := by
  rw [← h.base]
  exact (h.ordered.sent_le point hsent).1

/-- The order in force is for a point the Device has reached, or for its first one. -/
theorem Tracks.inForce_le (h : Tracks target start loop c) (hbase : c.base ≤ c.position) :
    c.inForce ≤ c.position := by
  rcases h.ordered.inForce_le with heq | hle
  · omega
  · exact hle

include hstart hopen

theorem Tracks.apply (h : Tracks target start loop c) :
    ∃ c', c.Extends c' ∧ Tracks target start (loop.step .apply) c' := by
  cases hnext : loop.updates[loop.applied]? with
  | none =>
      refine ⟨c, .refl c, ?_⟩
      rw [Loop.step, hnext]
      exact h
  | some update =>
      obtain ⟨happlied, hupdate⟩ := List.getElem?_eq_some_iff.mp hnext
      obtain ⟨hlength, hpoints⟩ := List.forall₂_iff_get.mp h.updates
      have hsent : c.applied < c.sent.length := by
        rw [← h.applied, ← hlength]
        exact happlied
      have hmem : c.sent[c.applied] ∈ c.sent := List.getElem_mem hsent
      have hpoint := hpoints loop.applied happlied (by rw [h.applied]; exact hsent)
      simp only [List.get_eq_getElem] at hpoint
      rw [hupdate] at hpoint
      simp only [h.applied] at hpoint
      obtain ⟨hdistant, rfl⟩ := hpoint
      have hfits := commandFits_pathAt hstart hopen (h.base_le_sent hmem) hdistant
      have hmove := Conveyor.Move.apply hsent
      have hinForce := Conveyor.inForce_apply hsent
      have hgrows := h.ordered.inForce_le_next hsent
      have hleads : Leads target start
          (applyControlwordUpdate loop.controlword
            (commandUpdate (commandForTarget (pathAt target start c.sent[c.applied]) target).1 {}))
          c.sent[c.applied] :=
        ⟨hdistant, pdsCommand_apply _ hfits.ordinary.1 hfits.ordinary.2⟩
      refine ⟨_, hmove.extends, ?_⟩
      rw [Loop.step, hnext]
      refine { h with ordered := h.ordered.move hmove, owner := ?_, command := ?_, applied := ?_ }
      · rcases h.owner with hnone | hpresent | ⟨howner, hposition, -⟩
        · exact .inl hnone
        · exact .inr (.inl hpresent)
        · have hreached := (h.ordered.sent_le _ hmem).2.trans h.ordered.seen_le
          have hsame : c.position = c.sent[c.applied] := by omega
          refine .inr (.inr ⟨howner, hsame.trans hinForce.symm, ?_⟩)
          dsimp only
          rw [hsame]
          exact hleads
      · left
        rw [hinForce]
        exact hleads
      · exact congrArg (· + 1) h.applied

omit hstart hopen in
/-- A read moves the observer forward to a Statusword it may find. -/
theorem Tracks.read (h : Tracks target start loop c) (hnormal : start.normal = true)
    (index : Option Nat) :
    loop.read index = none ∧ (loop.feedback index).statuswordValid = false ∨
      ∃ found, (loop.read index).map Prod.fst = some found ∧ c.observed ≤ found ∧
        found < c.shown.length ∧
        (loop.feedback index).Shows
          (pathAt target start ({ c with observed := found } : Conveyor).seen) := by
  obtain ⟨hlength, hpoints⟩ := List.forall₂_iff_get.mp h.statuswords
  unfold Loop.feedback
  cases hread : loop.read index with
  | none => exact .inl ⟨rfl, rfl⟩
  | some found =>
      obtain ⟨position, statusword⟩ := found
      right
      have hfound : loop.observed ≤ position ∧ loop.statuswords[position]? = some statusword := by
        unfold Loop.read at hread
        split at hread
        · exact absurd hread (Option.some_ne_none _).symm
        · split_ifs at hread with hold
          obtain ⟨word, hword, hpair⟩ := Option.map_eq_some_iff.mp hread
          obtain ⟨rfl, rfl⟩ := Prod.mk.inj hpair
          exact ⟨Nat.le_of_not_lt hold, hword⟩
      obtain ⟨hforward, hword⟩ := hfound
      obtain ⟨hlt, hword⟩ := List.getElem?_eq_some_iff.mp hword
      have hshown : position < c.shown.length := by omega
      have hpoint := hpoints position hlt hshown
      simp only [List.get_eq_getElem] at hpoint
      rw [hword] at hpoint
      refine ⟨position, rfl, by rw [← h.observed]; exact hforward, hshown, rfl, ?_⟩
      rw [@Conveyor.seen_eq { c with observed := position } hshown]
      dsimp only
      refine ⟨hpoint, fun hunknown => ?_⟩
      have hknown := @normal_pathAt target start hnormal c.shown[position]
      rw [hunknown] at hknown
      exact absurd hknown (by decide)

/-- The conveyor after a read that finds the Statusword of index `found`. -/
def looked (c : Conveyor) (found : Nat) : Conveyor := { c with observed := found }

/-- What the read of a process call finds. -/
structure Looked (target : Target) (start : State) (loop : Loop) (c : Conveyor)
    (index : Option Nat) (found : Nat) : Prop where
  grown : c.Extends (looked c found)
  ordered : (looked c found).Ordered
  found_eq : ((loop.read index).map Prod.fst).getD loop.observed = found
  fresh : found = c.observed ∧ (loop.feedback index).statuswordValid = false ∨
    (loop.feedback index).Shows (pathAt target start (looked c found).seen)

omit hstart hopen in
theorem Tracks.look (h : Tracks target start loop c) (hnormal : start.normal = true)
    (index : Option Nat) : ∃ found, Looked target start loop c index found := by
  rcases h.read hnormal index with ⟨hnone, hinvalid⟩ | ⟨found, hfound, hforward, hshown, hshows⟩
  · refine ⟨c.observed, .refl c, h.ordered, ?_, .inl ⟨rfl, hinvalid⟩⟩
    rw [hnone]
    exact h.observed
  · have hmove := Conveyor.Move.observe found hforward hshown
    refine ⟨found, hmove.extends, h.ordered.move hmove, ?_, .inr hshows⟩
    rw [hfound]
    rfl

omit hstart hopen in
theorem Tracks.looked_view (h : Tracks target start loop c) {index : Option Nat} {found : Nat}
    (hlooked : Looked target start loop c index found) (timeDifference : UInt32) :
    (observe loop.controller (loop.feedback index) timeDifference).1.view = none ∧ found = 0 ∨
      (observe loop.controller (loop.feedback index) timeDifference).1.view =
        some (pathAt target start (looked c found).seen) := by
  rcases hlooked.fresh with ⟨rfl, hinvalid⟩ | hshows
  · rw [view_observe, hinvalid, if_neg Bool.false_ne_true]
    exact h.view
  · exact .inr (view_of_shows hshows timeDifference)

omit hstart in
theorem Tracks.sends (h : Tracks target start loop c) (hunfaulted : ∀ point,
      (pathAt target start point).faulted = false) {index : Option Nat} {found : Nat}
    (hlooked : Looked target start loop c index found) (timeDifference : UInt32)
    (hchange : loop.controller.view ≠ some (pathAt target start (looked c found).seen))
    (hafter : (observe loop.controller (loop.feedback index) timeDifference).1.view =
      some (pathAt target start (looked c found).seen))
    (hdistant : pathAt target start (looked c found).seen ≠ targetState target) :
    (Controller.process loop.controller (loop.feedback index) timeDifference).2 =
      commandUpdate (commandForTarget (pathAt target start (looked c found).seen) target).1 {} := by
  rcases hlooked.fresh with ⟨rfl, hinvalid⟩ | hshows
  · rw [view_observe, hinvalid, if_neg Bool.false_ne_true] at hafter
    exact absurd hafter hchange
  · have hupdate := process_of_change hshows h.low h.targetValid (hunfaulted _) hchange
      (by rw [h.aim]; exact hdistant) (by rw [h.aim]; exact hopen _ hdistant) timeDifference
    rw [h.aim] at hupdate
    exact hupdate

omit hopen in
theorem pathAt_unfaulted (point : Nat) : (pathAt target start point).faulted = false := by
  have hnormal := @normal_pathAt target start hstart point
  unfold State.normal at hnormal
  simpa using (Bool.and_eq_true_iff.mp hnormal).1

omit hopen in
/-- A call keeps the target and the low pulse, and emits nothing but the command of
the point it looks at. -/
theorem Tracks.sequenced (h : Tracks target start loop c) {index : Option Nat} {found : Nat}
    (hlooked : Looked target start loop c index found) (timeDifference : UInt32) :
    Sequenced (observe loop.controller (loop.feedback index) timeDifference).1
      (Controller.process loop.controller (loop.feedback index) timeDifference) := by
  apply (process_processed loop.controller (loop.feedback index) timeDifference).sequenced
  · rw [faultResetPulseHigh_observe]
    exact h.low
  · intro state hstate
    rcases h.looked_view hlooked timeDifference with ⟨hnone, -⟩ | hsome
    · exact absurd (hnone.symm.trans hstate) (Option.some_ne_none _).symm
    · rw [← Option.some.inj (hsome.symm.trans hstate)]
      exact pathAt_unfaulted hstart _

theorem Tracks.process (h : Tracks target start loop c) (index : Option Nat)
    (timeDifference : UInt32) :
    ∃ c', c.Extends c' ∧ Tracks target start (loop.step (.process index timeDifference)) c' := by
  obtain ⟨found, hlooked⟩ := h.look hstart index
  have hview := h.looked_view hlooked timeDifference
  obtain ⟨hvalid, haim, hlow, hsame, hcommand⟩ := h.sequenced hstart hlooked timeDifference
  rw [targetValid_observe, h.targetValid] at hvalid
  rw [target_observe, h.aim] at haim hcommand
  rw [← hsame] at hview hcommand
  have hsends := h.sends hopen (pathAt_unfaulted hstart) hlooked timeDifference
  rw [← hsame] at hsends
  have hstep : loop.step (.process index timeDifference) =
      { loop with
        controller := (Controller.process loop.controller (loop.feedback index) timeDifference).1
        updates :=
          if (Controller.process loop.controller (loop.feedback index) timeDifference).2.valid then
            loop.updates ++
              [(Controller.process loop.controller (loop.feedback index) timeDifference).2]
          else loop.updates
        observed := found } := by
    rw [← hlooked.found_eq]
    rfl
  rw [hstep]
  generalize Controller.process loop.controller (loop.feedback index) timeDifference = outcome at *
  by_cases hemitted : outcome.2.valid = true
  · obtain ⟨state, hstate, hdistant, hupdate⟩ := hcommand hemitted
    obtain rfl : pathAt target start (looked c found).seen = state := by
      rcases hview with ⟨hnone, -⟩ | hsome
      · exact absurd (hnone.symm.trans hstate) (Option.some_ne_none _).symm
      · exact Option.some.inj (hsome.symm.trans hstate)
    have hready : c.base ≤ (looked c found).seen := by
      by_contra hbefore
      rw [h.base, Nat.not_le] at hbefore
      obtain ⟨-, -, hnotReady, -⟩ := @notReady_of_lt target start _ hbefore
      rw [hupdate, hnotReady] at hemitted
      exact absurd hemitted Bool.false_ne_true
    have hmove := Conveyor.Move.send
      (show (looked c found).base ≤ (looked c found).seen from hready)
    have hinForce : ({ looked c found with
        sent := c.sent ++ [(looked c found).seen] } : Conveyor).inForce = c.inForce :=
      Conveyor.inForce_send h.ordered.applied_le _
    have howner := h.owner
    have hleads := h.command
    unfold OwnerOnPath at howner
    rw [← hinForce] at howner hleads
    refine ⟨_, hlooked.grown.trans hmove.extends, ?_⟩
    rw [if_pos hemitted]
    exact { h with
      ordered := hlooked.ordered.move hmove
      targetValid := hvalid
      aim := haim
      low := hlow
      view := hview
      sent := fun _ _ _ => List.mem_append_right _ (List.mem_singleton_self _)
      owner := howner
      command := hleads
      updates := List.rel_append h.updates (List.Forall₂.cons ⟨hdistant, hupdate⟩ .nil)
      observed := rfl }
  · refine ⟨looked c found, hlooked.grown, ?_⟩
    rw [if_neg hemitted]
    refine { h with
      ordered := hlooked.ordered
      targetValid := hvalid
      aim := haim
      low := hlow
      view := hview
      sent := ?_
      observed := rfl }
    intro hafter hbase hdistant
    by_cases hchange : loop.controller.view = some (pathAt target start (looked c found).seen)
    · rcases h.view with ⟨hnone, -⟩ | hsome
      · exact absurd (hnone.symm.trans hchange) (Option.some_ne_none _).symm
      · have hpoint := Option.some.inj (hsome.symm.trans hchange)
        have hseen : c.seen = (looked c found).seen :=
          pathAt_injective hstart hopen (h.ordered.seen_le.trans h.reach)
            (hlooked.ordered.seen_le.trans h.reach) hpoint
        rw [← hseen] at hbase hdistant ⊢
        exact h.sent hsome hbase hdistant
    · have hupdate := hsends hchange hafter hdistant
      have hpoint : firstPoint start ≤ (looked c found).seen := by
        rw [← h.base]
        exact hbase
      have hfits := commandFits_pathAt hstart hopen hpoint hdistant
      refine absurd ?_ hemitted
      rw [hupdate]
      exact valid_commandUpdate hfits.ordinary.1

/-- What the Device may be transferred to from a point of the path. -/
def Onward (target : Target) (start next : State) (controlword : Word) (c : Conveyor) : Prop :=
  next = pathAt target start c.position ∧ next = .switchOnDisabled ∨
    next = pathAt target start (c.position + 1) ∧ c.position = c.inForce ∧
      Leads target start controlword c.position

omit hstart hopen in
theorem Tracks.base_le_of_owned (h : Tracks target start loop c)
    (howned : loop.device.control.Owned) : c.base ≤ c.position := by
  by_contra hbefore
  have hlt : c.position < c.base := Nat.lt_of_not_le hbefore
  rw [h.base] at hlt
  obtain ⟨hzero, -, hnotReady, -⟩ := @notReady_of_lt target start _ hlt
  have hstate : loop.device.control.state = .notReadyToSwitchOn := h.state.trans hnotReady
  by_cases hop : loop.device.control.operation = none
  · obtain ⟨-, hpending⟩ : True ∧ _ := ⟨trivial, howned.resolve_left (absurd hop)⟩
    have hallowed := h.ownership.mode_state hpending
    rw [hstate] at hallowed
    exact absurd hallowed (by decide)
  · have hknown : loop.device.pdsTransitionTargetState ≠ .unknown := mt h.ownership.target.mpr hop
    rcases h.owner with hnone | ⟨hpresent, hdisabled⟩ | ⟨-, hposition, -⟩
    · exact hknown hnone
    · rw [hpresent, hnotReady] at hdisabled
      exact absurd hdisabled (by decide)
    · have hbase := h.ordered.base_le
      rw [h.base, ← hposition] at hbase
      exact absurd hlt (Nat.not_lt.mpr hbase)

omit hstart hopen in
/-- 0x6040 holds the command of the present point, the one of the point before, or the
one found at the start, which asks for nothing. -/
theorem Tracks.command_cases (h : Tracks target start loop c) (hbase : c.base ≤ c.position) :
    c.position = c.inForce ∧ Leads target start loop.controlword c.position ∨
      c.position = c.inForce + 1 ∧ Leads target start loop.controlword c.inForce ∨
      c.applied = 0 ∧ acceptedTransition (pathAt target start c.position)
        (pdsCommand loop.controlword) = none := by
  have hlag := h.ordered.lag
  have hle := h.inForce_le hbase
  rcases h.command with hleads | ⟨happlied, hfirst, hrejected⟩
  · rcases Nat.eq_or_lt_of_le hle with heq | hlt
    · rw [heq] at hleads
      exact .inl ⟨heq.symm, hleads⟩
    · exact .inr (.inl ⟨by omega, hleads⟩)
  · have hpoint : c.position = c.base := Nat.le_antisymm hfirst hbase
    rw [← hpoint] at hrejected
    exact .inr (.inr ⟨happlied, hrejected⟩)

/-- Under the order of its point a Device accepts the step to the next one. -/
theorem Tracks.fits (h : Tracks target start loop c) {point : Nat} (hbase : c.base ≤ point)
    (hleads : Leads target start loop.controlword point) :
    CommandFits (pathAt target start point) (pathAt target start (point + 1))
      (pdsCommand loop.controlword) := by
  rw [h.base] at hbase
  rw [hleads.2]
  exact commandFits_pathAt hstart hopen hbase hleads.1

/-- Every transition the FSA may latch stays on the path. -/
theorem Tracks.latched (h : Tracks target start loop c) {op : DriveOperation} {next : State}
    {base : Control}
    (hlatch : Latch (loop.device.control.sampled loop.controlword) (pdsCommand loop.controlword)
      op next base) : Onward target start next loop.controlword c := by
  have hstate : loop.device.control.state = pathAt target start c.position := h.state
  have hfits : ∀ point, c.base ≤ point → Leads target start loop.controlword point → _ :=
    fun point => h.fits hstart hopen
  cases hlatch with
  | held hop htarget =>
      have hknown : loop.device.control.target ≠ .unknown := by
        apply mt h.ownership.target.mpr
        rw [show loop.device.control.operation = some op from hop]
        exact Option.some_ne_none op
      rw [← show loop.device.control.target = next from htarget]
      exact h.owner.resolve_left hknown
  | begun hbegins =>
      cases hbegins with
      | accepted hidle haccepted =>
          rw [show (loop.device.control.sampled loop.controlword).state =
            pathAt target start c.position from hstate] at haccepted
          have hbase : c.base ≤ c.position := by
            by_contra hbefore
            rw [h.base, Nat.not_le] at hbefore
            obtain ⟨-, -, hnotReady, -⟩ := @notReady_of_lt target start _ hbefore
            rw [hnotReady] at haccepted
            exact absurd haccepted (Option.some_ne_none _).symm
          rcases h.command_cases hbase with ⟨hpoint, hleads⟩ | ⟨hpoint, hleads⟩ | ⟨-, hrejected⟩
          · obtain ⟨other, hother⟩ := (hfits _ hbase hleads).accepted
            have hnext := (Prod.mk.inj (Option.some.inj (hother.symm.trans haccepted))).2
            exact .inr ⟨hnext.symm, hpoint, hleads⟩
          · have honce := (hfits _ h.ordered.base_le hleads).once
            rw [← hpoint] at honce
            exact absurd (honce.symm.trans haccepted) (Option.some_ne_none _).symm
          · exact absurd (hrejected.symm.trans haccepted) (Option.some_ne_none _).symm
      | disableVoltage howned hcommand hlower hop htarget =>
          have hbase := h.base_le_of_owned howned
          rcases h.command_cases hbase with ⟨hpoint, hleads⟩ | ⟨hpoint, hleads⟩ | ⟨-, hrejected⟩
          · have hnext := (hfits _ hbase hleads).disableVoltage hcommand
            exact .inr ⟨htarget.trans hnext.symm, hpoint, hleads⟩
          · have hpresent := (hfits _ h.ordered.base_le hleads).disableVoltage hcommand
            rw [← hpoint] at hpresent
            exact .inl ⟨htarget.trans hpresent.symm, htarget⟩
          · rw [hcommand] at hrejected
            have hready := @ready_of_firstPoint target start hstart c.position (h.base ▸ hbase)
            have hpresent := disableVoltage_rejected
              (@normal_pathAt target start hstart c.position) hready hrejected
            exact .inl ⟨htarget.trans hpresent.symm, htarget⟩
      | quickStop howned hcommand henabled hlower hop htarget =>
          have hbase := h.base_le_of_owned howned
          -- an owner that leads to OPERATION_ENABLED was latched under the present order
          have hpending : loop.device.control.target = .operationEnabled →
              c.position = c.inForce ∧ Leads target start loop.controlword c.position := by
            intro hsame
            rcases h.owner with hnone | ⟨-, hdisabled⟩ | ⟨-, hpoint, hleads⟩
            · exact absurd (hnone.symm.trans hsame) (by decide)
            · exact absurd (hdisabled.symm.trans hsame) (by decide)
            · exact ⟨hpoint, hleads⟩
          rcases h.command_cases hbase with ⟨hpoint, hleads⟩ | ⟨hpoint, hleads⟩ | ⟨-, hrejected⟩
          · have hnext := ((hfits _ hbase hleads).quickStop hcommand).2
            exact .inr ⟨htarget.trans hnext.symm, hpoint, hleads⟩
          · have hpresent := ((hfits _ h.ordered.base_le hleads).quickStop hcommand).2
            rw [← hpoint, ← hstate] at hpresent
            rcases henabled with hsame | hsame
            · exact absurd (hpresent.symm.trans hsame) (by decide)
            · obtain ⟨hcurrent, -⟩ := hpending hsame
              omega
          · rcases henabled with hsame | hsame
            · rw [hcommand, ← hstate,
                show loop.device.control.state = .operationEnabled from hsame] at hrejected
              exact absurd hrejected (Option.some_ne_none _)
            · obtain ⟨other, hother⟩ := (hfits _ hbase (hpending hsame).2).accepted
              exact absurd (hrejected.symm.trans hother) (Option.some_ne_none _).symm

/-- What a clean pass does to the point the Device stands at. -/
inductive Passed (target : Target) (start : State) (loop : Loop) (c : Conveyor)
    (after : Device.Axis) :
    Prop where
  | kept (hstate : after.state = loop.device.state)
      (howner : after.pdsTransitionTargetState = loop.device.pdsTransitionTargetState ∨
        Onward target start after.pdsTransitionTargetState loop.controlword c)
  | completed (hpoint : after.state = pathAt target start c.position)
      (howner : after.pdsTransitionTargetState = .unknown)
  | moved (hstate : after.state = pathAt target start (c.position + 1))
      (howner : after.pdsTransitionTargetState = .unknown)
      (hpoint : c.position < c.base ∨
        c.position = c.inForce ∧ Leads target start loop.controlword c.position)

theorem Tracks.passed (h : Tracks target start loop c) {inputs : PassInputs}
    (hclean : loop.Clean (.pass inputs)) :
    Passed target start loop c (processAxis (loop.surroundings inputs) loop.device) := by
  have hnormal : loop.device.state.faulted = false := by
    rw [h.state]
    exact pathAt_unfaulted hstart c.position
  have hmove := undisturbed_processAxis h.ownership h.bound
    (fun _ => rfl : ∀ site, (loop.surroundings inputs).controlword site = some loop.controlword)
    hnormal hclean
  have hlatched : ∀ {op : DriveOperation} {next : State} {base : Control},
      Latch (loop.device.control.sampled loop.controlword) (pdsCommand loop.controlword)
        op next base → Onward target start next loop.controlword c :=
    fun hlatch => h.latched hstart hopen hlatch
  cases hmove with
  | waiting _ hstate htarget => exact .kept hstate (.inl htarget)
  | powerUp hidle hnotReady hstate htarget =>
      have hbefore : c.position < firstPoint start := by
        by_contra hreached
        have hready := @ready_of_firstPoint target start hstart c.position
          (Nat.le_of_not_lt hreached)
        rw [← h.state] at hready
        exact hready hnotReady
      obtain ⟨-, -, -, hnext⟩ := @notReady_of_lt target start _ hbefore
      have hfree : loop.device.control.target = .unknown :=
        h.ownership.target.mp (Control.not_owned.mp hidle).1
      exact .moved (hstate.trans hnext.symm) (htarget.trans hfree) (.inl (h.base ▸ hbefore))
  | busy hlatch hstate htarget =>
      have honward := hlatched hlatch
      rw [← htarget] at honward
      exact .kept hstate (.inr honward)
  | done hlatch hstate htarget =>
      rcases hlatched hlatch with ⟨hpresent, -⟩ | ⟨hnext, hpoint, hleads⟩
      · exact .completed (hstate.trans hpresent) htarget
      · exact .moved (hstate.trans hnext) htarget (.inr ⟨hpoint, hleads⟩)

omit hstart hopen in
/-- A Statusword that shows the Device belongs to the point it stands at. -/
theorem Tracks.publish (h : Tracks target start loop c) {statusword : Word}
    (hshows : decodeStatusword statusword = loop.device.state) :
    Tracks target start { loop with statuswords := loop.statuswords ++ [statusword] }
      { c with shown := c.shown ++ [c.position] } := by
  have hmove := @Conveyor.Move.publish c
  have hseen := Conveyor.seen_publish h.ordered.observed_lt
  have hview := h.view
  have hsent := h.sent
  rw [← hseen] at hview hsent
  rw [h.state] at hshows
  exact { h with
    ordered := h.ordered.move hmove
    view := hview
    sent := hsent
    statuswords := List.rel_append h.statuswords (List.Forall₂.cons hshows .nil) }

theorem Tracks.moved (h : Tracks target start loop c) {after : Device.Axis}
    (hpassed : Passed target start loop c after) (hownership : after.control.Ownership)
    (hbound : after.Bound) :
    ∃ c', c.Extends c' ∧ Tracks target start { loop with device := after } c' := by
  have hstays : after.state = pathAt target start c.position →
      OwnerOnPath target start after.pdsTransitionTargetState loop.controlword c →
      ∃ c', c.Extends c' ∧ Tracks target start { loop with device := after } c' := by
    intro hstate howner
    exact ⟨c, .refl c, { h with
      ownership := hownership
      bound := hbound
      state := hstate
      owner := howner }⟩
  cases hpassed with
  | kept hstate howner =>
      refine hstays (hstate.trans h.state) ?_
      rcases howner with hsame | honward
      · rw [hsame]
        exact h.owner
      · exact .inr honward
  | completed hpoint howner => exact hstays hpoint (.inl howner)
  | moved hstate howner hpoint =>
      have hle : c.position ≤ c.inForce := by
        rcases hpoint with hbefore | ⟨hsame, -⟩
        · have hbase := h.ordered.base_le
          omega
        · exact hsame.le
      have hdistant : pathAt target start c.position ≠ targetState target := by
        rcases hpoint with hbefore | ⟨-, hleads⟩
        · rw [h.base] at hbefore
          obtain ⟨-, -, hnotReady, -⟩ := @notReady_of_lt target start _ hbefore
          rw [hnotReady]
          exact (targetState_ready target).symm
        · exact hleads.1
      have hreach : c.position + 1 ≤ distance target start := by
        have hne := mt (pathAt_eq_target_iff hstart hopen h.reach).mpr hdistant
        have hle := h.reach
        omega
      have hmove := Conveyor.Move.advance hle
      refine ⟨_, hmove.extends, { h with
        ordered := h.ordered.move hmove
        reach := hreach
        ownership := hownership
        bound := hbound
        state := hstate
        owner := .inl howner
        command := ?_ }⟩
      rcases h.command with hleads | ⟨happlied, hfirst, hrejected⟩
      · exact .inl hleads
      · rcases hpoint with hbefore | ⟨hsame, hleads⟩
        · exact .inr ⟨happlied, hbefore, hrejected⟩
        · rw [hsame] at hleads
          exact .inl hleads

/-- The Statusword of a pass is the newest one, and shows the point reached. -/
theorem Tracks.pass (h : Tracks target start loop c) {inputs : PassInputs}
    (hclean : loop.Clean (.pass inputs)) :
    ∃ c', c.Extends c' ∧ Tracks target start (loop.step (.pass inputs)) c' := by
  have hownership := ownership_processAxis (loop.surroundings inputs) h.ownership
  have hbound := bound_processAxis (loop.surroundings inputs) h.bound
  have hshown := @decodeStatusword_processAxis (loop.surroundings inputs) _ h.ownership rfl
  have hpassed := h.passed hstart hopen hclean
  obtain ⟨c', hgrown, hmoved⟩ := h.moved hstart hopen hpassed hownership hbound
  have hpublish := @Conveyor.Move.publish c'
  exact ⟨_, hgrown.trans hpublish.extends, hmoved.publish hshown⟩

theorem Tracks.step (h : Tracks target start loop c) {input : LoopInput}
    (hclean : loop.Clean input) :
    ∃ c', c.Extends c' ∧ Tracks target start (loop.step input) c' := by
  cases input with
  | process index timeDifference => exact h.process hstart hopen index timeDifference
  | apply => exact h.apply hstart hopen
  | pass inputs => exact h.pass hstart hopen hclean

end Steps

end CanopenRtt.Cia402
