import CanopenRtt.Cia402.Remote
/-!
# The loop behind a remote axis

A client behind SDO is a loop whose next update waits until the transport confirms it. An update
that arrived without a confirmation is written once more, which changes nothing.
-/

namespace CanopenRtt.Cia402

open CanopenRtt.Support CanopenRtt.Profile Controller Device

/-! ## The loop behind a remote axis -/

/-- The pending update is still to come, or has reached 0x6040 without a confirmation. -/
inductive Pending (loop : Loop) : Bool → ControlwordUpdate → Prop where
  | none {update : ControlwordUpdate} (happlied : loop.applied = loop.updates.length) :
      Pending loop false update
  | ahead {update : ControlwordUpdate} (hnext : loop.updates[loop.applied]? = some update)
      (hlast : loop.applied + 1 = loop.updates.length) : Pending loop true update
  | repeated {update : ControlwordUpdate} (happlied : loop.applied = loop.updates.length)
      (hsame : applyControlwordUpdate loop.controlword update = loop.controlword) :
      Pending loop true update

/-- The Device and its objects. The last Statusword shows the state. -/
structure Mirrors (remote : Remote) (loop : Loop) : Prop where
  device : loop.device = remote.device
  controlword : loop.controlword = remote.controlword
  shown : loop.statuswords.getLast? = some remote.device.image.statusword
  fresh : decodeStatusword remote.device.image.statusword = remote.device.state

structure Simulates (remote : Remote) (loop : Loop) : Prop extends Mirrors remote loop where
  controller : loop.controller = remote.client.controller
  pending : Pending loop remote.client.pendingUpdateValid remote.client.pendingUpdate

/-- The updates and 0x6040 stay. -/
structure Beside (before after : Loop) : Prop where
  controlword : after.controlword = before.controlword
  updates : after.updates = before.updates
  applied : after.applied = before.applied

theorem applyControlwordUpdate_twice (controlword : Word) (update : ControlwordUpdate) :
    applyControlwordUpdate (applyControlwordUpdate controlword update) update =
      applyControlwordUpdate controlword update := by
  unfold applyControlwordUpdate
  split_ifs
  · rfl
  · ext i
    simp only [BitVec.getElem_or, BitVec.getElem_and, BitVec.getElem_not]
    cases update.mask[i] <;> simp

theorem Pending.beside {before after : Loop} {valid : Bool} {update : ControlwordUpdate}
    (h : Pending before valid update) (hbeside : Beside before after) :
    Pending after valid update := by
  cases h with
  | none happlied =>
      apply Pending.none
      rw [hbeside.applied, hbeside.updates, happlied]
  | ahead hnext hlast =>
      apply Pending.ahead
      · rw [hbeside.applied, hbeside.updates, hnext]
      · rw [hbeside.applied, hbeside.updates, hlast]
  | repeated happlied hsame =>
      apply Pending.repeated
      · rw [hbeside.applied, hbeside.updates, happlied]
      · rw [hbeside.controlword, hsame]

theorem Pending.congr {loop : Loop} {valid : Bool} {update other : ControlwordUpdate}
    (h : Pending loop valid update) (hsame : valid = true → other = update) :
    Pending loop valid other := by
  cases h with
  | none happlied => exact .none happlied
  | ahead hnext hlast =>
      rw [hsame rfl]
      exact .ahead hnext hlast
  | repeated happlied hkept =>
      rw [hsame rfl]
      exact .repeated happlied hkept

theorem Pending.applied_all {loop : Loop} {update : ControlwordUpdate}
    (h : Pending loop false update) : loop.applied = loop.updates.length := by
  cases h with
  | none happlied => exact happlied

section Simulation

variable {target : Target} {start : State} {remote : Remote} {loop : Loop} {c : Conveyor}
  (hstart : start.normal = true) (hopen : OpenPath target start)

theorem Mirrors.state (hmirrors : Mirrors remote loop) (h : Tracks target start loop c) :
    remote.device.state = pathAt target start c.position := by
  rw [← hmirrors.device]
  exact h.state

/-- Time that passes for the Controller. -/
theorem Tracks.aged (h : Tracks target start loop c) (age : UInt32) :
    Tracks target start { loop with controller := loop.controller.aged age } c :=
  { h with
    targetValid := h.targetValid
    aim := h.aim
    low := h.low
    view := h.view
    sent := h.sent }

include hstart hopen

theorem Pending.deliver {update : ControlwordUpdate} {done valid : Bool} {controlword : Word}
    (hpending : Pending loop true update) (h : Tracks target start loop c)
    (hfate : Fate loop.controlword update done valid controlword) :
    ∃ after c', c.Extends c' ∧ Tracks target start after c' ∧ after.device = loop.device ∧
      after.statuswords = loop.statuswords ∧ after.controller = loop.controller ∧
      after.controlword = controlword ∧ Pending after valid update := by
  have hreached : ∃ after c', c.Extends c' ∧ Tracks target start after c' ∧
      after.device = loop.device ∧ after.statuswords = loop.statuswords ∧
      after.controller = loop.controller ∧
      after.controlword = applyControlwordUpdate loop.controlword update ∧
      after.applied = after.updates.length := by
    cases hpending with
    | ahead hnext hlast =>
        obtain ⟨c', hextends, hafter⟩ := h.apply hstart hopen
        have hstep : loop.step .apply = { loop with
            controlword := applyControlwordUpdate loop.controlword update
            applied := loop.applied + 1 } := by
          rw [Loop.step, hnext]
        rw [hstep] at hafter
        exact ⟨_, c', hextends, hafter, rfl, rfl, rfl, rfl, hlast⟩
    | repeated happlied hsame =>
        exact ⟨loop, c, .refl c, h, rfl, rfl, rfl, hsame.symm, happlied⟩
  cases hfate with
  | kept _ => exact ⟨loop, c, .refl c, h, rfl, rfl, rfl, rfl, hpending⟩
  | lost _ =>
      obtain ⟨after, c', hextends, hafter, hdevice, hwords, hcontroller, hword, happlied⟩ :=
        hreached
      refine ⟨after, c', hextends, hafter, hdevice, hwords, hcontroller, hword, ?_⟩
      apply Pending.repeated happlied
      rw [hword, applyControlwordUpdate_twice]
  | confirmed =>
      obtain ⟨after, c', hextends, hafter, hdevice, hwords, hcontroller, hword, happlied⟩ :=
        hreached
      exact ⟨after, c', hextends, hafter, hdevice, hwords, hcontroller, hword, .none happlied⟩

theorem Mirrors.pass (hmirrors : Mirrors remote loop) (h : Tracks target start loop c)
    {inputs : PassInputs} (hclean : remote.CleanPass inputs) :
    ∃ c', c.Extends c' ∧ Tracks target start (loop.step (.pass inputs)) c' ∧
      Mirrors (remote.pass inputs) (loop.step (.pass inputs)) := by
  have hdevice : (loop.step (.pass inputs)).device = (remote.pass inputs).device := by
    unfold Loop.step Loop.surroundings Remote.pass
    rw [hmirrors.device, hmirrors.controlword]
  have hloop : loop.Clean (.pass inputs) := by
    unfold Loop.Clean
    rw [hdevice]
    exact hclean
  obtain ⟨c', hextends, hafter⟩ := h.pass hstart hopen hloop
  have hshows := @decodeStatusword_processAxis (loop.surroundings inputs) _ h.ownership rfl
  refine ⟨c', hextends, hafter, hdevice, hmirrors.controlword, ?_, ?_⟩
  · rw [← hdevice]
    exact List.getLast?_concat
  · rw [← hdevice]
    exact hshows

/-- The passes of a call. -/
theorem Mirrors.passes (hmirrors : Mirrors remote loop) (h : Tracks target start loop c)
    {passes : List PassInputs} (hclean : EveryStep Remote.pass Remote.CleanPass remote passes) :
    ∃ after c', c.Extends c' ∧ Tracks target start after c' ∧
      Mirrors (run Remote.pass remote passes) after ∧ after.controller = loop.controller ∧
      Beside loop after := by
  induction passes generalizing remote loop c with
  | nil => exact ⟨loop, c, .refl c, h, hmirrors, rfl, rfl, rfl, rfl⟩
  | cons inputs passes ih =>
      obtain ⟨c₁, hextends, hafter, hnext⟩ := hmirrors.pass hstart hopen h hclean.1
      obtain ⟨after, c', hmore, htracks, hlast, hcontroller, hbeside⟩ := ih hnext hafter hclean.2
      exact ⟨after, c', hextends.trans hmore, htracks, hlast, hcontroller,
        hbeside.controlword, hbeside.updates, hbeside.applied⟩

/-- The passes of a call, and the fate of its update. -/
theorem Mirrors.finish (hmirrors : Mirrors remote loop) (h : Tracks target start loop c)
    {passes : List PassInputs} (hclean : EveryStep Remote.pass Remote.CleanPass remote passes)
    {client : Client} {controlword : Word} (hcontroller : loop.controller = client.controller)
    (hends : client.pendingUpdateValid = false ∧ controlword = remote.controlword ∧
        loop.applied = loop.updates.length ∨
      ∃ update done, Pending loop true update ∧
        Fate remote.controlword update done client.pendingUpdateValid controlword ∧
        (client.pendingUpdateValid = true → client.pendingUpdate = update)) :
    ∃ after c', c.Extends c' ∧ Tracks target start after c' ∧
      Simulates { client := client, device := (run Remote.pass remote passes).device,
                  controlword := controlword } after := by
  obtain ⟨passed, c₁, hextends, hpassed, hlast, hstays, hbeside⟩ :=
    hmirrors.passes hstart hopen h hclean
  have hword : passed.controlword = remote.controlword :=
    hbeside.controlword.trans hmirrors.controlword
  rcases hends with ⟨hvalid, hsame, happlied⟩ | ⟨update, done, hpending, hfate, hkept⟩
  · refine ⟨passed, c₁, hextends, hpassed, ⟨hlast.device, hword.trans hsame.symm, hlast.shown,
      hlast.fresh⟩, hstays.trans hcontroller, ?_⟩
    dsimp only
    rw [hvalid]
    apply Pending.none
    rw [hbeside.applied, hbeside.updates, happlied]
  · rw [← hword] at hfate
    obtain ⟨after, c', hmore, hafter, hdevice, hwords, hsame, hreached, hstill⟩ :=
      (hpending.beside hbeside).deliver hstart hopen hpassed hfate
    refine ⟨after, c', hextends.trans hmore, hafter, ⟨hdevice.trans hlast.device, hreached, ?_,
      hlast.fresh⟩, hsame.trans (hstays.trans hcontroller), hstill.congr hkept⟩
    rw [hwords]
    exact hlast.shown

omit hstart hopen in
/-- What an upload of 0x6041 finds is what a read of the loop may find. -/
theorem Mirrors.read (hmirrors : Mirrors remote loop) (h : Tracks target start loop c) :
    loop.feedback (some (loop.statuswords.length - 1)) =
      { statuswordValid := true, statusword := remote.device.image.statusword } := by
  have hlength := (List.forall₂_iff_get.mp h.statuswords).1
  have hobserved := h.ordered.observed_lt
  have hread : loop.read (some (loop.statuswords.length - 1)) =
      some (loop.statuswords.length - 1, remote.device.image.statusword) := by
    unfold Loop.read
    dsimp only
    rw [if_neg (by rw [h.observed]; omega), ← List.getLast?_eq_getElem?, hmirrors.shown]
    rfl
  unfold Loop.feedback
  rw [hread]

omit hstart hopen in
theorem Mirrors.exists_read (hmirrors : Mirrors remote loop) (h : Tracks target start loop c)
    {feedback : Feedback} {failed : Prop}
    (hfeedback : feedback =
        { statuswordValid := true, statusword := remote.device.image.statusword } ∨
      failed ∧ feedback = { statuswordValid := false, statusword := 0 }) :
    ∃ index, loop.feedback index = feedback := by
  rcases hfeedback with hread | ⟨-, hfailed⟩
  · exact ⟨_, (hmirrors.read h).trans hread.symm⟩
  · exact ⟨none, hfailed.symm⟩

/-- Every process call is a call of the loop, the passes, and at most one update. -/
theorem Simulates.call (hsimulates : Simulates remote loop) (h : Tracks target start loop c)
    (hconfigured : Configured remote.client) {timeDifference : UInt32} {transfers : Transfers}
    (hclean : remote.Clean (.call timeDifference transfers)) :
    ∃ after c', c.Extends c' ∧ Tracks target start after c' ∧
      Simulates (remote.step (.call timeDifference transfers)) after := by
  have hcalled := @called_outcome remote transfers hconfigured timeDifference
  have hmirrors := hsimulates.toMirrors
  unfold Remote.step
  dsimp only
  generalize remote.delivered (remote.outcome timeDifference transfers) transfers.delivery = word
    at hcalled ⊢
  generalize (remote.outcome timeDifference transfers).client = client at hcalled ⊢
  have hidle : remote.client.pendingUpdateValid = false →
      loop.applied = loop.updates.length := by
    intro hvalid
    have hpending := hsimulates.pending
    rw [hvalid] at hpending
    exact hpending.applied_all
  cases hcalled with
  | idle age hvalid _ hcontroller hafter =>
      apply Mirrors.finish hstart hopen
        (⟨hmirrors.device, hmirrors.controlword, hmirrors.shown, hmirrors.fresh⟩ :
          Mirrors remote { loop with controller := loop.controller.aged age })
        (h.aged age) hclean
      · rw [hcontroller, hsimulates.controller]
      · exact .inl ⟨hafter, rfl, hidle hvalid⟩
  | retried age _ hvalid hcontroller hfate hsame =>
      have hpending := hsimulates.pending
      rw [hvalid] at hpending
      apply Mirrors.finish hstart hopen
        (⟨hmirrors.device, hmirrors.controlword, hmirrors.shown, hmirrors.fresh⟩ :
          Mirrors remote { loop with controller := loop.controller.aged age })
        (h.aged age) hclean
      · rw [hcontroller, hsimulates.controller]
      · exact .inr ⟨_, _, hpending.beside ⟨rfl, rfl, rfl⟩, hfate, hsame⟩
  | @stepped feedback elapsed outcome _ hvalid hfeedback hprocess hcontroller hafter =>
      obtain ⟨index, hindex⟩ := hmirrors.exists_read h hfeedback
      obtain ⟨c₁, hextends, hstepped⟩ := h.process hstart hopen index elapsed
      have hloop : loop.step (.process index elapsed) = { loop with
          controller := outcome.1
          updates := if outcome.2.valid then loop.updates ++ [outcome.2] else loop.updates
          observed := ((loop.read index).map Prod.fst).getD loop.observed } := by
        unfold Loop.step
        dsimp only
        rw [hindex, hsimulates.controller, hprocess]
      rw [hloop] at hstepped
      have hnext : Mirrors remote { loop with
          controller := outcome.1
          updates := if outcome.2.valid then loop.updates ++ [outcome.2] else loop.updates
          observed := ((loop.read index).map Prod.fst).getD loop.observed } :=
        ⟨hmirrors.device, hmirrors.controlword, hmirrors.shown, hmirrors.fresh⟩
      have hends : client.pendingUpdateValid = false ∧ word = remote.controlword ∧ loop.applied =
            (if outcome.2.valid then loop.updates ++ [outcome.2] else loop.updates).length ∨
          ∃ update done, Pending { loop with
              controller := outcome.1
              updates := if outcome.2.valid then loop.updates ++ [outcome.2] else loop.updates
              observed := ((loop.read index).map Prod.fst).getD loop.observed } true update ∧
            Fate remote.controlword update done client.pendingUpdateValid word ∧
            (client.pendingUpdateValid = true → client.pendingUpdate = update) := by
        rcases hafter with ⟨hsilent, hnone, hsame⟩ | ⟨hemitted, hfate, hkept⟩
        · refine .inl ⟨hnone, hsame, ?_⟩
          rw [hsilent]
          exact hidle hvalid
        · refine .inr ⟨_, _, .ahead ?_ ?_, hfate, hkept⟩
          · rw [hemitted, if_pos rfl, hidle hvalid]
            exact List.getElem?_concat_length
          · rw [hemitted, if_pos rfl, hidle hvalid, List.length_append]
            rfl
      obtain ⟨after, c', hmore, hlast⟩ :=
        hnext.finish hstart hopen hstepped hclean hcontroller.symm hends
      exact ⟨after, c', hextends.trans hmore, hlast⟩

theorem Simulates.step (hsimulates : Simulates remote loop) (h : Tracks target start loop c)
    (hconfigured : Configured remote.client) {input : RemoteInput} (hclean : remote.Clean input) :
    ∃ after c', c.Extends c' ∧ Tracks target start after c' ∧
      Simulates (remote.step input) after := by
  cases input with
  | call timeDifference transfers => exact hsimulates.call hstart hopen h hconfigured hclean
  | pass inputs =>
      obtain ⟨c', hextends, hafter, hmirrors⟩ := hsimulates.pass hstart hopen h hclean
      exact ⟨_, c', hextends, hafter, hmirrors, hsimulates.controller,
        hsimulates.pending.beside ⟨rfl, rfl, rfl⟩⟩

end Simulation

theorem configured_call {client : Client} (h : Configured client) (timeDifference : UInt32)
    (answers : Answers) :
    Configured (clientProcessCall client timeDifference true answers).client := by
  have hmoves := moves_clientProcessCall client timeDifference true answers
  unfold Outcome.Moves at hmoves
  generalize clientProcessCall client timeDifference true answers = outcome at hmoves ⊢
  generalize (if outcome.step.statuswordValid then some outcome.step.statusword else none) =
    observed at hmoves
  generalize outcome.written = written at hmoves
  generalize outcome.client = next at hmoves ⊢
  cases hmoves with
  | _ => exact ⟨h.1, h.2, h.3, h.4, h.5⟩

end CanopenRtt.Cia402
