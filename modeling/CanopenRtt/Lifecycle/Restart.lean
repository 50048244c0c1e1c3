import CanopenRtt.Lifecycle.FailedInit
/-!
# An initialisation at which nothing fails

Whatever failed before, a startable application starts when no answer is an error.
-/

namespace CanopenRtt.Lifecycle

open CanopenRtt.Support

/-! ## The registry -/

namespace Host

variable {setup : Setup} {host : Host}

theorem runtimeInit_succeeds :
    (host.runtimeInit setup (fun _ => .ok) .ok).2 = .ok := by
  have hslot : ∀ (s : Host) (i : Nat), (runtimeInitSlot setup (fun _ => .ok) s i).2 = .ok := by
    intro s i
    unfold runtimeInitSlot Setup.answer
    simp
  unfold runtimeInit
  dsimp only
  rw [if_pos (runWhile_good hslot host _)]

theorem runtimeStart_succeeds :
    (host.runtimeStart setup (fun _ => .ok) .ok).2 = .ok := by
  have hslot : ∀ (s : Host) (i : Nat), (runtimeStartSlot setup (fun _ => .ok) s i).2 = .ok := by
    intro s i
    unfold runtimeStartSlot
    dsimp only
    split <;> rfl
  unfold runtimeStart
  dsimp only
  rw [if_pos (runWhile_good hslot host _)]

/-- The slots of the remaining rounds are free. -/
theorem bindCommunication_succeeds
    (hfree : ∀ slot ∈ host.registered, slot.communicationBound = false) :
    (host.bindCommunication setup true fun _ => .ok).2 = .ok := by
  have hanswer : ∀ slot, setup.answer (fun _ => .ok) .communicationBind slot = .ok := by
    intro slot
    unfold Setup.answer
    split <;> rfl
  have hstep : ∀ i rest (s : Host),
      (i :: rest).Nodup ∧ (∀ j ∈ i :: rest, (s.app.slots j).communicationBound = false) →
      (bindSlot setup (fun _ => .ok) s i).2 = .ok →
      rest.Nodup ∧
        ∀ j ∈ rest, ((bindSlot setup (fun _ => .ok) s i).1.app.slots j).communicationBound =
          false := by
    rintro i rest s ⟨hnodup, hrest⟩ hok
    obtain ⟨hnew, hnodup⟩ := List.nodup_cons.mp hnodup
    refine ⟨hnodup, fun j hj => ?_⟩
    have hne : j ≠ i := by
      rintro rfl
      exact hnew hj
    rw [(bindSlot_ok hok).2.1, Function.update_of_ne hne]
    exact hrest j (List.mem_cons_of_mem _ hj)
  rcases @runWhile_remaining _ _ _ _ RtErr.ok (bindSlot setup fun _ => .ok)
      (fun rest s => rest.Nodup ∧ ∀ i ∈ rest, (s.app.slots i).communicationBound = false)
      hstep host (List.range host.app.count)
      ⟨List.nodup_range, fun i hi => hfree _ (getElem_mem_cells (List.mem_range.mp hi))⟩ with
    ⟨-, hok⟩ | ⟨i, rest, s, ⟨-, hrest⟩, hbad, -⟩
  · exact hok
  · exact absurd (hanswer _) (bindSlot_failed (hrest i List.mem_cons_self) hbad).2.1

end Host

/-! ## The stages -/

section

variable {build : Build} {base : List Event} {slots : List (Key × Option Nat)}
  {state : Initialising}

theorem resetCommunication_succeeds
    (h : Midway build base slots Stage.resetCommunication.rank state) :
    (state.node.resetCommunication build {} true).2 = .ok := by
  have hmainline : build.globalTimerNext = true → state.node.mainlineInitialized = true :=
    fun hnext => h.lawful.coherent.mainline.symm.trans
      (h.established .mainlineEvent .mainlineInit hnext rfl (by decide))
  have hnode : ∃ canNormal trace,
      ((state.node.communicationStop build).canDisable).canInit true =
        { state.node with canDevice := true, canNormal := canNormal, trace := trace } := by
    rw [Node.communicationStop_eq]
    unfold Node.canInit Node.canDisable
    simp only [Node.emitIf_eq]
    exact ⟨_, _, rfl⟩
  obtain ⟨canNormal, trace, hnode⟩ := hnode
  have hbind : (((state.node.communicationStop build).canDisable.canInit true).registry
      (·.bindCommunication build.setup true fun _ => .ok)).2 = .ok := by
    rw [hnode]
    exact Host.bindCommunication_succeeds (h.free (Nat.le_refl _))
  have hcomplete : ((((state.node.communicationStop build).canDisable.canInit true).registry
      (·.bindCommunication build.setup true fun _ => .ok)).1.completeReset build {}).2 = .ok := by
    rw [hnode]
    have hready : (build.globalTimerNext && !state.node.mainlineInitialized) = false := by
      cases hnext : build.globalTimerNext with
      | false => rfl
      | true =>
          rw [hmainline hnext]
          rfl
    change (if (build.globalTimerNext && !state.node.mainlineInitialized) = true then _ else _ :
      Node × RtErr).2 = .ok
    rw [hready]
    rfl
  change (if (((state.node.communicationStop build).canDisable.canInit true).registry
      (·.bindCommunication build.setup true fun _ => .ok)).2 ≠ .ok then _ else _ :
        Node × RtErr).2 = .ok
  rw [if_neg (not_not_intro hbind)]
  exact hcomplete

theorem runtimeInit_succeeds (h : Midway build base slots Stage.runtimeInit.rank state)
    (hpriority : build.sharedWorker = true → build.workerBelowRt = true) :
    (state.node.runtimeInit build {}).2 = .ok := by
  have hsem : state.node.sharedWorkerSemInitialized = false :=
    h.pending .sharedWorkerSem .runtimeInit rfl (Nat.le_refl _)
  have hthread : state.node.sharedWorkerThread = false :=
    h.pending .sharedWorkerThread .runtimeInit rfl (Nat.le_refl _)
  have hslots : (state.node.registry (·.runtimeInit build.setup (fun _ => .ok) .ok)).2 = .ok :=
    Host.runtimeInit_succeeds
  unfold Node.runtimeInit
  dsimp only
  rw [if_neg (not_not_intro hslots)]
  unfold Node.sharedWorkerInit
  split
  · rfl
  case isFalse hused =>
      rw [Bool.not_eq_true, Bool.or_eq_false_iff, Bool.not_eq_false'] at hused
      have hfree : ((state.node.registry (·.runtimeInit build.setup (fun _ => .ok) .ok)
          ).1.sharedWorkerSemInitialized ||
            (state.node.registry (·.runtimeInit build.setup (fun _ => .ok) .ok)
          ).1.sharedWorkerThread) = false := by
        change (state.node.sharedWorkerSemInitialized || state.node.sharedWorkerThread) = false
        rw [hsem, hthread]
        rfl
      rw [if_neg (by rw [hfree]; exact Bool.false_ne_true), hpriority hused.1]
      rfl

theorem runtimeStart_succeeds (h : Midway build base slots Stage.runtimeStart.rank state) :
    (state.node.runtimeStart build {}).2 = .ok := by
  have hslots : (state.node.registry (·.runtimeStart build.setup (fun _ => .ok) .ok)).2 = .ok :=
    Host.runtimeStart_succeeds
  have hidentities := (h.lawful.runtimeStartSlots fun _ => .ok).identities
  have hthread : deferred build slots = true → state.node.sharedWorkerThread = true :=
    fun hdeferred => h.established .sharedWorkerThread .runtimeInit hdeferred rfl (by decide)
  unfold Node.runtimeStart
  dsimp only
  rw [if_neg (not_not_intro hslots)]
  unfold Node.sharedWorkerStart
  split
  · rfl
  case isFalse hused =>
      split
      case isTrue hnone =>
          have hworker := Node.hasDeferredProcess_eq build
            (state.node.registry (·.runtimeStart build.setup (fun _ => .ok) .ok)).1
          have hslots : (state.node.registry (·.runtimeStart build.setup (fun _ => .ok) .ok)
              ).1.host.identities = slots := hidentities
          have hfalse : deferred build slots = false := by
            by_contra hdeferred
            have hheld := hthread (eq_true_of_ne_false hdeferred)
            change (!state.node.sharedWorkerThread) = true at hnone
            rw [hheld] at hnone
            cases hnone
          rw [Bool.not_eq_true, Bool.not_eq_false'] at hused
          rw [hslots, hfalse, hused, Bool.true_and] at hworker
          rw [hworker]
          rfl
      case isFalse => rfl

theorem perform_succeeds {stage : Stage} (h : Midway build base slots stage.rank state)
    (hpriority : build.sharedWorker = true → build.workerBelowRt = true) :
    (Stage.perform build {} state stage).2 = .ok := by
  cases stage with
  | mainlineInit =>
      cases hnext : build.globalTimerNext <;> simp [Stage.perform, hnext]
  | resetCommunication => exact resetCommunication_succeeds h
  | runtimeInit => exact runtimeInit_succeeds h hpriority
  | runtimeStart => exact runtimeStart_succeeds h
  | _ => rfl

end

theorem Node.Startable.succeeds {build : Build} {node : Node} {arguments : Arguments}
    (h : node.Startable build) (haccepted : arguments.accepted build = true)
    (hpriority : build.sharedWorker = true → build.workerBelowRt = true) :
    (node.init build arguments {}).2 = .ok := by
  have hattempt : (Initialising.attempt build {} node).2 = .ok := by
    rcases @runWhile_remaining _ _ _ _ RtErr.ok (Stage.perform build {})
        (Remaining build node.trace node.host.identities)
        (fun _ _ _ h hok => h.step hok) _ Stage.order ⟨h.begin, rfl⟩ with
      ⟨-, hok⟩ | ⟨stage, rest, state, ⟨hmidway, -⟩, hbad, -⟩
    · exact hok
    · exact absurd (perform_succeeds hmidway hpriority) hbad
  unfold Node.init
  rw [h.started, haccepted]
  change (if (Initialising.attempt build {} node).2 = .ok then _ else _ : Node × RtErr).2 = .ok
  rw [if_pos hattempt]

end CanopenRtt.Lifecycle
