import CanopenRtt.Lifecycle.GenerationRuns
/-!
# The plain functions are interleavings

`canopen_app_rtt_init` and `co_app_rtt_recreate_stack`, run without a step of anybody else between
theirs, are runs of the threads. So what holds of every interleaving holds of them.
-/

namespace CanopenRtt.Lifecycle

open CanopenRtt.Support

namespace System

section

variable {build : Build} {answers : InitAnswers} {s : System}

theorem reachable_stages {rest : List Stage} (hat : s.startup = .staging rest)
    (hok : (runWhile .ok (Stage.perform build answers) s.state rest).2 = .ok) :
    ∃ s', Reachable (Step build answers) s s' ∧ s'.startup = .staging [] ∧
      s'.state = (runWhile .ok (Stage.perform build answers) s.state rest).1 ∧
      s'.owner = s.owner ∧ (.startMainThread ∈ rest → s'.main = .entry) ∧
      (.startMainThread ∉ rest → s'.main = s.main) ∧
      (.startRtThread ∈ rest → s'.rt = .waiting) ∧ (.startRtThread ∉ rest → s'.rt = s.rt) := by
  induction rest generalizing s with
  | nil => exact ⟨s, .refl, hat, rfl, rfl, by simp⟩
  | cons stage rest ih =>
      rw [runWhile] at hok
      by_cases hgood : (stage.perform build answers s.state).2 = .ok
      · rw [if_pos hgood] at hok
        obtain ⟨s', hreach, hend, hstate, howner, hmain, hmainKept, hrt, hrtKept⟩ :=
          @ih (({ s with
            state := (stage.perform build answers s.state).1
            startup := .staging rest } : System).started build stage) rfl hok
        refine ⟨s', .head (.startup (.stage s stage rest hat hgood)) hreach, hend, ?_, howner, ?_,
          ?_, ?_, ?_⟩
        · rw [runWhile, if_pos hgood]
          exact hstate
        · intro hmem
          by_cases hlater : .startMainThread ∈ rest
          · exact hmain hlater
          · have hstage : stage = .startMainThread :=
              ((List.mem_cons.mp hmem).resolve_right hlater).symm
            exact (hmainKept hlater).trans (if_pos hstage)
        · intro hnone
          rw [List.mem_cons, not_or] at hnone
          exact (hmainKept hnone.2).trans (if_neg (Ne.symm hnone.1))
        · intro hmem
          by_cases hlater : .startRtThread ∈ rest
          · exact hrt hlater
          · have hstage : stage = .startRtThread :=
              ((List.mem_cons.mp hmem).resolve_right hlater).symm
            exact (hrtKept hlater).trans (if_pos hstage)
        · intro hnone
          rw [List.mem_cons, not_or] at hnone
          exact (hrtKept hnone.2).trans (if_neg (Ne.symm hnone.1))
      · rw [if_neg hgood] at hok
        exact absurd hok hgood

theorem reachable_failed {rest : List Stage} (hat : s.startup = .staging rest)
    (hfailed : (runWhile .ok (Stage.perform build answers) s.state rest).2 ≠ .ok) :
    ∃ s', Reachable (Step build answers) s s' ∧
      s'.startup = .failed (runWhile .ok (Stage.perform build answers) s.state rest).2 ∧
      s'.state = (runWhile .ok (Stage.perform build answers) s.state rest).1 ∧
      s'.owner = s.owner := by
  induction rest generalizing s with
  | nil => exact absurd rfl hfailed
  | cons stage rest ih =>
      rw [runWhile] at hfailed ⊢
      by_cases hgood : (stage.perform build answers s.state).2 = .ok
      · rw [if_pos hgood] at hfailed ⊢
        obtain ⟨s', hreach, hend, hstate, howner⟩ :=
          @ih (({ s with
            state := (stage.perform build answers s.state).1
            startup := .staging rest } : System).started build stage) rfl hfailed
        exact ⟨s', .head (.startup (.stage s stage rest hat hgood)) hreach, hend, hstate, howner⟩
      · rw [if_neg hgood]
        exact ⟨_, .single (.startup (.stageFails s stage rest hat hgood)), rfl, rfl, rfl⟩

/-- An initialisation that nobody disturbs is `canopen_app_rtt_init`. -/
theorem init_reachable {node : Node} {arguments : Arguments} (hidle : node.host.started = false)
    (haccepted : arguments.accepted build = true) (htime : answers.timeInit = .ok) :
    ∃ s, Reachable (Step build answers) (start node) s ∧
      s.startup = .returned (node.init build arguments answers).2 ∧
      s.node = (node.init build arguments answers).1 := by
  have hinit : node.init build arguments answers =
      if (Initialising.attempt build answers node).2 = .ok then
        ((Initialising.attempt build answers node).1.node, .ok)
      else ((Initialising.attempt build answers node).1.cleanup build answers,
        (Initialising.attempt build answers node).2) := by
    unfold Node.init
    rw [hidle, haccepted, htime]
    rfl
  rw [hinit]
  by_cases hok : (Initialising.attempt build answers node).2 = .ok
  · rw [if_pos hok]
    obtain ⟨s, hreach, hend, hstate, -⟩ :=
      @reachable_stages build answers (start node) Stage.order rfl hok
    exact ⟨_, hreach.tail (.startup (.initialised s hend)), rfl,
      congrArg Initialising.node hstate⟩
  · rw [if_neg hok]
    obtain ⟨s, hreach, hend, hstate, howner⟩ :=
      @reachable_failed build answers (start node) Stage.order rfl hok
    have hstate : s.state = (Initialising.attempt build answers node).1 := hstate
    refine ⟨_, (hreach.tail (.startup (.withdraw s _ hend))).tail
      (.startup (.cleanup _ _ rfl howner)), rfl, ?_⟩
    rw [← hstate, Initialising.cleanup_eq_locked]
    rfl

theorem reachable_recreate {todo rest : List Recreate} {ret : RtErr} (given : RecreateAnswers)
    (hat : s.main = .recreating (todo ++ rest) ret)
    (hok : ∀ statement ∈ todo, ∀ node, (statement.perform build given node).2 = .ok) :
    ∃ s', Reachable (Step build answers) s s' ∧ s'.main = .recreating rest ret ∧
      s'.node = todo.foldl (fun node statement => (statement.perform build given node).1)
        s.node := by
  induction todo generalizing s with
  | nil => exact ⟨s, .refl, hat, rfl⟩
  | cons statement todo ih =>
      obtain ⟨s', hreach, hend, hnode⟩ :=
        @ih ({ s.setNode (statement.perform build given s.node).1 with
          main := .recreating (todo ++ rest) ret } : System) rfl
          fun other hother => hok other (List.mem_cons_of_mem _ hother)
      exact ⟨s', .head (.main (.recreate s given statement (todo ++ rest) ret hat
        (hok statement List.mem_cons_self s.node))) hreach, hend, hnode⟩

theorem plan_split (given : RecreateAnswers) (node : Node) :
    ∃ old, Recreate.plan node = old ++ [.create, .reset] ∧
      (∀ statement ∈ old, ∀ node, (statement.perform build given node).2 = .ok) ∧
      old.foldl (fun node statement => (statement.perform build given node).1) node =
        if (node.communicationStop build).host.app.canOpenStack then
          ((node.communicationStop build).canDisable.communicationQuiesced build).deleteStack
        else node.communicationStop build := by
  have hkept : (node.communicationStop build).host.app.canOpenStack =
      node.host.app.canOpenStack := by
    rw [Node.communicationStop_eq]
  rw [hkept]
  unfold Recreate.plan
  by_cases hopen : node.host.app.canOpenStack = true
  · rw [if_pos hopen, if_pos hopen]
    exact ⟨Recreate.teardown, rfl, by simp [Recreate.teardown, Recreate.perform], rfl⟩
  · rw [if_neg hopen, if_neg hopen]
    exact ⟨[.stop], rfl, by simp [Recreate.perform], rfl⟩

/-- Communication Reset that nobody disturbs is `co_app_rtt_recreate_stack`. -/
theorem recreate_reachable (given : RecreateAnswers) (hat : s.main = .resetRequested)
    (hfree : s.owner = none) :
    ∃ s', Reachable (Step build answers) s s' ∧ s'.owner = none ∧
      s'.node = (s.node.recreateStack build given).1 ∧
      s'.main =
        if (s.node.recreateStack build given).2 = .ok then .restarting else .returned := by
  have hlock : Step build answers s
      { s with main := .recreating (Recreate.plan s.node) .ok, owner := some .mainThread } :=
    .main (.resetLock s hat hfree)
  obtain ⟨old, hplan, hold, htaken⟩ := @plan_split build given s.node
  obtain ⟨made, hmade, hcreate, hfold⟩ :=
    @reachable_recreate build answers
      { s with main := .recreating (Recreate.plan s.node) .ok, owner := some .mainThread }
      old [.create, .reset] .ok given (congrArg (MainAt.recreating · .ok) hplan) hold
  have hnode := hfold.trans htaken
  have hreach := hmade.head hlock
  clear hmade hlock
  have hwhole : s.node.recreateStack build given =
      (if (made.node.newStack given.created).2 ≠ .ok then made.node.newStack given.created
      else
        let reset := (made.node.newStack given.created).1.resetCommunication build given.reset false
        if reset.2 ≠ .ok then
          (((reset.1.communicationStop build).canDisable.communicationQuiesced build).deleteStack,
            reset.2)
        else reset) := by
    unfold Node.recreateStack
    dsimp only
    rw [← hnode]
  rw [hwhole]
  clear hwhole hnode hfold htaken
  dsimp only
  by_cases hnew : (made.node.newStack given.created).2 = .ok
  · rw [if_neg (not_not_intro hnew)]
    have hreset := hreach.tail (.main (.recreate made given .create [.reset] .ok hcreate hnew))
    by_cases hret : ((made.node.newStack given.created).1.resetCommunication build given.reset
        false).2 = .ok
    · rw [if_neg (not_not_intro hret)]
      refine ⟨_, (hreset.tail (.main (.recreate _ given .reset [] .ok rfl hret))).tail
        (.main (.recreated _ .ok rfl)), rfl, rfl, ?_⟩
      rw [if_pos hret]
      rfl
    · rw [if_pos hret]
      obtain ⟨failed, hfailed, hat, hnode⟩ : ∃ failed : System,
          Reachable (Step build answers) s failed ∧
            failed.main = .recreating (Recreate.teardown ++ [])
              ((made.node.newStack given.created).1.resetCommunication build given.reset false).2 ∧
            failed.node = ((made.node.newStack given.created).1.resetCommunication build
              given.reset false).1 :=
        ⟨_, hreset.tail (.main (.recreateFails _ given .reset [] .ok rfl hret)), rfl, rfl⟩
      obtain ⟨gone, hgone, hend, hfold⟩ := @reachable_recreate build answers failed
        Recreate.teardown [] _ given hat (by simp [Recreate.teardown, Recreate.perform])
      rw [hnode] at hfold
      exact ⟨_, (hfailed.trans hgone).tail (.main (.recreated gone _ hend)), rfl, hfold, rfl⟩
  · rw [if_pos hnew]
    refine ⟨_, (hreach.tail (.main (.recreateFails made given .create [.reset] .ok hcreate
      hnew))).tail (.main (.recreated _ _ rfl)), rfl, rfl, ?_⟩
    rw [if_neg hnew]
    exact if_neg hnew

end

/-! ## The law of every interleaving -/

/-- After any calls of the application, `canopen_app_rtt_init` and the threads it starts keep to the
law of generations in every interleaving. -/
theorem generations_of_run (build : Build) (operations : List Node.Operation)
    (htakes : ∀ operation ∈ operations, operation.TakesMutex)
    (hidle : (run (Node.step build) {} operations).host.started = false) {answers : InitAnswers}
    (htake : answers.mutexTake = .ok) {s : System}
    (hreach : Reachable (Step build answers) (start (run (Node.step build) {} operations)) s) :
    s.Law build (run (Node.step build) {} operations) := by
  have hready : (run (Node.step build) {} operations).Ready build :=
    run_invariant_of_everyStep (fun _ _ hready htake => hready.step htake)
      (Node.start_ready build) ((everyStep_inputs _ _).mpr htakes)
  rcases hready with hstartable | hstarted
  · exact (Reachable.invariant (start_inv hstartable) (fun hinv hstep => hinv.step htake hstep)
      hreach).law
  · exact absurd (hidle.symm.trans hstarted) nofun

/-- A stack is made and used, a Communication Reset replaces it, and `co_main` goes on. Where the
timer does not start, the cleanup deletes the stack. -/
theorem generations_of_reset :
    (∃ s, Reachable (Step Node.fullBuild {})
        (start (run (Node.step Node.fullBuild) {} [.register (some 1) (some 10)])) s ∧
      s.node.stack = some 2 ∧ s.main = .restarting ∧
      s.Law Node.fullBuild (run (Node.step Node.fullBuild) {} [.register (some 1) (some 10)])) ∧
    ∃ s, Reachable (Step Node.fullBuild { timerStart := .error })
        (start (run (Node.step Node.fullBuild) {} [.register (some 1) (some 10)])) s ∧
      s.node.stack = none ∧ s.startup = .returned .error ∧
      s.Law Node.fullBuild (run (Node.step Node.fullBuild) {} [.register (some 1) (some 10)]) := by
  have htakes : ∀ operation ∈ [Node.Operation.register (some 1) (some 10)],
      operation.TakesMutex := by
    intro operation hmem
    cases List.mem_singleton.mp hmem
    trivial
  constructor
  · obtain ⟨up, hup, -, hstate, howner, hmain, -⟩ :=
      @reachable_stages Node.fullBuild {}
        (start (run (Node.step Node.fullBuild) {} [.register (some 1) (some 10)])) Stage.order rfl
        (by decide +kernel)
    have hmain := hmain (by decide)
    have hnode : up.node = (runWhile .ok (Stage.perform Node.fullBuild {})
        (Initialising.begin (run (Node.step Node.fullBuild) {} [.register (some 1) (some 10)]))
        Stage.order).1.node := congrArg Initialising.node hstate
    have hstack : up.node.stack = some 1 := by
      rw [hnode]
      decide +kernel
    obtain ⟨asked, hasked, hat, hfree, hpassed⟩ : ∃ asked : System,
        Reachable (Step Node.fullBuild {})
          (start (run (Node.step Node.fullBuild) {} [.register (some 1) (some 10)])) asked ∧
        asked.main = .resetRequested ∧ asked.owner = none ∧
        asked.node =
          (up.node.notifySlot Node.fullBuild .mainlineProcess Node.processes 0).stopRealtime
          Node.fullBuild := by
      refine ⟨_, ((((hup.tail (.main (.entry up 1 hmain hstack))).tail
        (.main (.process _ 1 .comm false rfl))).tail
        (.main (.mainlineProcess _ 1 .comm 0 rfl ?_))).tail
        (.main (.mainlineEnd _ 1 .comm 1 rfl ?_))), rfl, howner, rfl⟩
      · change 0 < up.node.host.app.count
        rw [hnode]
        decide +kernel
      · change (up.node.notifySlot Node.fullBuild .mainlineProcess
          Node.processes 0).host.app.count ≤ 1
        rw [hnode]
        decide +kernel
    obtain ⟨s, hs, -, hrecreated, hgoes⟩ :=
      @recreate_reachable Node.fullBuild {} asked {} hat hfree
    rw [hpassed, hnode] at hrecreated hgoes
    refine ⟨s, hasked.trans hs, ?_, ?_, generations_of_run Node.fullBuild
      [.register (some 1) (some 10)] htakes ?_ rfl (hasked.trans hs)⟩
    · rw [hrecreated]
      decide +kernel
    · rw [hgoes]
      decide +kernel
    · decide +kernel
  · obtain ⟨s, hs, hreturned, hnode⟩ :=
      @init_reachable Node.fullBuild { timerStart := .error }
        (run (Node.step Node.fullBuild) {} [.register (some 1) (some 10)])
        { canName := some "can1", nodeID := 10, bitrate := 500 } (by decide +kernel)
        (by decide) rfl
    refine ⟨s, hs, ?_, ?_, generations_of_run Node.fullBuild [.register (some 1) (some 10)] htakes
      (by decide +kernel) rfl hs⟩
    · rw [hnode]
      decide +kernel
    · rw [hreturned]
      decide +kernel

end System

end CanopenRtt.Lifecycle
