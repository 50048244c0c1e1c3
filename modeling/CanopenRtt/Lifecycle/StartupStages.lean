import CanopenRtt.Lifecycle.StartupSteps
/-!
# The stages of an initialisation

In front of each stage, what the later stages acquire is free and what the earlier ones acquired is
held. Each stage keeps the node lawful, and if it succeeds the next one may run.
-/

namespace CanopenRtt.Lifecycle

open CanopenRtt.Support

/-- The stage at which a resource is acquired. -/
def Resource.stage : Resource → Option Stage
  | timeSource => none
  | rtSem => some .semInit
  | mainlineEvent => some .mainlineInit
  | lifecycleMutex => some .mutexInit
  | stack _ => some .newStack
  | canModule => some .resetCommunication
  | mainThread => some .createMainThread
  | rtThread => some .createRtThread
  | sharedWorkerSem | sharedWorkerThread => some .runtimeInit
  | rtTimer => some .createTimer

/-- A shared worker is created for these slots. -/
def deferred (build : Build) (slots : List (Key × Option Nat)) : Bool :=
  build.sharedWorker && slots.any fun slot =>
    slot.1.ops.any fun ops => build.notifies ops .deferredProcess

theorem Node.hasDeferredProcess_eq (build : Build) (node : Node) :
    (build.sharedWorker && node.hasDeferredProcess build) =
      deferred build node.host.identities := by
  unfold deferred Node.hasDeferredProcess Host.identities
  rw [List.any_map]
  rfl

/-- The resources without which no stage behind theirs runs. -/
def Resource.lasting (build : Build) (slots : List (Key × Option Nat)) : Resource → Bool
  | lifecycleMutex | mainThread | rtThread | rtTimer => true
  | mainlineEvent => build.globalTimerNext
  | sharedWorkerThread => deferred build slots
  | _ => false

theorem Resource.eq_of_stage {build : Build} {slots : List (Key × Option Nat)}
    {resource other : Resource} (hlasting : other.lasting build slots = true)
    (hworker : resource ≠ .sharedWorkerSem) (h : other.stage = resource.stage) :
    other = resource := by
  cases other <;> cases resource <;>
    first | rfl | exact absurd rfl hworker | (simp [stage] at h; done) | cases hlasting

def Stage.rank (stage : Stage) : Nat := Stage.order.idxOf stage

theorem Stage.mem_order (stage : Stage) : stage ∈ Stage.order := by
  cases stage <;> decide

theorem Stage.eq_of_rank {stage other : Stage} (h : stage.rank = other.rank) : stage = other :=
  (List.idxOf_inj (Stage.mem_order stage)).mp h

/-- In front of the stage of this rank. -/
structure Midway (build : Build) (base : List Event) (slots : List (Key × Option Nat)) (rank : Nat)
    (state : Initialising) : Prop where
  lawful : Lawful build base slots false false state
  pending : ∀ resource stage, resource.stage = some stage → rank ≤ stage.rank →
    state.holds resource = false
  established : ∀ resource stage, resource.lasting build slots = true →
    resource.stage = some stage → stage.rank < rank → state.holds resource = true
  stack : Stage.newStack.rank < rank → state.node.host.app.canOpenStack = true
  free : rank ≤ Stage.resetCommunication.rank →
    ∀ slot ∈ state.node.host.registered, slot.communicationBound = false

section

variable {build : Build} {base : List Event} {slots : List (Key × Option Nat)}
  {state after : Initialising} {stage : Stage}

theorem Midway.next (h : Midway build base slots stage.rank state)
    (hlawful : Lawful build base slots false false after)
    (hother : ∀ resource, resource.stage ≠ some stage → after.holds resource = state.holds resource)
    (hown : ∀ resource, resource.lasting build slots = true → resource.stage = some stage →
      after.holds resource = true)
    (hstack : Stage.newStack.rank ≤ stage.rank → after.node.host.app.canOpenStack = true)
    (hfree : stage.rank < Stage.resetCommunication.rank →
      ∀ slot ∈ after.node.host.registered, slot.communicationBound = false) :
    Midway build base slots (stage.rank + 1) after := by
  refine ⟨hlawful, ?_, ?_, fun hrank => hstack (Nat.le_of_lt_succ hrank), hfree⟩
  · intro resource later hlater hrank
    have hne : resource.stage ≠ some stage := by
      rw [hlater]
      rintro ⟨rfl⟩
      exact Nat.not_succ_le_self _ hrank
    rw [hother resource hne]
    exact h.pending resource later hlater (Nat.le_of_succ_le hrank)
  · intro resource earlier hlasting hearlier hrank
    by_cases hsame : earlier = stage
    · subst hsame
      exact hown resource hlasting hearlier
    · have hne : resource.stage ≠ some stage := by
        rw [hearlier]
        rintro ⟨rfl⟩
        exact hsame rfl
      have hless : earlier.rank < stage.rank := by
        have hdistinct : earlier.rank ≠ stage.rank := fun heq => hsame (Stage.eq_of_rank heq)
        omega
      rw [hother resource hne]
      exact h.established resource earlier hlasting hearlier hless

theorem Midway.noStack (h : Midway build base slots stage.rank state)
    (hrank : stage.rank ≤ Stage.newStack.rank) : state.node.host.app.canOpenStack = false := by
  have hfree := h.pending (.stack state.node.generation) .newStack rfl hrank
  cases hpointer : state.node.host.app.canOpenStack with
  | false => rfl
  | true =>
      unfold Initialising.holds Node.stack at hfree
      rw [hpointer] at hfree
      simp at hfree

/-- A stage whose one resource was acquired. -/
theorem Midway.acquired (h : Midway build base slots stage.rank state) (resource : Resource)
    (hstage : resource.stage = some stage) (hworker : resource ≠ .sharedWorkerSem)
    (htrace : after.node.trace = state.node.trace ++ [.acquire resource])
    (hholds : after.holds = Function.update state.holds resource true)
    (hslots : after.node.host.registered = state.node.host.registered)
    (hcoherent : after.Coherent build)
    (hstack : Stage.newStack.rank ≤ stage.rank → after.node.host.app.canOpenStack = true) :
    Midway build base slots (stage.rank + 1) after := by
  have hlawful : Lawful build base slots false false after :=
    h.lawful.acquire (h.pending resource stage hstage (Nat.le_refl _)) htrace hholds hslots
      hcoherent
  refine h.next hlawful ?_ ?_ hstack ?_
  · intro other hother
    rw [hholds, Function.update_of_ne]
    rintro rfl
    exact hother hstage
  · intro other hlasting hother
    rw [Resource.eq_of_stage hlasting hworker (hother.trans hstage.symm), hholds,
      Function.update_self]
  · intro hrank
    rw [hslots]
    exact h.free (Nat.le_of_lt hrank)

/-- What a stage has to establish. -/
def Advances (build : Build) (base : List Event) (slots : List (Key × Option Nat)) (stage : Stage)
    (result : Initialising × RtErr) : Prop :=
  Lawful build base slots false false result.1 ∧
    (result.2 = .ok → Midway build base slots (stage.rank + 1) result.1)

theorem Midway.advances {ret : RtErr} (h : Midway build base slots (stage.rank + 1) after) :
    Advances build base slots stage (after, ret) :=
  ⟨h.lawful, fun _ => h⟩

theorem advances_of_failed {ret : RtErr} (h : Lawful build base slots false false after)
    (hret : ret ≠ .ok) : Advances build base slots stage (after, ret) :=
  ⟨h, fun hok => absurd hok hret⟩

variable {answers : InitAnswers}

/-! ## The kernel objects -/

theorem semInit_advances (h : Midway build base slots Stage.semInit.rank state) :
    Advances build base slots .semInit (Stage.perform build answers state .semInit) := by
  have hcoherent := h.lawful.coherent
  unfold Stage.perform
  dsimp only
  split
  case isTrue hfailed => exact advances_of_failed h.lawful hfailed
  case isFalse =>
      refine Midway.advances (h.acquired .rtSem rfl nofun rfl ?_ rfl
        ⟨hcoherent.valid, hcoherent.mainline, hcoherent.worker, hcoherent.workerSlots,
          hcoherent.device⟩ fun hrank => absurd hrank (by decide))
      refine Function.eq_update_iff.mpr ⟨rfl, fun other hother => ?_⟩
      cases other <;> first | rfl | exact absurd rfl hother

theorem mainlineInit_advances (h : Midway build base slots Stage.mainlineInit.rank state) :
    Advances build base slots .mainlineInit (Stage.perform build answers state .mainlineInit) := by
  have hcoherent := h.lawful.coherent
  have hnone : state.mainlineInited = false :=
    h.pending .mainlineEvent .mainlineInit rfl (Nat.le_refl _)
  unfold Stage.perform
  dsimp only
  split
  case isTrue hunused =>
      refine Midway.advances (h.next h.lawful (fun _ _ => rfl) ?_
        (fun hrank => absurd hrank (by decide)) fun _ => h.free (by decide))
      intro other hlasting hother
      have hevent : other = .mainlineEvent := by
        cases other <;> first | rfl | cases hother
      rw [hevent] at hlasting
      change build.globalTimerNext = true at hlasting
      rw [hlasting] at hunused
      cases hunused
  case isFalse =>
      split
      case isTrue hfailed =>
          refine advances_of_failed (h.lawful.same rfl rfl rfl ⟨hcoherent.valid, ?_,
            hcoherent.worker, hcoherent.workerSlots, hcoherent.device⟩) hfailed
          exact hnone
      case isFalse =>
          refine Midway.advances (h.acquired .mainlineEvent rfl nofun rfl ?_ rfl
            ⟨hcoherent.valid, rfl, hcoherent.worker, hcoherent.workerSlots, hcoherent.device⟩
            fun hrank => absurd hrank (by decide))
          refine Function.eq_update_iff.mpr ⟨rfl, fun other hother => ?_⟩
          cases other <;> first | rfl | exact absurd rfl hother

theorem mutexInit_advances (h : Midway build base slots Stage.mutexInit.rank state) :
    Advances build base slots .mutexInit (Stage.perform build answers state .mutexInit) := by
  have hcoherent := h.lawful.coherent
  unfold Stage.perform
  dsimp only
  split
  case isTrue hfailed => exact advances_of_failed h.lawful hfailed
  case isFalse =>
      refine Midway.advances (h.acquired .lifecycleMutex rfl nofun rfl ?_ rfl
        ⟨hcoherent.valid, hcoherent.mainline, hcoherent.worker, hcoherent.workerSlots,
          hcoherent.device⟩ fun hrank => absurd hrank (by decide))
      refine Function.eq_update_iff.mpr ⟨rfl, fun other hother => ?_⟩
      cases other <;> first | rfl | exact absurd rfl hother

theorem createMainThread_advances
    (h : Midway build base slots Stage.createMainThread.rank state) :
    Advances build base slots .createMainThread
      (Stage.perform build answers state .createMainThread) := by
  have hcoherent := h.lawful.coherent
  unfold Stage.perform
  dsimp only
  split
  case isTrue => exact advances_of_failed h.lawful (by decide)
  case isFalse =>
      refine Midway.advances (h.acquired .mainThread rfl nofun rfl ?_ rfl
        ⟨hcoherent.valid.of_slots rfl rfl, hcoherent.mainline, hcoherent.worker,
          hcoherent.workerSlots, hcoherent.device⟩ fun _ => h.stack (by decide))
      refine Function.eq_update_iff.mpr ⟨rfl, fun other hother => ?_⟩
      cases other <;> first | rfl | exact absurd rfl hother

theorem createRtThread_advances (h : Midway build base slots Stage.createRtThread.rank state) :
    Advances build base slots .createRtThread
      (Stage.perform build answers state .createRtThread) := by
  have hcoherent := h.lawful.coherent
  unfold Stage.perform
  dsimp only
  split
  case isTrue => exact advances_of_failed h.lawful (by decide)
  case isFalse =>
      refine Midway.advances (h.acquired .rtThread rfl nofun rfl ?_ rfl
        ⟨hcoherent.valid.of_slots rfl rfl, hcoherent.mainline, hcoherent.worker,
          hcoherent.workerSlots, hcoherent.device⟩ fun _ => h.stack (by decide))
      refine Function.eq_update_iff.mpr ⟨rfl, fun other hother => ?_⟩
      cases other <;> first | rfl | exact absurd rfl hother

theorem createTimer_advances (h : Midway build base slots Stage.createTimer.rank state) :
    Advances build base slots .createTimer (Stage.perform build answers state .createTimer) := by
  have hcoherent := h.lawful.coherent
  unfold Stage.perform
  dsimp only
  split
  case isTrue => exact advances_of_failed h.lawful (by decide)
  case isFalse =>
      refine Midway.advances (h.acquired .rtTimer rfl nofun rfl ?_ rfl
        ⟨hcoherent.valid.of_slots rfl rfl, hcoherent.mainline, hcoherent.worker,
          hcoherent.workerSlots, hcoherent.device⟩ fun _ => h.stack (by decide))
      refine Function.eq_update_iff.mpr ⟨rfl, fun other hother => ?_⟩
      cases other <;> first | rfl | exact absurd rfl hother

/-! ## The stack -/

theorem newStack_advances (h : Midway build base slots Stage.newStack.rank state) :
    Advances build base slots .newStack (Stage.perform build answers state .newStack) := by
  have hcoherent := h.lawful.coherent
  have hnone := h.noStack (Nat.le_refl _)
  have hdevice : state.node.canDevice = false :=
    h.pending .canModule .resetCommunication rfl (by decide)
  have hstack : state.node.stack = none := by
    unfold Node.stack
    rw [hnone]
    rfl
  unfold Stage.perform Stage.onNode Node.newStack
  dsimp only
  split
  case isTrue =>
      have hsame : state.node.setStack false = state.node := by
        unfold Node.setStack
        rw [← hnone]
      rw [hsame]
      exact advances_of_failed h.lawful nofun
  case isFalse =>
      refine Midway.advances (h.acquired (.stack (state.node.generation + 1)) rfl nofun rfl ?_ rfl
        ⟨hcoherent.valid.of_slots rfl rfl, hcoherent.mainline, hcoherent.worker,
          hcoherent.workerSlots, nofun⟩ fun _ => rfl)
      refine Function.eq_update_iff.mpr ⟨decide_eq_true rfl, fun other hother => ?_⟩
      cases other with
      | stack generation =>
          change decide (some (state.node.generation + 1) = some generation) =
            decide (state.node.stack = some generation)
          rw [hstack]
          simp only [Option.some.injEq, reduceCtorEq, decide_false, decide_eq_false_iff_not]
          rintro rfl
          exact hother rfl
      | canModule => exact hdevice.symm
      | _ => rfl

/-! ## The first Communication Reset -/

theorem Node.canDisable_of_not {node : Node} (h : node.canDevice = false) :
    node.canDisable = { node with canNormal := false } := by
  unfold Node.canDisable
  rw [h]
  unfold Node.emitIf
  rw [if_neg Bool.false_ne_true, ← h]

/-- After a step of the reset: the stack is there, and only the CAN module may have changed. -/
structure Resetting (build : Build) (base : List Event) (slots : List (Key × Option Nat))
    (state after : Initialising) : Prop where
  lawful : Lawful build base slots false false after
  others : ∀ resource, resource ≠ .canModule → after.holds resource = state.holds resource
  stack : after.node.host.app.canOpenStack = true

variable {start : Initialising}

theorem Resetting.canInit (h : Resetting build base slots start state)
    (hdevice : state.node.canDevice = false) (initialized : Bool) :
    Resetting build base slots start
      { state with node := state.node.canInit initialized } := by
  have hcoherent := h.lawful.coherent
  have hothers : ∀ resource, resource ≠ .canModule →
      ({ state with node := state.node.canInit initialized } : Initialising).holds resource =
        state.holds resource := by
    intro resource hresource
    unfold Node.canInit
    rw [Node.emitIf_eq]
    cases resource <;> first | rfl | exact absurd rfl hresource
  refine ⟨?_, fun resource hresource => (hothers resource hresource).trans
    (h.others resource hresource), ?_⟩
  · cases initialized with
    | false =>
        refine h.lawful.same rfl ?_ rfl ⟨hcoherent.valid, hcoherent.mainline, hcoherent.worker,
          hcoherent.workerSlots, nofun⟩
        funext resource
        by_cases hresource : resource = .canModule
        · subst hresource
          exact hdevice.symm
        · exact hothers resource hresource
    | true =>
        have hnone : state.holds .canModule = false := hdevice
        refine h.lawful.acquire hnone rfl ?_ rfl ⟨hcoherent.valid, hcoherent.mainline,
          hcoherent.worker, hcoherent.workerSlots, fun _ => h.stack⟩
        exact Function.eq_update_iff.mpr ⟨rfl, hothers⟩
  · unfold Node.canInit
    rw [Node.emitIf_eq]
    exact h.stack

theorem Resetting.bind (h : Resetting build base slots start state)
    (hfree : ∀ slot ∈ state.node.host.registered, slot.communicationBound = false)
    (answers : Key → RtErr) :
    Resetting build base slots start
      { state with
        node := (state.node.registry (·.bindCommunication build.setup true answers)).1 } := by
  obtain ⟨-, -, hframe⟩ :=
    @Host.bindCommunication_free build.setup answers state.node.host hfree
  have hflags : (state.node.registry (·.bindCommunication build.setup true answers)).1.flags =
      state.node.flags := Prod.ext (congrArg Prod.snd hframe :) rfl
  refine ⟨h.lawful.bindCommunication hfree answers, fun resource hresource => ?_,
    (Host.canOpenStack_of_frame hframe).trans h.stack⟩
  rw [holds_of_flags hflags]
  exact h.others resource hresource

theorem Resetting.complete (h : Resetting build base slots start state) (answers : ResetAnswers) :
    Resetting build base slots start
      { state with node := (state.node.completeReset build answers).1 } := by
  have hcoherent := h.lawful.coherent
  unfold Node.completeReset
  repeat' split
  all_goals try exact h
  have hnormal : Lawful build base slots false false
      { state with node := { state.node with canNormal := true } } :=
    h.lawful.same rfl rfl rfl ⟨hcoherent.valid, hcoherent.mainline, hcoherent.worker,
      hcoherent.workerSlots, hcoherent.device⟩
  refine ⟨hnormal.communicationReady, fun resource hresource => ?_, ?_⟩
  · rw [Node.communicationReady_eq]
    exact h.others resource hresource
  · rw [Node.communicationReady_eq]
    exact h.stack

theorem resetCommunication_advances
    (h : Midway build base slots Stage.resetCommunication.rank state) :
    Advances build base slots .resetCommunication
      (Stage.perform build answers state .resetCommunication) := by
  have hdevice : state.node.canDevice = false :=
    h.pending .canModule .resetCommunication rfl (Nat.le_refl _)
  have hfree := h.free (Nat.le_refl _)
  -- Nothing was bound, so the stop says nothing and no CAN module is disabled.
  have hstopped : Resetting build base slots state
      { state with node := (state.node.communicationStop build).canDisable } := by
    have hstop := h.lawful.communicationStop
    have hnone : (state.node.communicationStop build).canDevice = false := by
      rw [Node.communicationStop_eq]
      exact hdevice
    rw [Node.canDisable_of_not hnone]
    refine ⟨hstop.same rfl rfl rfl ⟨hstop.coherent.valid, hstop.coherent.mainline,
      hstop.coherent.worker, hstop.coherent.workerSlots, hstop.coherent.device⟩, ?_, ?_⟩
    · intro resource _
      rw [Node.communicationStop_eq]
      rfl
    · rw [Node.communicationStop_eq]
      exact h.stack (by decide)
  have hslots : ((state.node.communicationStop build).canDisable).host = state.node.host := by
    rw [Node.communicationStop_eq]
    unfold Node.canDisable
    rw [Node.emitIf_eq]
  have hoff : ((state.node.communicationStop build).canDisable).canDevice = false := rfl
  unfold Stage.perform Node.resetCommunication
  dsimp only
  generalize (state.node.communicationStop build).canDisable = stopped at hstopped hslots hoff ⊢
  have hfirst := hstopped.canInit hoff answers.reset.canInit
  split
  · exact advances_of_failed hstopped.lawful nofun
  have hinit : Resetting build base slots state
      { state with node :=
          if (!answers.reset.canInit && true && answers.reset.persistedBitrate) = true then
            (stopped.canInit answers.reset.canInit).canInit answers.reset.canInitAgain
          else stopped.canInit answers.reset.canInit } := by
    split
    case isTrue hretried =>
        have hfailed : answers.reset.canInit = false := by
          cases hinit : answers.reset.canInit with
          | false => rfl
          | true =>
              rw [hinit] at hretried
              cases hretried
        exact hfirst.canInit hfailed _
    case isFalse => exact hfirst
  have hhost : ∀ (node : Node) (initialized : Bool),
      (node.canInit initialized).host = node.host := by
    intro node initialized
    unfold Node.canInit
    rw [Node.emitIf_eq]
  have hinitSlots : (if (!answers.reset.canInit && true && answers.reset.persistedBitrate) = true
      then (stopped.canInit answers.reset.canInit).canInit answers.reset.canInitAgain
      else stopped.canInit answers.reset.canInit).host = state.node.host := by
    split
    · rw [hhost, hhost, hslots]
    · rw [hhost, hslots]
  generalize (if (!answers.reset.canInit && true && answers.reset.persistedBitrate) = true then
      (stopped.canInit answers.reset.canInit).canInit answers.reset.canInitAgain
    else stopped.canInit answers.reset.canInit) = initialized at hinit hinitSlots ⊢
  split
  · exact advances_of_failed hinit.lawful nofun
  split
  · exact advances_of_failed hinit.lawful nofun
  split
  · exact advances_of_failed hinit.lawful nofun
  split
  · exact advances_of_failed hinit.lawful nofun
  have hbind := hinit.bind (by dsimp only; rw [hinitSlots]; exact hfree) answers.reset.bind
  split
  case isTrue hfailed => exact advances_of_failed hbind.lawful hfailed
  case isFalse =>
      have hcomplete := hbind.complete answers.reset
      refine ⟨hcomplete.lawful, fun _ => h.next hcomplete.lawful ?_ ?_ (fun _ => hcomplete.stack)
        fun hrank => absurd hrank (Nat.lt_irrefl _)⟩
      · intro resource hresource
        refine hcomplete.others resource ?_
        rintro rfl
        exact hresource rfl
      · intro resource hlasting hresource
        cases resource with
        | canModule => cases hlasting
        | _ => cases hresource

/-! ## Runtime -/

theorem Node.count_of_deferred {node : Node} (h : node.hasDeferredProcess build = true) :
    node.host.app.count ≠ 0 := by
  intro hnone
  unfold Node.hasDeferredProcess Host.registered at h
  rw [hnone] at h
  cases h

/-- The semaphore of the worker exists, and its thread does not yet. -/
def Initialising.withWorkerSem (state : Initialising) : Initialising :=
  { state with node :=
      { state.node.emit (.acquire .sharedWorkerSem) with sharedWorkerSemInitialized := true } }

theorem holds_withWorkerSem (state : Initialising) :
    state.withWorkerSem.holds = Function.update state.holds .sharedWorkerSem true := by
  refine Function.eq_update_iff.mpr ⟨rfl, fun other hother => ?_⟩
  cases other <;> first | rfl | exact absurd rfl hother

/-- A worker without a thread gives its semaphore back at once. -/
theorem Lawful.workerSem (h : Lawful build base slots false false state)
    (hsem : state.holds .sharedWorkerSem = false)
    (hthread : state.holds .sharedWorkerThread = false)
    (htimer : state.holds .rtTimer = false) :
    Lawful build base slots false false
      { state with node :=
          (state.node.emit (.acquire .sharedWorkerSem)).emit (.release .sharedWorkerSem) } := by
  refine h.step (List.append_assoc ..) ((h.coherent.emit _).emit _) h.identities
    fun monitor hsim => ?_
  obtain ⟨between, hacquire, hbetween⟩ := hsim.acquire hsem (holds_withWorkerSem state) rfl
  have hidle : between.idle .sharedWorkerSem = true := by
    refine hbetween.idle fun party hparty hrunning => ?_
    have hheld := hbetween.running party hrunning
    simp only [List.mem_cons, List.not_mem_nil, or_false] at hparty
    rcases hparty with rfl | rfl | rfl
    · exact absurd (htimer.symm.trans hheld) nofun
    · exact ⟨rfl, Or.inr rfl⟩
    · exact absurd (hthread.symm.trans hheld) nofun
  have hgiven : ({ state with
      node := (state.node.emit (.acquire .sharedWorkerSem)).emit (.release .sharedWorkerSem)
    } : Initialising).holds = Function.update state.withWorkerSem.holds .sharedWorkerSem false := by
    refine Function.eq_update_iff.mpr ⟨hsem, fun other hother => ?_⟩
    cases other <;> first | rfl | exact absurd rfl hother
  obtain ⟨next, hrelease, hnext⟩ := hbetween.release rfl hidle nofun hgiven rfl
  exact ⟨next, hacquire.append hrelease, hnext⟩

theorem Lawful.worker (h : Lawful build base slots false false state)
    (hsem : state.holds .sharedWorkerSem = false)
    (hthread : state.holds .sharedWorkerThread = false)
    (hdeferred : state.node.hasDeferredProcess build = true) :
    Lawful build base slots false false
      { state with node :=
          { (state.node.emit (.acquire .sharedWorkerSem)).emit (.acquire .sharedWorkerThread) with
            sharedWorkerSemInitialized := true
            sharedWorkerThread := true } } := by
  refine h.step (List.append_assoc ..) ⟨h.coherent.valid, h.coherent.mainline, fun _ => rfl,
    fun _ => Node.count_of_deferred hdeferred, h.coherent.device⟩ h.identities
    fun monitor hsim => ?_
  obtain ⟨between, hacquire, hbetween⟩ := hsim.acquire hsem (holds_withWorkerSem state) rfl
  have hcreated : ({ state with node :=
      { (state.node.emit (.acquire .sharedWorkerSem)).emit (.acquire .sharedWorkerThread) with
        sharedWorkerSemInitialized := true
        sharedWorkerThread := true } } : Initialising).holds =
          Function.update state.withWorkerSem.holds .sharedWorkerThread true := by
    refine Function.eq_update_iff.mpr ⟨rfl, fun other hother => ?_⟩
    cases other <;> first | rfl | exact absurd rfl hother
  have hfree : state.withWorkerSem.holds .sharedWorkerThread = false := hthread
  obtain ⟨next, hsecond, hnext⟩ := hbetween.acquire hfree hcreated rfl
  exact ⟨next, hacquire.append hsecond, hnext⟩

theorem runtimeInit_advances (h : Midway build base slots Stage.runtimeInit.rank state) :
    Advances build base slots .runtimeInit (Stage.perform build answers state .runtimeInit) := by
  have hslots := h.lawful.runtimeInitSlots answers.runtime.runtimeInit
  obtain ⟨-, -, hframe⟩ :=
    Host.runtimeInit_spec build.setup answers.runtime.runtimeInit .ok state.node.host
  have hflags : (state.node.registry (·.runtimeInit build.setup answers.runtime.runtimeInit .ok)
      ).1.flags = state.node.flags := Prod.ext (congrArg Prod.snd hframe :) rfl
  unfold Stage.perform Node.runtimeInit
  dsimp only
  generalize state.node.registry (·.runtimeInit build.setup answers.runtime.runtimeInit .ok) =
    initialized at hslots hflags ⊢
  have hholds := holds_of_flags hflags
  split
  case isTrue hfailed => exact advances_of_failed hslots hfailed
  case isFalse =>
      have hpending : ∀ resource stage, resource.stage = some stage →
          Stage.runtimeInit.rank ≤ stage.rank →
          ({ state with node := initialized.1 } : Initialising).holds resource = false := by
        intro resource stage hstage hrank
        rw [hholds]
        exact h.pending resource stage hstage hrank
      have hsem := hpending .sharedWorkerSem .runtimeInit rfl (Nat.le_refl _)
      have hthread := hpending .sharedWorkerThread .runtimeInit rfl (Nat.le_refl _)
      have htimer := hpending .rtTimer .createTimer rfl (by decide)
      have hopen : initialized.1.host.app.canOpenStack = true :=
        (congrArg (fun p => p.1.canOpenStack) hflags).trans (h.stack (by decide))
      have hnext : ∀ node : Node, Lawful build base slots false false { state with node := node } →
          node.host = initialized.1.host →
          (deferred build slots = true → node.sharedWorkerThread = true) →
          (∀ resource, resource.stage ≠ some .runtimeInit →
            ({ state with node := node } : Initialising).holds resource =
              ({ state with node := initialized.1 } : Initialising).holds resource) →
          Midway build base slots (Stage.runtimeInit.rank + 1) { state with node := node } := by
        intro node hlawful hhost hthere hother
        refine h.next hlawful ?_ ?_ ?_ fun hrank => absurd hrank (by decide)
        · intro resource hresource
          rw [hother resource hresource, hholds]
        · intro resource hlasting hresource
          cases resource with
          | sharedWorkerThread => exact hthere hlasting
          | sharedWorkerSem => cases hlasting
          | _ => cases hresource
        · intro _
          dsimp only
          rw [hhost]
          exact hopen
      unfold Node.sharedWorkerInit
      split
      case isTrue hunused =>
          refine Midway.advances (hnext _ hslots rfl (fun hdeferred => ?_) fun _ _ => rfl)
          rw [← hslots.identities, ← Node.hasDeferredProcess_eq, Bool.and_eq_true] at hdeferred
          rw [hdeferred.1, hdeferred.2] at hunused
          cases hunused
      case isFalse hused =>
          split
          · exact advances_of_failed hslots nofun
          split
          · exact advances_of_failed hslots nofun
          split
          case isTrue hfailed => exact advances_of_failed hslots hfailed
          split
          · exact advances_of_failed (hslots.workerSem hsem hthread htimer) nofun
          · have hdeferred : initialized.1.hasDeferredProcess build = true := by
              rw [Bool.not_eq_true, Bool.or_eq_false_iff] at hused
              simpa using hused.2
            refine Midway.advances (hnext _ (hslots.worker hsem hthread hdeferred) rfl
              (fun _ => rfl) ?_)
            intro resource hresource
            cases resource <;> first | rfl | exact absurd rfl hresource

/-! ## The starts -/

/-- A stage that acquires nothing. -/
theorem Midway.passed (h : Midway build base slots stage.rank state)
    (hlawful : Lawful build base slots false false after) (hholds : after.holds = state.holds)
    (hnone : ∀ resource : Resource, resource.stage ≠ some stage)
    (hopen : after.node.host.app.canOpenStack = state.node.host.app.canOpenStack)
    (hrank : Stage.resetCommunication.rank < stage.rank) :
    Midway build base slots (stage.rank + 1) after := by
  refine h.next hlawful (fun resource _ => congrFun hholds resource)
    (fun resource _ hresource => absurd hresource (hnone resource)) ?_
    fun hless => absurd hless (Nat.lt_asymm hrank)
  intro _
  rw [hopen]
  exact h.stack (Nat.lt_trans (by decide) hrank)

theorem start_advances (h : Midway build base slots stage.rank state) {party : Resource}
    (hheld : state.holds party = true) (hmain : party ≠ .mainThread)
    (hnone : ∀ resource : Resource, resource.stage ≠ some stage)
    (hrank : Stage.resetCommunication.rank < stage.rank) (ret : RtErr) :
    Advances build base slots stage
      (Stage.onNode state (state.node.emitIf (ret = .ok) (.start party), ret)) := by
  have hmutex : state.holds .lifecycleMutex = true :=
    h.established .lifecycleMutex .mutexInit rfl rfl (Nat.lt_trans (by decide) hrank)
  by_cases hret : ret = .ok
  · subst hret
    exact Midway.advances (h.passed (h.lawful.start hheld hmain hmutex) rfl hnone rfl hrank)
  · rw [decide_eq_false hret]
    exact advances_of_failed h.lawful hret

theorem startRtThread_advances (h : Midway build base slots Stage.startRtThread.rank state) :
    Advances build base slots .startRtThread (Stage.perform build answers state .startRtThread) :=
  start_advances h (h.established .rtThread .createRtThread rfl rfl (by decide)) nofun
    (fun resource => by cases resource <;> nofun) (by decide) _

theorem startTimer_advances (h : Midway build base slots Stage.startTimer.rank state) :
    Advances build base slots .startTimer (Stage.perform build answers state .startTimer) :=
  start_advances h (h.established .rtTimer .createTimer rfl rfl (by decide)) nofun
    (fun resource => by cases resource <;> nofun) (by decide) _

theorem runtimeStart_advances (h : Midway build base slots Stage.runtimeStart.rank state) :
    Advances build base slots .runtimeStart (Stage.perform build answers state .runtimeStart) := by
  have hslots := h.lawful.runtimeStartSlots answers.runtime.runtimeStart
  obtain ⟨happ, hregistry⟩ :=
    Host.runtimeStart_app build.setup answers.runtime.runtimeStart .ok state.node.host
  have hflags : (state.node.registry (·.runtimeStart build.setup answers.runtime.runtimeStart .ok)
      ).1.flags = state.node.flags := by
    have hframe : (state.node.host.runtimeStart build.setup answers.runtime.runtimeStart .ok
        ).1.frame = state.node.host.frame := by
      unfold Host.frame
      rw [happ, hregistry]
    exact Prod.ext (congrArg Prod.snd hframe :) rfl
  unfold Stage.perform Node.runtimeStart
  dsimp only
  generalize state.node.registry (·.runtimeStart build.setup answers.runtime.runtimeStart .ok) =
    begun at hslots hflags ⊢
  have hnone : ∀ resource : Resource, resource.stage ≠ some .runtimeStart := by
    intro resource
    cases resource <;> nofun
  have hopen : begun.1.host.app.canOpenStack = state.node.host.app.canOpenStack :=
    congrArg (fun p => p.1.canOpenStack) hflags
  have hnext : Midway build base slots (Stage.runtimeStart.rank + 1)
      { state with node := begun.1 } :=
    h.passed hslots (holds_of_flags hflags) hnone hopen (by decide)
  split
  case isTrue hfailed => exact advances_of_failed hslots hfailed
  case isFalse =>
      unfold Node.sharedWorkerStart
      split
      · exact Midway.advances hnext
      split
      · exact Midway.advances hnext
      case isFalse hthread =>
          have hheld : begun.1.sharedWorkerThread = true := by
            rwa [Bool.not_eq_true, Bool.not_eq_false'] at hthread
          by_cases hret : answers.runtime.workerStartup = .ok
          · rw [hret]
            have hmutex : state.mutexInited = true :=
              h.established .lifecycleMutex .mutexInit rfl rfl (by decide)
            exact Midway.advances (h.passed (hslots.start hheld nofun hmutex)
              (holds_of_flags hflags) hnone hopen (by decide))
          · rw [decide_eq_false hret]
            exact advances_of_failed hslots hret

/-- The last stage: its failure leaves the node as it was. -/
theorem startMainThread_failed
    (h : (Stage.perform build answers state .startMainThread).2 ≠ .ok) :
    (Stage.perform build answers state .startMainThread).1 = state := by
  unfold Stage.perform Stage.onNode at h ⊢
  dsimp only at h ⊢
  rw [decide_eq_false h]
  rfl

theorem startMainThread_host :
    (Stage.perform build answers state .startMainThread).1.node.host = state.node.host := by
  unfold Stage.perform Stage.onNode
  exact Node.emitIf_host ..

theorem perform_advances (h : Midway build base slots stage.rank state)
    (hlast : stage ≠ .startMainThread) :
    Advances build base slots stage (Stage.perform build answers state stage) := by
  cases stage with
  | semInit => exact semInit_advances h
  | mainlineInit => exact mainlineInit_advances h
  | mutexInit => exact mutexInit_advances h
  | newStack => exact newStack_advances h
  | resetCommunication => exact resetCommunication_advances h
  | createMainThread => exact createMainThread_advances h
  | createRtThread => exact createRtThread_advances h
  | runtimeInit => exact runtimeInit_advances h
  | createTimer => exact createTimer_advances h
  | startRtThread => exact startRtThread_advances h
  | runtimeStart => exact runtimeStart_advances h
  | startTimer => exact startTimer_advances h
  | startMainThread => exact absurd rfl hlast

end

/-! ## The whole attempt -/

/-- An application that was never initialised, or whose initialisations all failed. -/
structure Node.Startable (build : Build) (node : Node) : Prop where
  valid : node.host.Valid build.setup
  fresh : ∀ slot ∈ node.host.registered, slot = Slot.fresh slot.ops slot.context slot.release
  mainThread : node.host.app.mainThread = false
  rtThread : node.host.app.rtThread = false
  rtTimer : node.host.app.rtTimer = false
  canOpenStack : node.host.app.canOpenStack = false
  workerSem : node.sharedWorkerSemInitialized = false
  workerThread : node.sharedWorkerThread = false
  mainline : node.mainlineInitialized = false
  device : node.canDevice = false

section

variable {build : Build} {node : Node} {answers : InitAnswers}

theorem Node.Startable.holds (h : node.Startable build) (resource : Resource) :
    ({ node := node } : Initialising).holds resource = false := by
  cases resource with
  | stack generation =>
      unfold Initialising.holds Node.stack
      dsimp only
      rw [h.canOpenStack]
      rfl
  | canModule => exact h.device
  | mainThread => exact h.mainThread
  | rtThread => exact h.rtThread
  | sharedWorkerSem => exact h.workerSem
  | sharedWorkerThread => exact h.workerThread
  | rtTimer => exact h.rtTimer
  | _ => rfl

theorem Node.Startable.started (h : node.Startable build) : node.host.started = false := by
  unfold Host.started
  rw [h.mainThread, h.rtThread, h.rtTimer, h.canOpenStack]
  rfl

theorem Node.Startable.lawful (h : node.Startable build) :
    Lawful build node.trace node.host.identities false false { node := node } where
  coherent := ⟨h.valid, h.mainline.symm,
    fun hthread => absurd (h.workerThread.symm.trans hthread) nofun,
    fun hsem => absurd (h.workerSem.symm.trans hsem) nofun,
    fun hdevice => absurd (h.device.symm.trans hdevice) nofun⟩
  identities := rfl
  accepted := ⟨[], {}, (List.append_nil _).symm, accepts_nil.mpr rfl,
    fun resource => (h.holds resource).symm, rfl, nofun, rfl, fun _ => rfl, nofun, fun _ _ => rfl⟩

theorem Node.Startable.begin (h : node.Startable build) :
    Midway build node.trace node.host.identities Stage.semInit.rank (Initialising.begin node) := by
  have hlawful := h.lawful
  have hbegin : Lawful build node.trace node.host.identities false false
      (Initialising.begin node) := by
    refine hlawful.acquire (h.holds .timeSource) rfl ?_ rfl ⟨hlawful.coherent.valid,
      hlawful.coherent.mainline, hlawful.coherent.worker, hlawful.coherent.workerSlots,
      hlawful.coherent.device⟩
    refine Function.eq_update_iff.mpr ⟨rfl, fun other hother => ?_⟩
    cases other <;> first | rfl | exact absurd rfl hother
  refine ⟨hbegin, ?_, ?_, fun hrank => absurd hrank (by decide), ?_⟩
  · intro resource stage hstage _
    refine Eq.trans ?_ (h.holds resource)
    cases resource <;> first | rfl | cases hstage
  · intro resource stage _ _ hrank
    exact absurd hrank (Nat.not_lt_zero _)
  · intro _ slot hslot
    rw [h.fresh slot hslot]
    rfl

/-- In front of the remaining stages. -/
def Remaining (build : Build) (base : List Event) (slots : List (Key × Option Nat)) :
    List Stage → Initialising → Prop
  | [], state => state.node.host.started = true
  | stage :: rest, state =>
      Midway build base slots stage.rank state ∧ rest = Stage.order.drop (stage.rank + 1)

theorem Remaining.step {base : List Event} {slots : List (Key × Option Nat)} {stage : Stage}
    {rest : List Stage} {state : Initialising}
    (h : Remaining build base slots (stage :: rest) state)
    (hok : (Stage.perform build answers state stage).2 = .ok) :
    Remaining build base slots rest (Stage.perform build answers state stage).1 := by
  obtain ⟨hmidway, rfl⟩ := h
  by_cases hlast : stage = .startMainThread
  · subst hlast
    have hthread : state.node.host.app.mainThread = true :=
      hmidway.established .mainThread .createMainThread rfl rfl (by decide)
    change (Stage.perform build answers state .startMainThread).1.node.host.started = true
    rw [startMainThread_host]
    unfold Host.started
    rw [hthread]
    rfl
  · have hnext := (perform_advances hmidway hlast).2 hok
    cases stage <;> first | exact ⟨hnext, rfl⟩ | exact absurd rfl hlast

/-- The attempt starts the application, or leaves a lawful node to the cleanup. -/
theorem Node.Startable.attempt (h : node.Startable build) :
    ((Initialising.attempt build answers node).2 = .ok ∧
      (Initialising.attempt build answers node).1.node.host.started = true) ∨
    ((Initialising.attempt build answers node).2 ≠ .ok ∧
      Lawful build node.trace node.host.identities false false
        (Initialising.attempt build answers node).1) := by
  unfold Initialising.attempt
  rcases @runWhile_remaining _ _ _ _ RtErr.ok (Stage.perform build answers)
      (Remaining build node.trace node.host.identities)
      (fun _ _ _ h hok => h.step hok) _ Stage.order ⟨h.begin, rfl⟩ with
    ⟨hstarted, hok⟩ | ⟨stage, rest, state, ⟨hmidway, -⟩, hbad, hrun⟩
  · exact Or.inl ⟨hok, hstarted⟩
  · rw [hrun]
    refine Or.inr ⟨hbad, ?_⟩
    by_cases hlast : stage = .startMainThread
    · subst hlast
      rw [startMainThread_failed hbad]
      exact hmidway.lawful
    · exact (perform_advances hmidway hlast).1

end

end CanopenRtt.Lifecycle
