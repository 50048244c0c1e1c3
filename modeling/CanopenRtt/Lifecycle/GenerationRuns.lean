import CanopenRtt.Lifecycle.GenerationStages
import CanopenRtt.Lifecycle.ApplicationRuns
/-!
# The communication generations of an application

Over every interleaving of the caller of `canopen_app_rtt_init`, `co_main`, `co_rt` and the shared
worker, each extension sees a permitted word of generations: bind, ready, processing, stop, quiesce,
all of them while the stack of the bind is there, and a stack is deleted when no slot is bound.
-/

namespace CanopenRtt.Lifecycle

open CanopenRtt.Support

/-! ## The statements of a reset -/

/-- What follows a teardown: a new stack, or the report of the failure that caused it. -/
def Ends (rest : List Recreate) (ret : RtErr) : Prop :=
  rest = [.create, .reset] ∧ ret = .ok ∨ rest = [] ∧ ret ≠ .ok

/-- The node between two statements of `co_app_rtt_recreate_stack`. -/
inductive Recreating (build : Build) (base : List Event) (keys : List Key) (node : Node) :
    List Recreate → RtErr → Prop
  | stop {rest : List Recreate} {ret : RtErr} {standing : Standing} (hends : Ends rest ret)
      (hstanding : standing = .bound ∨ standing = .ready) (h : Tracks build base keys standing node)
      (hopen : node.host.app.canOpenStack = true) :
      Recreating build base keys node (.stop :: .disable :: .quiesce :: .delete :: rest) ret
  | disable {rest : List Recreate} {ret : RtErr} (hends : Ends rest ret)
      (h : Tracks build base keys .stopped node) (hopen : node.host.app.canOpenStack = true) :
      Recreating build base keys node (.disable :: .quiesce :: .delete :: rest) ret
  | quiesce {rest : List Recreate} {ret : RtErr} (hends : Ends rest ret)
      (h : Tracks build base keys .stopped node) (hopen : node.host.app.canOpenStack = true)
      (hdevice : node.canDevice = false) :
      Recreating build base keys node (.quiesce :: .delete :: rest) ret
  | delete {rest : List Recreate} {ret : RtErr} (hends : Ends rest ret)
      (h : Tracks build base keys .ready node) (hunbound : Unbound node)
      (hopen : node.host.app.canOpenStack = true) (hdevice : node.canDevice = false) :
      Recreating build base keys node (.delete :: rest) ret
  | create (h : Tracks build base keys .ready node) (hunbound : Unbound node)
      (hclosed : node.host.app.canOpenStack = false) (hdevice : node.canDevice = false) :
      Recreating build base keys node [.create, .reset] .ok
  | reset (h : Tracks build base keys .ready node) (hunbound : Unbound node)
      (hopen : node.host.app.canOpenStack = true) :
      Recreating build base keys node [.reset] .ok
  | finished (h : Tracks build base keys .ready node) (hopen : node.host.app.canOpenStack = true) :
      Recreating build base keys node [] .ok
  | failed {ret : RtErr} (hret : ret ≠ .ok) (h : Tracks build base keys .ready node) :
      Recreating build base keys node [] ret

section

variable {build : Build} {base : List Event} {keys : List Key} {node : Node}

theorem Recreating.tracks {todo : List Recreate} {ret : RtErr}
    (h : Recreating build base keys node todo ret) :
    ∃ standing, Tracks build base keys standing node := by
  cases h <;> exact ⟨_, ‹_›⟩

/-- One statement, and what is left to do. -/
theorem Recreating.step {answers : RecreateAnswers} {statement : Recreate} {todo : List Recreate}
    {ret : RtErr} (h : Recreating build base keys node (statement :: todo) ret) :
    ((statement.perform build answers node).2 = .ok →
        Recreating build base keys (statement.perform build answers node).1 todo ret) ∧
      ((statement.perform build answers node).2 ≠ .ok →
        Recreating build base keys (statement.perform build answers node).1 statement.unwind
          (statement.perform build answers node).2) := by
  cases h with
  | stop hends hstanding h hopen =>
      refine ⟨fun _ => .disable hends (h.stop hstanding) ?_, fun hfailed => absurd rfl hfailed⟩
      change (node.communicationStop build).host.app.canOpenStack = true
      rw [Node.communicationStop_eq]
      exact hopen
  | disable hends h hopen =>
      refine ⟨fun _ => .quiesce hends h.disable ?_ rfl, fun hfailed => absurd rfl hfailed⟩
      change node.canDisable.host.app.canOpenStack = true
      unfold Node.canDisable
      rw [Node.emitIf_host]
      exact hopen
  | quiesce hends h hopen hdevice =>
      obtain ⟨hquiesced, hunbound⟩ := @Tracks.quiesce _ _ _ .ready _ h hdevice
      refine ⟨fun _ => .delete hends hquiesced hunbound ?_ ?_, fun hfailed => absurd rfl hfailed⟩
      · obtain ⟨-, -, hframe⟩ := Host.communicationQuiesced_spec build.setup node.host
        change (node.communicationQuiesced build).host.app.canOpenStack = true
        rw [Node.communicationQuiesced_eq]
        exact (Host.canOpenStack_of_frame hframe).trans hopen
      · change (node.communicationQuiesced build).canDevice = false
        rw [Node.communicationQuiesced_eq]
        exact hdevice
  | delete hends h hunbound hopen hdevice =>
      have hdeleted := h.delete hunbound hopen hdevice
      refine ⟨fun _ => ?_, fun hfailed => absurd rfl hfailed⟩
      rcases hends with ⟨rfl, rfl⟩ | ⟨rfl, hret⟩
      · exact .create hdeleted hunbound rfl hdevice
      · exact .failed hret hdeleted
  | create h hunbound hclosed hdevice =>
      have hcreated := h.create hunbound hclosed hdevice answers.created
      refine ⟨fun hok => .reset hcreated ?_ ?_, fun hfailed => .failed hfailed hcreated⟩
      · change Unbound (node.newStack answers.created).1
        unfold Node.newStack
        split <;> exact hunbound
      · change (node.newStack answers.created).2 = .ok at hok
        change (node.newStack answers.created).1.host.app.canOpenStack = true
        unfold Node.newStack at hok ⊢
        split at hok
        · cases hok
        case isFalse hmade =>
            rw [if_neg hmade]
            rfl
  | reset h hunbound hopen =>
      obtain ⟨hready, hfailed, hstill⟩ := h.reset hunbound hopen answers.reset false
      exact ⟨fun hok => .finished (hready hok) hstill,
        fun hret => .stop (Or.inr ⟨rfl, hret⟩) (Or.inl rfl) (hfailed hret) hstill⟩

end

namespace MainAt

/-- The stack the main thread works on. -/
def co : MainAt → Option Nat
  | waiting co | nmtStateChanged co _ | mainlineProcess co _ _ => some co
  | _ => none

end MainAt

namespace System

/-- `co_main` at work, after its start. -/
inductive Running (build : Build) (base : List Event) (keys : List Key) (s : System) : Prop
  | entry (hat : s.main = .entry) (h : Tracks build base keys .ready s.node)
      (hopen : s.node.host.app.canOpenStack = true)
  | inside (co : Nat) (hat : s.main.co = some co) (h : Tracks build base keys .ready s.node)
      (hstack : s.node.stack = some co)
  | requested (hat : s.main = .resetRequested) (h : Tracks build base keys .ready s.node)
      (hopen : s.node.host.app.canOpenStack = true)
  | recreating (todo : List Recreate) (ret : RtErr) (hat : s.main = .recreating todo ret)
      (h : Recreating build base keys s.node todo ret) (howner : s.owner = some .mainThread)
  | restarting (hat : s.main = .restarting) (h : Tracks build base keys .ready s.node)
      (hopen : s.node.host.app.canOpenStack = true)
  | ended (hat : s.main = .returned ∨ s.main = .cpuReset)
      (h : Tracks build base keys .ready s.node)

/-- How far the application has come. The ranks are those of the stages still to come. -/
inductive Situation (build : Build) (base : List Event) (keys : List Key) (s : System) : Prop
  | staging (k : Nat) (hat : s.startup = .staging (Stage.order.drop k))
      (hlast : k ≤ Stage.startMainThread.rank) (hmain : s.main = .off)
      (h : Tracks build base keys .ready s.node)
      (hclosed : k ≤ Stage.newStack.rank → s.node.host.app.canOpenStack = false)
      (hopen : Stage.newStack.rank < k → s.node.host.app.canOpenStack = true)
      (hunbound : k ≤ Stage.resetCommunication.rank → Unbound s.node ∧ s.node.canDevice = false)
      (hrt : k ≤ Stage.startRtThread.rank → s.rt = .off)
      (hworker : k ≤ Stage.runtimeStart.rank → s.worker = .off)
  | cleaning (ret : RtErr) (standing : Standing)
      (hat : s.startup = .failed ret ∨ s.startup = .withdrawn ret) (hmain : s.main = .off)
      (hstanding : standing = .bound ∨ standing = .ready)
      (h : Tracks build base keys standing s.node)
      (hthreads : standing = .ready ∨ s.rt = .off ∧ s.worker = .off)
  | gone (ret : RtErr) (hat : s.startup = .returned ret) (hmain : s.main = .off)
      (hrt : s.rt = .off) (hworker : s.worker = .off) (h : Settled build base keys s.node)
      (hstack : s.node.stack = none)
  | running (hat : s.startup = .staging [] ∨ s.startup = .returned .ok)
      (h : Running build base keys s)

structure Inv (build : Build) (base : List Event) (keys : List Key) (s : System) : Prop where
  situation : Situation build base keys s
  rt : s.rt = .locked ∨ (∃ co i, s.rt = .synchronous co i) → s.owner = some .rtThread
  rtStack : ∀ co i, s.rt = .synchronous co i → s.node.stack = some co
  worker : ∀ i, s.worker = .deferred i → s.owner = some .worker

section

variable {build : Build} {answers : InitAnswers} {base : List Event} {keys : List Key}
  {node : Node} {s s' : System}

/-- A thread that is not `co_main` finds the generation ready, unless a reset is under way. -/
theorem Situation.ready (h : Situation build base keys s) (howner : s.owner ≠ some .mainThread)
    (hthreads : s.rt ≠ .off ∨ s.worker ≠ .off) : Tracks build base keys .ready s.node := by
  cases h with
  | staging k hat hlast hmain h hclosed hopen hunbound hrt hworker => exact h
  | cleaning ret standing hat hmain hstanding h hoff =>
      rcases hoff with rfl | ⟨hrt, hworker⟩
      · exact h
      · exact absurd hrt (hthreads.resolve_right (not_not_intro hworker))
  | gone ret hat hmain hrt hworker h hstack =>
      exact absurd hrt (hthreads.resolve_right (not_not_intro hworker))
  | running hat h =>
      cases h with
      | entry hat h hopen => exact h
      | inside co hat h hstack => exact h
      | requested hat h hopen => exact h
      | recreating todo ret hat h hmutex => exact absurd hmutex howner
      | restarting hat h hopen => exact h
      | ended hat h => exact h

/-- The node is the same, or a thread that runs added processing callbacks to its trace. -/
def Touches (build : Build) (base : List Event) (keys : List Key) (s : System) (node : Node) :
    Prop :=
  node = s.node ∨
    Tracks build base keys .ready node ∧ node.host = s.node.host ∧
      node.generation = s.node.generation ∧ node.canDevice = s.node.canDevice ∧
      s.owner ≠ some .mainThread ∧ (s.rt ≠ .off ∨ s.worker ≠ .off)

theorem Touches.stack {node : Node} (h : Touches build base keys s node) :
    node.stack = s.node.stack := by
  rcases h with rfl | ⟨-, hhost, hgeneration, -⟩
  · rfl
  · unfold Node.stack
    rw [hhost, hgeneration]

/-- A step of another thread. -/
theorem Situation.touch (h : Situation build base keys s)
    (hnode : Touches build base keys s s'.node) (hstartup : s'.startup = s.startup)
    (hmain : s'.main = s.main) (hrt : s.rt = .off → s'.rt = .off)
    (hworker : s.worker = .off → s'.worker = .off)
    (howner : s.owner = some .mainThread → s'.owner = some .mainThread) :
    Situation build base keys s' := by
  have hready : Tracks build base keys .ready s.node → Tracks build base keys .ready s'.node := by
    intro hready
    rcases hnode with hsame | ⟨htracks, -⟩
    · rwa [hsame]
    · exact htracks
  have hhost : s'.node.host = s.node.host ∧ s'.node.canDevice = s.node.canDevice := by
    rcases hnode with hsame | ⟨-, hhost, -, hdevice, -⟩
    · rw [hsame]
      exact ⟨rfl, rfl⟩
    · exact ⟨hhost, hdevice⟩
  have hstack := hnode.stack
  cases h with
  | staging k hat hlast hoff h hclosed hopen hunbound hrtOff hworkerOff =>
      refine .staging k (hstartup.trans hat) hlast (hmain.trans hoff) (hready h) ?_ ?_ ?_
        (fun hk => hrt (hrtOff hk)) fun hk => hworker (hworkerOff hk)
      · rw [hhost.1]
        exact hclosed
      · rw [hhost.1]
        exact hopen
      · unfold Unbound
        rw [hhost.1, hhost.2]
        exact hunbound
  | cleaning ret standing hat hoff hstanding h hthreads =>
      rcases hnode with hsame | ⟨htracks, -, -, -, -, hruns⟩
      · refine .cleaning ret standing (by rwa [hstartup]) (hmain.trans hoff) hstanding
          (hsame ▸ h) ?_
        exact hthreads.imp_right fun ⟨hrtOff, hworkerOff⟩ => ⟨hrt hrtOff, hworker hworkerOff⟩
      · exact .cleaning ret .ready (by rwa [hstartup]) (hmain.trans hoff) (Or.inr rfl) htracks
          (Or.inl rfl)
  | gone ret hat hoff hrtOff hworkerOff h hnone =>
      rcases hnode with hsame | ⟨-, -, -, -, -, hruns⟩
      · exact .gone ret (hstartup.trans hat) (hmain.trans hoff) (hrt hrtOff) (hworker hworkerOff)
          (hsame ▸ h) (hstack.trans hnone)
      · exact absurd hrtOff (hruns.resolve_right (not_not_intro hworkerOff))
  | running hat h =>
      refine .running (by rwa [hstartup]) ?_
      cases h with
      | entry hat h hopen => exact .entry (hmain.trans hat) (hready h) (hhost.1 ▸ hopen)
      | inside co hat h hco => exact .inside co (hmain ▸ hat) (hready h) (hstack.trans hco)
      | requested hat h hopen => exact .requested (hmain.trans hat) (hready h) (hhost.1 ▸ hopen)
      | recreating todo ret hat h hmutex =>
          rcases hnode with hsame | ⟨-, -, -, -, hother, -⟩
          · exact .recreating todo ret (hmain.trans hat) (hsame ▸ h) (howner hmutex)
          · exact absurd hmutex hother
      | restarting hat h hopen => exact .restarting (hmain.trans hat) (hready h) (hhost.1 ▸ hopen)
      | ended hat h => exact .ended (by rwa [hmain]) (hready h)

theorem touches_notify (h : Situation build base keys s) (howner : s.owner ≠ some .mainThread)
    (hthreads : s.rt ≠ .off ∨ s.worker ≠ .off) {notice : Notice}
    (hnotice : notice.isProcessing = true) {i : Nat} (hi : i < s.node.host.app.count) :
    Touches build base keys s (s.node.notifySlot build notice Node.processes i) := by
  refine Or.inr ⟨(h.ready howner hthreads).process hnotice hi, ?_, ?_, ?_, howner, hthreads⟩
  all_goals
    unfold Node.notifySlot
    rw [Node.emitIf_eq]

/-! ## The threads behind the mutex -/

theorem Inv.rtStep (h : Inv build base keys s) (hstep : RtStep build s s') :
    Inv build base keys s' := by
  have hsame : ∀ {t : System}, t.state = s.state → Touches build base keys s t.node :=
    fun hstate => Or.inl (congrArg Initialising.node hstate)
  cases hstep with
  | wake hat =>
      refine ⟨h.situation.touch (hsame rfl) rfl rfl ?_ id id, ?_, nofun, h.worker⟩
      · rw [hat]
        nofun
      · rintro (hlocked | ⟨_, _, hinside⟩) <;> cases ‹_›
  | lockFails hat =>
      refine ⟨h.situation.touch (hsame rfl) rfl rfl ?_ id id, ?_, nofun, h.worker⟩
      · rw [hat]
        nofun
      · rintro (hlocked | ⟨_, _, hinside⟩) <;> cases ‹_›
  | lock hat hfree =>
      refine ⟨h.situation.touch (hsame rfl) rfl rfl ?_ id ?_, fun _ => rfl, nofun, ?_⟩
      · rw [hat]
        nofun
      · rw [hfree]
        nofun
      · intro i hi
        have howner := h.worker i hi
        rw [hfree] at howner
        cases howner
  | skip hat =>
      have howner := h.rt (Or.inl hat)
      refine ⟨h.situation.touch (hsame rfl) rfl rfl ?_ id ?_, ?_, nofun, ?_⟩
      · rw [hat]
        nofun
      · rw [howner]
        nofun
      · rintro (hlocked | ⟨_, _, hinside⟩) <;> cases ‹_›
      · intro i hi
        have hother := h.worker i hi
        rw [howner] at hother
        cases hother
  | sync co hat hstack hnormal =>
      refine ⟨h.situation.touch (hsame rfl) rfl rfl ?_ id id, fun _ => h.rt (Or.inl hat), ?_,
        h.worker⟩
      · rw [hat]
        nofun
      · rintro other i hinside
        cases hinside
        exact hstack
  | synchronousProcess co i hat hi =>
      have howner := h.rt (Or.inr ⟨co, i, hat⟩)
      have htouches := @touches_notify build base keys s h.situation (by rw [howner]; nofun)
        (Or.inl (by rw [hat]; nofun)) .synchronousProcess rfl i hi
      refine ⟨h.situation.touch htouches rfl rfl ?_ id id, fun _ => howner, ?_, h.worker⟩
      · rw [hat]
        nofun
      · rintro other j hinside
        cases hinside
        exact htouches.stack.trans (h.rtStack co i hat)
  | unlock co i hat hi =>
      have howner := h.rt (Or.inr ⟨co, i, hat⟩)
      refine ⟨h.situation.touch (hsame rfl) rfl rfl ?_ id ?_, ?_, nofun, ?_⟩
      · rw [hat]
        nofun
      · rw [howner]
        nofun
      · rintro (hlocked | ⟨_, _, hinside⟩) <;> cases ‹_›
      · intro j hj
        have hother := h.worker j hj
        rw [howner] at hother
        cases hother

theorem Inv.workerStep (h : Inv build base keys s) (hstep : WorkerStep build s s') :
    Inv build base keys s' := by
  have hsame : ∀ {t : System}, t.state = s.state → Touches build base keys s t.node :=
    fun hstate => Or.inl (congrArg Initialising.node hstate)
  cases hstep with
  | wake hat =>
      refine ⟨h.situation.touch (hsame rfl) rfl rfl id ?_ id, h.rt, h.rtStack, nofun⟩
      rw [hat]
      nofun
  | lockFails hat =>
      refine ⟨h.situation.touch (hsame rfl) rfl rfl id ?_ id, h.rt, h.rtStack, nofun⟩
      rw [hat]
      nofun
  | lock hat hfree =>
      refine ⟨h.situation.touch (hsame rfl) rfl rfl id ?_ ?_, ?_, h.rtStack, fun _ _ => rfl⟩
      · rw [hat]
        nofun
      · rw [hfree]
        nofun
      · intro hinside
        have howner := h.rt hinside
        rw [hfree] at howner
        cases howner
  | deferredProcess i hat hi =>
      have howner := h.worker i hat
      have htouches := @touches_notify build base keys s h.situation (by rw [howner]; nofun)
        (Or.inr (by rw [hat]; nofun)) .deferredProcess rfl i hi
      refine ⟨h.situation.touch htouches rfl rfl id ?_ id, h.rt, ?_, fun _ _ => howner⟩
      · rw [hat]
        nofun
      · exact fun co j hinside => htouches.stack.trans (h.rtStack co j hinside)
  | unlock i hat hi =>
      have howner := h.worker i hat
      refine ⟨h.situation.touch (hsame rfl) rfl rfl id ?_ ?_, ?_, h.rtStack, nofun⟩
      · rw [hat]
        nofun
      · rw [howner]
        nofun
      · intro hinside
        have hother := h.rt hinside
        rw [howner] at hother
        cases hother

/-! ## The main thread -/

theorem Situation.atWork (h : Situation build base keys s) (hmain : s.main ≠ .off) :
    (s.startup = .staging [] ∨ s.startup = .returned .ok) ∧ Running build base keys s := by
  cases h with
  | staging k hat hlast hoff h hclosed hopen hunbound hrt hworker => exact absurd hoff hmain
  | cleaning ret standing hat hoff hstanding h hthreads => exact absurd hoff hmain
  | gone ret hat hoff hrt hworker h hstack => exact absurd hoff hmain
  | running hat h => exact ⟨hat, h⟩

theorem Running.at_co (h : Running build base keys s) {co : Nat} (hco : s.main.co = some co) :
    Tracks build base keys .ready s.node ∧ s.node.stack = some co := by
  cases h with
  | inside other hat h hstack => exact ⟨h, hstack.trans (hat.symm.trans hco)⟩
  | ended hat h => rcases hat with hat | hat <;> rw [hat] at hco <;> cases hco
  | recreating todo ret hat h howner =>
      rw [hat] at hco
      cases hco
  | entry hat h hopen | requested hat h hopen | restarting hat h hopen =>
      rw [hat] at hco
      cases hco

theorem Running.at_open (h : Running build base keys s)
    (hat : s.main = .entry ∨ s.main = .resetRequested ∨ s.main = .restarting) :
    Tracks build base keys .ready s.node ∧ s.node.host.app.canOpenStack = true := by
  cases h with
  | inside other hco h hstack =>
      rcases hat with hat | hat | hat <;> rw [hat] at hco <;> cases hco
  | ended hended h =>
      rcases hended with hended | hended <;> rw [hended] at hat <;> simp at hat
  | recreating todo ret hmain h howner =>
      rw [hmain] at hat
      simp at hat
  | entry hmain h hopen | requested hmain h hopen | restarting hmain h hopen => exact ⟨h, hopen⟩

theorem Running.at_recreating (h : Running build base keys s) {todo : List Recreate} {ret : RtErr}
    (hat : s.main = .recreating todo ret) :
    Recreating build base keys s.node todo ret ∧ s.owner = some .mainThread := by
  cases h with
  | inside other hco h hstack =>
      rw [hat] at hco
      cases hco
  | ended hended h => rcases hended with hended | hended <;> rw [hat] at hended <;> cases hended
  | recreating todo' ret' hmain h howner =>
      rw [hat] at hmain
      cases hmain
      exact ⟨h, howner⟩
  | entry hmain h hopen | requested hmain h hopen | restarting hmain h hopen =>
      rw [hat] at hmain
      cases hmain

theorem stopRealtime_kept (h : Tracks build base keys .ready node) :
    Tracks build base keys .ready (node.stopRealtime build) ∧
      (node.stopRealtime build).host = node.host ∧
        (node.stopRealtime build).stack = node.stack := by
  unfold Node.stopRealtime
  split
  · have hstop : Tracks build base keys .ready (node.emit (.stop .rtTimer)) := h.emit fun _ => rfl
    refine ⟨hstop.resetWakeups, ?_, ?_⟩ <;> rw [Node.resetWakeups_eq] <;> rfl
  · exact ⟨h, rfl, rfl⟩

theorem restartRealtime_kept (h : Tracks build base keys .ready node) (started : Bool) :
    Tracks build base keys .ready (node.restartRealtime started) ∧
      (node.restartRealtime started).host = node.host ∧
      (node.restartRealtime started).stack = node.stack := by
  unfold Node.restartRealtime
  repeat' split
  · exact ⟨h, rfl, rfl⟩
  · exact ⟨h.emit fun _ => rfl, rfl, rfl⟩
  · exact ⟨h.silent (List.append_nil _).symm (by simp) rfl rfl rfl rfl, rfl, rfl⟩

theorem stack_of_open (hopen : node.host.app.canOpenStack = true) :
    node.stack = some node.generation := by
  unfold Node.stack
  rw [hopen, if_pos rfl]

theorem open_of_stack {co : Nat} (hstack : node.stack = some co) :
    node.host.app.canOpenStack = true := by
  unfold Node.stack at hstack
  split at hstack
  case isTrue hopen => exact hopen
  case isFalse => cases hstack

/-- A step of `co_main` that leaves the mutex and the stack alone. -/
theorem Inv.mainMoves (h : Inv build base keys s) (hstartup : s'.startup = s.startup)
    (hrt : s'.rt = s.rt) (hworker : s'.worker = s.worker) (howner : s'.owner = s.owner)
    (hstack : s'.node.stack = s.node.stack) (hmain : s.main ≠ .off)
    (hrunning : Running build base keys s') : Inv build base keys s' := by
  refine ⟨.running ?_ hrunning, ?_, ?_, ?_⟩
  · rw [hstartup]
    exact (h.situation.atWork hmain).1
  · rw [hrt, howner]
    exact h.rt
  · rw [hrt, hstack]
    exact h.rtStack
  · rw [hworker, howner]
    exact h.worker

/-- A step of `co_main` inside its section keeps the others out. -/
theorem Inv.mainSection (h : Inv build base keys s) (hstartup : s'.startup = s.startup)
    (hrt : s'.rt = s.rt) (hworker : s'.worker = s.worker) (hmain : s.main ≠ .off)
    (hbefore : s.owner = none ∨ s.owner = some .mainThread)
    (hrunning : Running build base keys s') : Inv build base keys s' := by
  have hrtOut : ¬ (s.rt = .locked ∨ ∃ co i, s.rt = .synchronous co i) := by
    intro hinside
    have howner := h.rt hinside
    rcases hbefore with hnone | hmine
    · rw [hnone] at howner
      cases howner
    · rw [hmine] at howner
      cases howner
  refine ⟨.running ?_ hrunning, ?_, ?_, ?_⟩
  · rw [hstartup]
    exact (h.situation.atWork hmain).1
  · rw [hrt]
    exact fun hinside => absurd hinside hrtOut
  · rw [hrt]
    exact fun co i hinside => absurd (Or.inr ⟨co, i, hinside⟩) hrtOut
  · rw [hworker]
    intro i hinside
    have howner := h.worker i hinside
    rcases hbefore with hnone | hmine
    · rw [hnone] at howner
      cases howner
    · rw [hmine] at howner
      cases howner

theorem MainStep.working (h : MainStep build s s') : s.main ≠ .off := by
  intro hoff
  cases h <;> simp_all

theorem Inv.mainStep (h : Inv build base keys s) (hstep : MainStep build s s') :
    Inv build base keys s' := by
  have hmain := hstep.working
  obtain ⟨-, hrunning⟩ := h.situation.atWork hmain
  have hinside : ∀ {co : Nat}, s.main.co = some co →
      Tracks build base keys .ready s.node ∧ s.node.stack = some co := hrunning.at_co
  have hnotified : ∀ {node : Node} {notice : Notice} {gate : Slot → Bool} {i : Nat},
      (node.notifySlot build notice gate i).stack = node.stack := by
    intro node notice gate i
    unfold Node.notifySlot
    rw [Node.emitIf_eq]
    rfl
  cases hstep with
  | entry co hat hstack =>
      obtain ⟨htracks, -⟩ := hrunning.at_open (Or.inl hat)
      exact h.mainMoves rfl rfl rfl rfl rfl hmain (.inside co rfl htracks hstack)
  | entryNull hat hstack =>
      obtain ⟨-, hopen⟩ := hrunning.at_open (Or.inl hat)
      rw [stack_of_open hopen] at hstack
      cases hstack
  | process co reset changed hat =>
      obtain ⟨htracks, hstack⟩ := hinside (by rw [hat]; rfl : s.main.co = some co)
      refine h.mainMoves rfl rfl rfl rfl rfl hmain (.inside co ?_ htracks hstack)
      dsimp only
      split <;> rfl
  | nmtStateChanged co i hat hi =>
      obtain ⟨htracks, hstack⟩ := hinside (by rw [hat]; rfl : s.main.co = some co)
      exact h.mainMoves rfl rfl rfl rfl hnotified hmain
        (.inside co rfl (htracks.process rfl hi) (hnotified.trans hstack))
  | nmtStateEnd co i hat hi =>
      obtain ⟨htracks, hstack⟩ := hinside (by rw [hat]; rfl : s.main.co = some co)
      exact h.mainMoves rfl rfl rfl rfl rfl hmain (.inside co rfl htracks hstack)
  | mainlineProcess co reset i hat hi =>
      obtain ⟨htracks, hstack⟩ := hinside (by rw [hat]; rfl : s.main.co = some co)
      exact h.mainMoves rfl rfl rfl rfl hnotified hmain
        (.inside co rfl (htracks.process rfl hi) (hnotified.trans hstack))
  | mainlineEnd co reset i hat hi =>
      obtain ⟨htracks, hstack⟩ := hinside (by rw [hat]; rfl : s.main.co = some co)
      obtain ⟨hstopped, hhost, hkept⟩ := stopRealtime_kept htracks
      cases reset with
      | comm =>
          exact h.mainMoves rfl rfl rfl rfl hkept hmain
            (.requested rfl hstopped (hhost ▸ open_of_stack hstack))
      | app => exact h.mainMoves rfl rfl rfl rfl rfl hmain (.ended (Or.inr rfl) htracks)
      | not => exact h.mainMoves rfl rfl rfl rfl rfl hmain (.inside co rfl htracks hstack)
      | quit => exact h.mainMoves rfl rfl rfl rfl rfl hmain (.inside co rfl htracks hstack)
  | resetLockFails hat =>
      obtain ⟨htracks, -⟩ := hrunning.at_open (Or.inr (Or.inl hat))
      exact h.mainMoves rfl rfl rfl rfl rfl hmain (.ended (Or.inl rfl) htracks)
  | resetLock hat hfree =>
      obtain ⟨htracks, hopen⟩ := hrunning.at_open (Or.inr (Or.inl hat))
      refine h.mainSection rfl rfl rfl hmain (Or.inl hfree) (.recreating _ _ rfl ?_ rfl)
      unfold Recreate.plan
      rw [hopen, if_pos rfl]
      exact .stop (Or.inl ⟨rfl, rfl⟩) (Or.inr rfl) htracks hopen
  | recreate answers statement todo ret hat hok =>
      obtain ⟨hrecreating, howner⟩ := hrunning.at_recreating hat
      exact h.mainSection rfl rfl rfl hmain (Or.inr howner)
        (.recreating todo ret rfl (hrecreating.step.1 hok) howner)
  | recreateFails answers statement todo ret hat hfailed =>
      obtain ⟨hrecreating, howner⟩ := hrunning.at_recreating hat
      exact h.mainSection rfl rfl rfl hmain (Or.inr howner)
        (.recreating _ _ rfl (hrecreating.step.2 hfailed) howner)
  | recreated ret hat =>
      obtain ⟨hrecreating, howner⟩ := hrunning.at_recreating hat
      refine h.mainSection rfl rfl rfl hmain (Or.inr howner) ?_
      cases hrecreating with
      | finished htracks hopen => exact .restarting rfl htracks hopen
      | failed hret htracks => exact .ended (Or.inl (if_neg hret)) htracks
  | restart started co hat hstack =>
      obtain ⟨htracks, hopen⟩ := hrunning.at_open (Or.inr (Or.inr hat))
      obtain ⟨hrestarted, -, hkept⟩ := restartRealtime_kept htracks started
      refine h.mainMoves rfl rfl rfl rfl hkept hmain ?_
      by_cases hfailed : s.node.host.app.rtTimer = true ∧ started = false
      · exact .ended (Or.inl (if_pos hfailed)) hrestarted
      · exact .inside co (congrArg MainAt.co (if_neg hfailed)) hrestarted (hkept.trans hstack)

/-! ## The initialisation -/

theorem drop_order {k : Nat} {stage : Stage} {rest : List Stage}
    (h : Stage.order.drop k = stage :: rest) :
    k = stage.rank ∧ rest = Stage.order.drop (k + 1) := by
  have hk : k < Stage.order.length := by
    by_contra hend
    rw [List.drop_eq_nil_of_le (by omega)] at h
    cases h
  rw [List.drop_eq_getElem_cons hk] at h
  obtain ⟨hstage, hrest⟩ := List.cons.inj h
  have hranks : ∀ i : Fin Stage.order.length, i.val = (Stage.order.get i).rank := by decide
  exact ⟨(hranks ⟨k, hk⟩).trans (congrArg Stage.rank hstage), hrest.symm⟩

theorem Situation.at_stage (h : Situation build base keys s) {stage : Stage} {rest : List Stage}
    (hat : s.startup = .staging (stage :: rest)) :
    rest = Stage.order.drop (stage.rank + 1) ∧ s.main = .off ∧
      Tracks build base keys .ready s.node ∧
      (stage.rank ≤ Stage.newStack.rank → s.node.host.app.canOpenStack = false) ∧
      (Stage.newStack.rank < stage.rank → s.node.host.app.canOpenStack = true) ∧
      (stage.rank ≤ Stage.resetCommunication.rank → Unbound s.node ∧ s.node.canDevice = false) ∧
      (stage.rank ≤ Stage.startRtThread.rank → s.rt = .off) ∧
      (stage.rank ≤ Stage.runtimeStart.rank → s.worker = .off) := by
  cases h with
  | staging k hk hlast hmain h hclosed hopen hunbound hrt hworker =>
      obtain ⟨rfl, hrest⟩ := drop_order (StartupAt.staging.inj (hk.symm.trans hat))
      exact ⟨hrest, hmain, h, hclosed, hopen, hunbound, hrt, hworker⟩
  | cleaning ret standing hend => rcases hend with hend | hend <;> cases hend.symm.trans hat
  | gone ret hend => cases hend.symm.trans hat
  | running hend => rcases hend with hend | hend <;> cases hend.symm.trans hat

theorem Situation.at_cleanup (h : Situation build base keys s) {ret : RtErr}
    (hat : s.startup = .failed ret ∨ s.startup = .withdrawn ret) :
    s.main = .off ∧ ∃ standing, (standing = .bound ∨ standing = .ready) ∧
      Tracks build base keys standing s.node ∧
      (standing = .ready ∨ s.rt = .off ∧ s.worker = .off) := by
  cases h with
  | staging k hk => rcases hat with hat | hat <;> cases hk.symm.trans hat
  | cleaning _ standing hend hmain hstanding h hthreads =>
      exact ⟨hmain, standing, hstanding, h, hthreads⟩
  | gone _ hend => rcases hat with hat | hat <;> cases hend.symm.trans hat
  | running hend =>
      rcases hend with hend | hend <;> rcases hat with hat | hat <;> cases hend.symm.trans hat

/-- A stage that runs while other threads may is one of the silent ones. -/
theorem silent_of_rank {stage : Stage} (h : Stage.startRtThread.rank < stage.rank) :
    stage.isSilent = true := by
  cases stage <;> first | rfl | exact absurd h (by decide)

theorem Situation.perform (h : Situation build base keys s) {stage : Stage} {rest : List Stage}
    (hat : s.startup = .staging (stage :: rest)) :
    ((stage.perform build answers s.state).2 = .ok →
        Tracks build base keys .ready (stage.perform build answers s.state).1.node) ∧
      ((stage.perform build answers s.state).2 ≠ .ok →
        ∃ standing, (standing = .bound ∨ standing = .ready) ∧
          Tracks build base keys standing (stage.perform build answers s.state).1.node ∧
          (standing = .ready ∨ s.rt = .off ∧ s.worker = .off)) ∧
      (s.rt ≠ .off ∨ s.worker ≠ .off →
        (stage.perform build answers s.state).1.node.stack = s.node.stack) := by
  obtain ⟨-, -, h, hclosed, hopen, hunbound, hrt, hworker⟩ := h.at_stage hat
  by_cases hsilent : stage.isSilent = true
  · have hperformed := @Tracks.perform build answers base keys .ready s.state h stage hsilent
    obtain ⟨hpointer, hgeneration⟩ := @perform_stack build answers s.state stage hsilent
    refine ⟨fun _ => hperformed, fun _ => ⟨.ready, Or.inr rfl, hperformed, Or.inl rfl⟩, fun _ => ?_⟩
    unfold Node.stack System.node
    rw [hpointer, hgeneration]
  · have hearly : stage.rank ≤ Stage.startRtThread.rank := by
      by_contra hlate
      exact hsilent (silent_of_rank (by omega))
    have hbefore : stage.rank ≤ Stage.runtimeStart.rank :=
      Nat.le_trans hearly (by decide)
    have hoff : s.rt = .off ∧ s.worker = .off := ⟨hrt hearly, hworker hbefore⟩
    have hthreads : ¬ (s.rt ≠ .off ∨ s.worker ≠ .off) := by
      rintro (hruns | hruns)
      · exact hruns hoff.1
      · exact hruns hoff.2
    cases stage with
    | newStack =>
        obtain ⟨hfree, hdevice⟩ := hunbound (by decide)
        have hcreated := h.create hfree (hclosed (Nat.le_refl _)) hdevice answers.newStack
        exact ⟨fun _ => hcreated, fun _ => ⟨.ready, Or.inr rfl, hcreated, Or.inl rfl⟩,
          fun hruns => absurd hruns hthreads⟩
    | resetCommunication =>
        obtain ⟨hfree, -⟩ := hunbound (Nat.le_refl _)
        obtain ⟨hready, hfailed, -⟩ := h.reset hfree (hopen (by decide)) answers.reset true
        exact ⟨hready, fun hret => ⟨.bound, Or.inl rfl, hfailed hret, Or.inr hoff⟩,
          fun hruns => absurd hruns hthreads⟩
    | _ => exact absurd rfl hsilent

theorem early_of_rank {stage : Stage} (h : stage.rank < Stage.newStack.rank) :
    stage = .semInit ∨ stage = .mainlineInit ∨ stage = .mutexInit := by
  cases stage <;> first | exact absurd h (by decide) | simp

theorem newStack_open {created : Bool} (hok : (node.newStack created).2 = .ok) :
    (node.newStack created).1.host.app.canOpenStack = true ∧
      (node.newStack created).1.canDevice = false ∧
      (node.newStack created).1.host.registered = node.host.registered := by
  unfold Node.newStack at hok ⊢
  split at hok
  · cases hok
  case isFalse hcreated =>
      rw [if_neg hcreated]
      exact ⟨rfl, rfl, rfl⟩

/-- A finished stage. -/
theorem Situation.stage (h : Situation build base keys s) {stage : Stage} {rest : List Stage}
    (hat : s.startup = .staging (stage :: rest))
    (hok : (stage.perform build answers s.state).2 = .ok) :
    Situation build base keys
      ({ s with
          state := (stage.perform build answers s.state).1
          startup := .staging rest }.started build stage) := by
  obtain ⟨hready, -, -⟩ := @Situation.perform build answers base keys s h stage rest hat
  obtain ⟨rfl, hmain, htracks, hclosed, hopen, hunbound, hrt, hworker⟩ := h.at_stage hat
  have hready := hready hok
  by_cases hlast : stage = .startMainThread
  · subst hlast
    refine .running (Or.inl rfl) (.entry rfl hready ?_)
    exact (@perform_stack build answers s.state .startMainThread rfl).1.trans (hopen (by decide))
  have hrank : stage.rank + 1 ≤ Stage.startMainThread.rank := by
    cases stage <;> first | exact absurd rfl hlast | decide
  refine .staging (stage.rank + 1) rfl hrank ((if_neg hlast).trans hmain) hready ?_ ?_ ?_ ?_ ?_
  · intro hnext
    obtain ⟨hhost, -⟩ := @perform_early build answers s.state stage (early_of_rank hnext)
    exact (congrArg (fun host : Host => host.app.canOpenStack) hhost).trans
      (hclosed (Nat.le_of_lt hnext))
  · intro hbehind
    by_cases hsilent : stage.isSilent = true
    · have hstrict : Stage.newStack.rank < stage.rank := by
        rcases Nat.lt_or_eq_of_le (Nat.le_of_lt_succ hbehind) with hless | heq
        · exact hless
        · rw [← Stage.eq_of_rank heq] at hsilent
          cases hsilent
      exact (@perform_stack build answers s.state stage hsilent).1.trans (hopen hstrict)
    · cases stage with
      | newStack => exact (newStack_open hok).1
      | resetCommunication =>
          exact (htracks.reset (hunbound (Nat.le_refl _)).1 (hopen (by decide)) answers.reset
            true).2.2
      | _ => exact absurd rfl hsilent
  · intro hnext
    obtain ⟨hfree, hdevice⟩ := hunbound (Nat.le_of_lt hnext)
    by_cases hearly : stage.rank < Stage.newStack.rank
    · obtain ⟨hhost, hkept⟩ := @perform_early build answers s.state stage (early_of_rank hearly)
      refine ⟨?_, hkept.trans hdevice⟩
      intro slot hslot
      exact hfree slot (hhost ▸ hslot)
    · have hstage : stage = .newStack := by
        cases stage <;>
          first | rfl | exact absurd hnext (by decide) | exact absurd (by decide) hearly
      subst hstage
      obtain ⟨-, hoff, hregistered⟩ := newStack_open hok
      refine ⟨?_, hoff⟩
      intro slot hslot
      exact hfree slot (hregistered ▸ hslot)
  · intro hnext
    have hother : stage ≠ .startRtThread := by
      rintro rfl
      exact absurd hnext (by decide)
    exact (if_neg hother).trans (hrt (Nat.le_of_lt hnext))
  · intro hnext
    have hother : stage ≠ .runtimeStart := by
      rintro rfl
      exact absurd hnext (by decide)
    exact (if_neg fun hworks => hother hworks.1).trans (hworker (Nat.le_of_lt hnext))

theorem started_rt (build : Build) (stage : Stage) (s : System) :
    (s.started build stage).rt = .waiting ∨ (s.started build stage).rt = s.rt := by
  unfold started
  dsimp only
  split
  · exact Or.inl rfl
  · exact Or.inr rfl

theorem started_worker (build : Build) (stage : Stage) (s : System) :
    (s.started build stage).worker = .waiting ∨ (s.started build stage).worker = s.worker := by
  unfold started
  dsimp only
  split
  · exact Or.inl rfl
  · exact Or.inr rfl

/-- A thread is inside the section of the mutex. -/
def Inside (s : System) : Prop :=
  (s.rt = .locked ∨ ∃ co i, s.rt = .synchronous co i) ∨ ∃ i, s.worker = .deferred i

theorem Inside.runs (h : s.Inside) : s.rt ≠ .off ∨ s.worker ≠ .off := by
  rcases h with (hlocked | ⟨co, i, hinside⟩) | ⟨i, hinside⟩
  · exact Or.inl (by rw [hlocked]; nofun)
  · exact Or.inl (by rw [hinside]; nofun)
  · exact Or.inr (by rw [hinside]; nofun)

/-- Every thread that is inside was so before, and still has the mutex and its stack. -/
theorem Inv.carried (h : Inv build base keys s) (hsituation : Situation build base keys s')
    (hrt : s'.rt = .waiting ∨ s'.rt = s.rt) (hworker : s'.worker = .waiting ∨ s'.worker = s.worker)
    (hkept : s.Inside → s'.owner = s.owner ∧ s'.node.stack = s.node.stack) :
    Inv build base keys s' := by
  refine ⟨hsituation, ?_, ?_, ?_⟩
  · rcases hrt with hrt | hrt
    · rw [hrt]
      rintro (hlocked | ⟨co, i, hinside⟩) <;> cases ‹_›
    · rw [hrt]
      exact fun hinside => (hkept (Or.inl hinside)).1.trans (h.rt hinside)
  · rcases hrt with hrt | hrt
    · rw [hrt]
      nofun
    · rw [hrt]
      exact fun co i hinside => (hkept (Or.inl (Or.inr ⟨co, i, hinside⟩))).2.trans
        (h.rtStack co i hinside)
  · rcases hworker with hworker | hworker
    · rw [hworker]
      nofun
    · rw [hworker]
      exact fun i hinside => (hkept (Or.inr ⟨i, hinside⟩)).1.trans (h.worker i hinside)

theorem Inv.startupStep (h : Inv build base keys s) (htake : answers.mutexTake = .ok)
    (hstep : StartupStep build answers s s') : Inv build base keys s' := by
  cases hstep with
  | stage stage rest hat hok =>
      obtain ⟨-, -, hstack⟩ :=
        @Situation.perform build answers base keys s h.situation stage rest hat
      exact h.carried (h.situation.stage hat hok) (started_rt build stage _)
        (started_worker build stage _) fun hinside => ⟨rfl, hstack hinside.runs⟩
  | stageFails stage rest hat hfailed =>
      obtain ⟨-, hleft, hstack⟩ :=
        @Situation.perform build answers base keys s h.situation stage rest hat
      obtain ⟨-, hmain, -⟩ := h.situation.at_stage hat
      obtain ⟨standing, hstanding, htracks, hthreads⟩ := hleft hfailed
      exact h.carried (.cleaning _ standing (Or.inl rfl) hmain hstanding htracks hthreads)
        (Or.inr rfl) (Or.inr rfl) fun hinside => ⟨rfl, hstack hinside.runs⟩
  | initialised hat =>
      refine h.carried ?_ (Or.inr rfl) (Or.inr rfl) fun _ => ⟨rfl, rfl⟩
      cases h.situation with
      | staging k hk hlast =>
          have hend := StartupAt.staging.inj (hk.symm.trans hat)
          rw [List.drop_eq_nil_iff] at hend
          exact absurd (Nat.le_trans hend hlast) (by decide)
      | cleaning ret standing hend => rcases hend with hend | hend <;> cases hend.symm.trans hat
      | gone ret hend => cases hend.symm.trans hat
      | running hend hrunning =>
          refine .running (Or.inr rfl) ?_
          cases hrunning with
          | entry hmain h hopen => exact .entry hmain h hopen
          | inside co hco h hstack => exact .inside co hco h hstack
          | requested hmain h hopen => exact .requested hmain h hopen
          | recreating todo ret hmain h howner => exact .recreating todo ret hmain h howner
          | restarting hmain h hopen => exact .restarting hmain h hopen
          | ended hmain h => exact .ended hmain h
  | withdraw ret hat =>
      obtain ⟨hmain, standing, hstanding, htracks, hthreads⟩ :=
        h.situation.at_cleanup (Or.inl hat)
      have hwithdrawn : Tracks build base keys standing (s.state.withdraw build) :=
        (@Tracks.emitIf _ _ _ _ _ htracks _ _ fun _ => rfl).resetWakeups
      refine h.carried (.cleaning ret standing (Or.inr rfl) hmain hstanding hwithdrawn hthreads)
        (Or.inr rfl) (Or.inr rfl) fun _ => ⟨rfl, ?_⟩
      change (s.state.withdraw build).stack = s.state.node.stack
      unfold Initialising.withdraw
      rw [Node.resetWakeups_eq, Node.emitIf_eq]
      rfl
  | cleanup ret hat hfree =>
      obtain ⟨hmain, standing, hstanding, htracks, -⟩ := h.situation.at_cleanup (Or.inr hat)
      obtain ⟨hsettled, hnone⟩ := @Tracks.cleanup _ answers _ _ _ s.state htracks hstanding htake
      exact ⟨.gone ret rfl rfl rfl rfl hsettled hnone, fun hinside => by simp at hinside, nofun,
        nofun⟩

theorem Inv.step (h : Inv build base keys s) (htake : answers.mutexTake = .ok)
    (hstep : Step build answers s s') : Inv build base keys s' := by
  cases hstep with
  | startup hstep => exact h.startupStep htake hstep
  | main hstep => exact h.mainStep hstep
  | rt hstep => exact h.rtStep hstep
  | worker hstep => exact h.workerStep hstep
  | otherLock hfree =>
      have hout : ¬ s.Inside := by
        rintro (hinside | ⟨i, hinside⟩)
        · exact absurd (hfree.symm.trans (h.rt hinside)) nofun
        · exact absurd (hfree.symm.trans (h.worker i hinside)) nofun
      refine h.carried (h.situation.touch (Or.inl rfl) rfl rfl id id ?_) (Or.inr rfl) (Or.inr rfl)
        fun hinside => absurd hinside hout
      rw [hfree]
      nofun
  | otherUnlock howner =>
      have hout : ¬ s.Inside := by
        rintro (hinside | ⟨i, hinside⟩)
        · exact absurd (howner.symm.trans (h.rt hinside)) nofun
        · exact absurd (howner.symm.trans (h.worker i hinside)) nofun
      refine h.carried (h.situation.touch (Or.inl rfl) rfl rfl id id ?_) (Or.inr rfl) (Or.inr rfl)
        fun hinside => absurd hinside hout
      rw [howner]
      nofun

end

/-! ## Whole runs -/

/-- What holds after any interleaving that began with the registered slots of `before`. -/
structure Law (build : Build) (before : Node) (s : System) : Prop where
  /-- Each extension saw a permitted word of generations, which has come to the current stack. -/
  word : ∃ events, s.node.trace = before.trace ++ events ∧
    ∀ slot ∈ before.host.registered, ∃ phase,
      Explained build slot.key {} events phase ∧ phase.stack = s.node.stack
  /-- The threads work on the current stack. -/
  main : ∀ co, s.main.co = some co → s.node.stack = some co
  rt : ∀ co i, s.rt = .synchronous co i → s.node.stack = some co

theorem start_inv {build : Build} {node : Node} (h : node.Startable build) :
    Inv build node.trace (node.host.registered.map Slot.key) (start node) := by
  have hunbound : Unbound node := by
    intro slot hslot
    rw [h.fresh slot hslot]
    rfl
  have hstack : node.stack = none := by
    unfold Node.stack
    rw [h.canOpenStack]
    rfl
  have hbegin : Tracks build node.trace (node.host.registered.map Slot.key) .ready node := by
    refine ⟨h.valid, rfl, [], (List.append_nil _).symm, fun slot hslot => ?_⟩
    rw [phase_of_unbound (hunbound slot hslot), hstack, h.device]
    exact explained_of_silent _ (by simp)
  refine ⟨.staging 0 rfl (Nat.zero_le _) rfl (hbegin.emit fun _ => rfl) (fun _ => h.canOpenStack)
    (fun hlater => absurd hlater (by decide)) (fun _ => ⟨hunbound, h.device⟩) (fun _ => rfl)
    fun _ => rfl, ?_, nofun, nofun⟩
  rintro (hlocked | ⟨co, i, hinside⟩) <;> cases ‹_›

/-- Between any two steps the word of each slot is a permitted one. -/
theorem Situation.word {build : Build} {base : List Event} {keys : List Key} {s : System}
    (h : Situation build base keys s) :
    (∃ standing, Tracks build base keys standing s.node) ∨ Settled build base keys s.node := by
  cases h with
  | staging k hat hlast hmain h hclosed hopen hunbound hrt hworker => exact Or.inl ⟨_, h⟩
  | cleaning ret standing hat hmain hstanding h hthreads => exact Or.inl ⟨_, h⟩
  | gone ret hat hmain hrt hworker h hstack => exact Or.inr h
  | running hat h =>
      left
      cases h with
      | entry hat h hopen => exact ⟨_, h⟩
      | inside co hat h hstack => exact ⟨_, h⟩
      | requested hat h hopen => exact ⟨_, h⟩
      | recreating todo ret hat h howner => exact h.tracks
      | restarting hat h hopen => exact ⟨_, h⟩
      | ended hat h => exact ⟨_, h⟩

theorem Inv.law {build : Build} {before : Node} {s : System}
    (h : Inv build before.trace (before.host.registered.map Slot.key) s) : s.Law build before := by
  refine ⟨?_, ?_, h.rtStack⟩
  · rcases h.situation.word with ⟨standing, htracks⟩ | ⟨events, hevents, hexplained⟩
    · obtain ⟨events, hevents, hexplained⟩ := htracks.explained
      refine ⟨events, hevents, fun slot hslot => ?_⟩
      have hkey : slot.key ∈ s.node.host.registered.map Slot.key :=
        htracks.keys ▸ List.mem_map_of_mem hslot
      obtain ⟨now, hnow, hsame⟩ := List.mem_map.mp hkey
      exact ⟨s.node.phase standing now, hsame ▸ hexplained now hnow, rfl⟩
    · exact ⟨events, hevents, fun slot hslot =>
        ⟨_, hexplained slot.key (List.mem_map_of_mem hslot), rfl⟩⟩
  · intro co hco
    have hworking : s.main ≠ .off := by
      intro hoff
      rw [hoff] at hco
      cases hco
    exact ((h.situation.atWork hworking).2.at_co hco).2

end System

end CanopenRtt.Lifecycle
