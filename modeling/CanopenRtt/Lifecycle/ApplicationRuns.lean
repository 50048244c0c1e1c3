import CanopenRtt.Lifecycle.Restart
import CanopenRtt.Support.Run
/-!
# Runs of registrations and initialisations

Each initialisation of a run that fails behind its argument checks gives back what it acquired, in
an order no thread and no extension can notice, and leaves an application that can be initialised
again with the slots that remain.
-/

namespace CanopenRtt.Lifecycle

open CanopenRtt.Support

namespace Node

/-- What was logged since. -/
def newEvents (before after : Node) : List Event := after.trace.drop before.trace.length

theorem newEvents_of_append {before after : Node} {events : List Event}
    (h : after.trace = before.trace ++ events) : newEvents before after = events := by
  rw [newEvents, h, List.drop_left]

/-- What a failed initialisation of `node` has to leave. -/
structure LeftNothing (build : Build) (answers : InitAnswers) (node after : Node) : Prop where
  mainThread : after.host.app.mainThread = false
  rtThread : after.host.app.rtThread = false
  rtTimer : after.host.app.rtTimer = false
  canOpenStack : after.host.app.canOpenStack = false
  ordered : ∃ monitor, Accepts Monitor.check {} (newEvents node after) monitor
  released : ∀ resource, (newEvents node after).countP (· = .acquire resource) =
    (newEvents node after).countP (· = .release resource)
  teardown : answers.timeInit = .ok →
    ∀ slot ∈ (Initialising.attempt build answers node).1.node.host.registered,
      (newEvents (Initialising.attempt build answers node).1.node after).filter
          (Event.concerns slot.key) =
        (Initialising.attempt build answers node).1.node.teardown build slot
  slots : after.host.registered =
    if answers.timeInit = .ok then node.host.registered.filter fun slot => slot.release.isNone
    else node.host.registered
  /-- It starts once nothing fails. -/
  restart : ∀ arguments : Arguments, arguments.accepted build = true →
    (build.sharedWorker = true → build.workerBelowRt = true) →
    (after.init build arguments {}).2 = .ok

section

variable {build : Build} {node : Node} {arguments : Arguments} {answers : InitAnswers}

/-- The slots that a cleanup leaves are the ones that belong to the caller. -/
theorem Startable.remaining {after : Node} (h : node.Startable build)
    (hafter : after.Startable build)
    (hidentities : after.host.identities = callerOwned node.host.identities) :
    after.host.registered = node.host.registered.filter fun slot => slot.release.isNone := by
  refine eq_of_identities hafter.fresh ?_ ?_
  · exact fun slot hslot => h.fresh slot (List.mem_filter.mp hslot).1
  · refine hidentities.trans ?_
    unfold callerOwned Host.identities
    rw [List.filter_map]
    rfl

/-- After a failed attempt, and the cleanup that follows it. -/
theorem Startable.cleanup (h : node.Startable build) (htime : answers.timeInit = .ok)
    (htake : answers.mutexTake = .ok) (hret : (Initialising.attempt build answers node).2 ≠ .ok) :
    ((Initialising.attempt build answers node).1.cleanup build answers).Startable build ∧
      LeftNothing build answers node
        ((Initialising.attempt build answers node).1.cleanup build answers) := by
  have hfailed : Lawful build node.trace node.host.identities false false
      (Initialising.attempt build answers node).1 := by
    rcases @Startable.attempt build node answers h with ⟨hok, -⟩ | ⟨-, hlawful⟩
    · exact absurd hok hret
    · exact hlawful
  obtain ⟨hlawful, hholds⟩ := hfailed.cleanup htake
  have hstartable := hlawful.startable hholds (fresh_cleanup hfailed htake)
  refine ⟨hstartable, hstartable.mainThread, hstartable.rtThread, hstartable.rtTimer,
    hstartable.canOpenStack, ?_, ?_, ?_, ?_, fun _ => hstartable.succeeds⟩
  · obtain ⟨events, monitor, htrace, haccepts, -⟩ := hlawful.accepted
    rw [newEvents_of_append htrace]
    exact ⟨monitor, haccepts⟩
  · intro resource
    obtain ⟨events, monitor, htrace, haccepts, hsim⟩ := hlawful.accepted
    rw [newEvents_of_append htrace, Monitor.count_acquire haccepts resource, hsim.held,
      hholds resource]
    rfl
  · intro _ slot hslot
    obtain ⟨events, htrace, hteardown⟩ := cleanup_teardown hfailed htake
    rw [newEvents_of_append htrace]
    exact hteardown slot hslot
  · rw [if_pos htime]
    exact h.remaining hstartable hlawful.identities

/-- A failed initialisation returned at once, or it entered the cleanup. -/
theorem Startable.init_cases (h : node.Startable build)
    (hret : (node.init build arguments answers).2 ≠ .ok) :
    (node.init build arguments answers).1 = node ∧
        (arguments.accepted build = false ∨ answers.timeInit ≠ .ok) ∨
      answers.timeInit = .ok ∧ (Initialising.attempt build answers node).2 ≠ .ok ∧
        (node.init build arguments answers).1 =
          (Initialising.attempt build answers node).1.cleanup build answers := by
  unfold Node.init at hret ⊢
  rw [h.started] at hret ⊢
  simp only [Bool.false_eq_true, if_false] at hret ⊢
  split at hret
  case isTrue hrejected =>
      rw [if_pos hrejected]
      exact Or.inl ⟨rfl, Or.inl (by simpa using hrejected)⟩
  case isFalse haccepted =>
      rw [if_neg haccepted]
      split at hret
      case isTrue htime =>
          rw [if_pos htime]
          exact Or.inl ⟨rfl, Or.inr htime⟩
      case isFalse htime =>
          rw [if_neg htime]
          split at hret
          case isTrue => exact absurd rfl hret
          case isFalse hfailed =>
              rw [if_neg hfailed]
              exact Or.inr ⟨not_not.mp htime, hfailed, rfl⟩

theorem Startable.init (h : node.Startable build) (haccepted : arguments.accepted build = true)
    (htake : answers.mutexTake = .ok) (hret : (node.init build arguments answers).2 ≠ .ok) :
    (node.init build arguments answers).1.Startable build ∧
      LeftNothing build answers node (node.init build arguments answers).1 := by
  rcases h.init_cases hret with ⟨hsame, hwhy⟩ | ⟨htime, hfailed, hcleanup⟩
  · have htime : answers.timeInit ≠ .ok := by
      rcases hwhy with hrejected | htime
      · exact absurd (haccepted.symm.trans hrejected) nofun
      · exact htime
    have hnone : newEvents node node = [] := newEvents_of_append (List.append_nil _).symm
    rw [hsame]
    refine ⟨h, h.mainThread, h.rtThread, h.rtTimer, h.canOpenStack, ?_, ?_, ?_, ?_,
      fun _ => h.succeeds⟩
    · rw [hnone]
      exact ⟨{}, accepts_nil.mpr rfl⟩
    · rw [hnone]
      exact fun _ => rfl
    · exact fun hok => absurd hok htime
    · rw [if_neg htime]
  · rw [hcleanup]
    exact h.cleanup htime htake hfailed

/-! ### The second teardown -/

theorem concerns_of_releases {slot : Key} {event : Event}
    (h : Monitor.releasesContext slot event = true) : event.concerns slot = true := by
  cases event with
  | callback stack call =>
      cases call with
      | release other => exact h
      | _ => cases h
  | _ => cases h

theorem count_filter (events : List Event) (slot : Key) :
    events.countP (Monitor.releasesContext slot) =
      (events.filter (Event.concerns slot)).countP (Monitor.releasesContext slot) := by
  rw [List.countP_filter]
  refine List.countP_congr fun event _ => ?_
  constructor
  · intro h
    rw [h, concerns_of_releases h]
    rfl
  · intro h
    rw [Bool.and_eq_true] at h
    exact h.1

theorem count_deinitCalls (setup : Setup) (stack : Option Nat) (slot : Slot) :
    ((slot.deinitCalls setup slot.deinitRequired).map (Event.callback stack)).countP
      (Monitor.releasesContext slot.key) = slot.release.isSome.toNat := by
  unfold Slot.deinitCalls Slot.releaseCalls
  rw [List.map_append, List.countP_append]
  have hdeinit : ((if (slot.deinitRequired && setup.has slot .runtimeDeinit) = true then
      [Call.runtimeDeinit slot.key] else []).map (Event.callback stack)).countP
        (Monitor.releasesContext slot.key) = 0 := by
    split <;> rfl
  rw [hdeinit]
  cases slot.release with
  | none => rfl
  | some release => simp [Monitor.releasesContext]

theorem count_teardown (build : Build) (node : Node) (slot : Slot) :
    (node.teardown build slot).countP (Monitor.releasesContext slot.key) =
      slot.release.isSome.toNat := by
  have hnotices : ∀ notice gate, (node.noticeEvents build notice gate slot).countP
      (Monitor.releasesContext slot.key) = 0 := by
    intro notice gate
    unfold noticeEvents
    split <;> rfl
  have hoff : (if node.canDevice then [Event.release .canModule] else []).countP
      (Monitor.releasesContext slot.key) = 0 := by
    split <;> rfl
  have hquiesce : ((if slot.communicationBound then slot.quiesceCalls build.setup else []).map
      (Event.callback node.stack)).countP (Monitor.releasesContext slot.key) = 0 := by
    unfold Slot.quiesceCalls
    split
    · split <;> rfl
    · rfl
  unfold teardown
  rw [List.countP_append, List.countP_append, List.countP_append, List.countP_append, hnotices,
    hnotices, hoff, hquiesce, count_deinitCalls, Nat.zero_add]

theorem Startable.free (h : node.Startable build) :
    ∀ slot ∈ node.host.registered, slot.communicationBound = false := by
  intro slot hslot
  rw [h.fresh slot hslot]
  rfl

theorem Startable.timerOff (h : node.Startable build) :
    Lawful build node.trace node.host.identities false true { node := node } := by
  have hstop := h.lawful.stopTimer
  dsimp only at hstop
  rw [h.rtTimer] at hstop
  exact hstop

theorem Startable.runtimeDeinit_trace (h : node.Startable build) :
    (node.runtimeDeinit build).trace = node.trace ++ node.deinitEvents build := by
  have hworker : node.workerEvents = [] := by
    unfold workerEvents
    rw [h.workerThread, h.workerSem]
    rfl
  rw [runtimeDeinit_eq h.valid, hworker, List.append_nil]

/-- The final teardown of an application that is not started keeps only the caller-owned slots. -/
theorem Startable.runtimeDeinit {base : List Event} {slots : List (Key × Option Nat)}
    (h : node.Startable build) (hlawful : Lawful build base slots false true { node := node }) :
    Lawful build base (callerOwned slots) false true { node := node.runtimeDeinit build } ∧
      (node.runtimeDeinit build).Startable build := by
  have hafter := hlawful.runtimeDeinit (quiet_of_locked nofun) h.free
  have hpointers := Host.runtimeDeinit_pointers build.setup node.host
  have hopen : (node.host.runtimeDeinit build.setup).app.canOpenStack = false :=
    (congrArg App.canOpenStack hpointers :).trans h.canOpenStack
  refine ⟨hafter, hafter.startable (fun resource => ?_) ?_⟩
  · rw [runtimeDeinit_eq h.valid]
    cases resource with
    | stack generation =>
        unfold Initialising.holds Node.stack
        dsimp only
        rw [hopen]
        rfl
    | canModule => exact h.device
    | mainThread => exact (congrArg App.mainThread hpointers :).trans h.mainThread
    | rtThread => exact (congrArg App.rtThread hpointers :).trans h.rtThread
    | rtTimer => exact (congrArg App.rtTimer hpointers :).trans h.rtTimer
    | _ => rfl
  · rw [runtimeDeinit_eq h.valid]
    exact fresh_runtimeDeinit h.valid h.free

theorem count_deinitEvents (hvalid : node.host.Valid build.setup) {slot : Slot}
    (hslot : slot ∈ node.host.registered) :
    (node.deinitEvents build).countP (Monitor.releasesContext slot.key) =
      slot.release.isSome.toNat := by
  rw [count_filter]
  unfold deinitEvents
  rw [@filter_calls build node hvalid
    (fun other => other.deinitCalls build.setup other.deinitRequired) about_deinit slot hslot]
  exact count_deinitCalls ..

/-- Slots of the caller have no context to release. -/
theorem count_deinitEvents_caller (hcaller : ∀ slot ∈ node.host.registered, slot.release = none)
    (slot : Key) : (node.deinitEvents build).countP (Monitor.releasesContext slot) = 0 := by
  rw [List.countP_eq_zero]
  intro event hevent
  unfold deinitEvents at hevent
  obtain ⟨call, hcall, rfl⟩ := List.mem_map.mp hevent
  obtain ⟨other, hother, hcall⟩ := List.mem_flatMap.mp hcall
  unfold Slot.deinitCalls Slot.releaseCalls at hcall
  rw [hcaller other (List.mem_reverse.mp hother)] at hcall
  simp only [Option.isSome_none, Bool.false_eq_true, if_false, List.append_nil] at hcall
  split at hcall
  · rw [List.mem_singleton.mp hcall]
    nofun
  · cases hcall

/-- What a failed automatic initialisation has to leave of the contexts it attached. -/
structure LeftNoContext (attached after : Node) : Prop where
  ordered : ∃ monitor, Accepts Monitor.check {} (newEvents attached after) monitor
  contexts : ∀ slot ∈ attached.host.registered,
    (newEvents attached after).countP (Monitor.releasesContext slot.key) =
      slot.release.isSome.toNat
  slots : after.host.registered =
    attached.host.registered.filter fun slot => slot.release.isNone

theorem Startable.autoInit (h : node.Startable build) (htake : answers.mutexTake = .ok)
    (hret : (node.init build arguments answers).2 ≠ .ok) :
    ((node.init build arguments answers).1.runtimeDeinit build).Startable build ∧
      LeftNoContext node ((node.init build arguments answers).1.runtimeDeinit build) := by
  rcases h.init_cases hret with ⟨hsame, -⟩ | ⟨htime, hfailed, hcleanup⟩
  · rw [hsame]
    obtain ⟨hlawful, hstartable⟩ := h.runtimeDeinit h.timerOff
    refine ⟨hstartable, ?_, fun slot hslot => ?_, h.remaining hstartable hlawful.identities⟩
    · obtain ⟨events, monitor, htrace, haccepts, -⟩ := hlawful.accepted
      rw [newEvents_of_append htrace]
      exact ⟨monitor, haccepts⟩
    · rw [newEvents_of_append h.runtimeDeinit_trace]
      exact count_deinitEvents h.valid hslot
  · rw [hcleanup]
    have hattempt : Lawful build node.trace node.host.identities false false
        (Initialising.attempt build answers node).1 := by
      rcases @Startable.attempt build node answers h with ⟨hok, -⟩ | ⟨-, hlawful⟩
      · exact absurd hok hfailed
      · exact hlawful
    obtain ⟨hlawful, hholds⟩ := hattempt.cleanup htake
    have hclean := hlawful.startable hholds (fresh_cleanup hattempt htake)
    obtain ⟨hlawful', hstartable⟩ := hclean.runtimeDeinit hlawful
    have hremaining := h.remaining hclean hlawful.identities
    refine ⟨hstartable, ?_, fun slot hslot => ?_, h.remaining hstartable ?_⟩
    · obtain ⟨events, monitor, htrace, haccepts, -⟩ := hlawful'.accepted
      rw [newEvents_of_append htrace]
      exact ⟨monitor, haccepts⟩
    · obtain ⟨attempted, monitor, hattempted, haccepts, hsim⟩ := hattempt.accepted
      obtain ⟨cleaned, hcleaned, hteardown⟩ := cleanup_teardown hattempt htake
      obtain ⟨failing, hfailing, hidentity⟩ :=
        Host.exists_of_identities hattempt.identities.symm hslot
      have hkey : failing.key = slot.key := congrArg Prod.fst hidentity
      have hrelease : failing.release = slot.release := congrArg Prod.snd hidentity
      have htrace : (((Initialising.attempt build answers node).1.cleanup build
          answers).runtimeDeinit build).trace = node.trace ++ (attempted ++ (cleaned ++
            ((Initialising.attempt build answers node).1.cleanup build answers).deinitEvents
              build)) := by
        rw [hclean.runtimeDeinit_trace, hcleaned, hattempted]
        simp only [List.append_assoc]
      have hfirst : attempted.countP (Monitor.releasesContext slot.key) = 0 := by
        rw [Monitor.count_releasesContext haccepts, ← hkey, hsim.released failing hfailing]
        rfl
      have hsecond : cleaned.countP (Monitor.releasesContext slot.key) =
          slot.release.isSome.toNat := by
        rw [count_filter, ← hkey, hteardown failing hfailing, count_teardown, hrelease]
      have hthird := @count_deinitEvents_caller build
        ((Initialising.attempt build answers node).1.cleanup build answers) (fun other hother => by
          rw [hremaining] at hother
          exact Option.isNone_iff_eq_none.mp (List.mem_filter.mp hother).2) slot.key
      rw [newEvents_of_append htrace, List.countP_append, List.countP_append, hfirst, hsecond,
        hthird]
      omega
    · refine hlawful'.identities.trans ?_
      unfold callerOwned
      rw [List.filter_filter]
      simp only [Bool.and_self]

end

end Node

/-! ## Registrations leave the pointers alone -/

namespace Host

variable {setup : Setup}

def pointers (host : Host) : Bool × Bool × Bool × Bool :=
  (host.app.mainThread, host.app.rtThread, host.app.rtTimer, host.app.canOpenStack)

theorem started_of_pointers {host other : Host} (h : host.pointers = other.pointers) :
    host.started = other.started := by
  unfold pointers at h
  injection h with hmain h
  injection h with hrt h
  injection h with htimer hstack
  unfold started
  rw [hmain, hrt, htimer, hstack]

theorem registerEx_pointers (host : Host) (ops context release : Option Nat) :
    (host.registerEx setup ops context release).1.pointers = host.pointers := by
  unfold registerEx
  repeat' split
  all_goals rfl

theorem factoryRegister_pointers (host : Host) (factory : Option Factory) :
    (host.factoryRegister setup factory).1.pointers = host.pointers := by
  unfold pointers
  rw [(factoryRegister_kept setup host factory).1]

theorem act_pointers (host : Host) (action : AttachAction) :
    (act setup host action).pointers = host.pointers := by
  cases action with
  | registerEx ops context release => exact registerEx_pointers ..
  | factoryRegister factory => exact factoryRegister_pointers ..

theorem rollbackLast_pointers (host : Host) : host.rollbackLast.pointers = host.pointers := by
  unfold rollbackLast pointers setSlot
  dsimp only
  rw [emitIf_app]

theorem rollbackAutoSlots_pointers (host : Host) (checkpoint : Nat) :
    (host.rollbackAutoSlots checkpoint).pointers = host.pointers :=
  @run_invariant _ _ _ (fun after : Host => after.pointers = host.pointers)
    (fun after _ h => (rollbackLast_pointers after).trans h) host rfl _

theorem attachFactory_pointers (answers : Nat → Attach) (checkpoint : Nat) (host : Host)
    (factoryIndex : Nat) :
    (attachFactory setup answers checkpoint host factoryIndex).1.pointers = host.pointers := by
  have hacts : ∀ start : Host, start.pointers = host.pointers → ∀ actions,
      (run (act setup) start actions).pointers = host.pointers :=
    fun start hstart actions => @run_invariant _ _ _
      (fun after : Host => after.pointers = host.pointers)
      (fun after action h => (act_pointers after action).trans h) start hstart actions
  have hback : ∀ start : Host, start.pointers = host.pointers → ∀ actions,
      ((run (act setup) start actions).rollbackAutoSlots checkpoint).pointers = host.pointers :=
    fun start hstart actions => (rollbackAutoSlots_pointers ..).trans (hacts start hstart actions)
  unfold attachFactory
  dsimp only
  split
  · exact hback (host.emit _) rfl _
  · split
    · exact hback (host.emit _) rfl _
    · split
      · exact hback (host.emit _) rfl _
      · exact hacts (host.emit _) rfl _

theorem autoAttachAll_pointers (answers : Nat → Attach) (host : Host) :
    (host.autoAttachAll setup answers).1.pointers = host.pointers := by
  have hloop : ∀ start : Host, start.pointers = host.pointers →
      (runWhile .ok (attachFactory setup answers host.app.count) start
        (List.range host.registry.count)).1.pointers = host.pointers :=
    fun start hstart => @runWhile_invariant _ _ _ _ RtErr.ok
      (attachFactory setup answers host.app.count) (fun after => after.pointers = host.pointers)
      _ (fun after i _ h => (attachFactory_pointers answers _ after i).trans h) start hstart
  have hbegun := hloop
    { host with registry := { host.registry with autoAttachApp := true } } rfl
  unfold autoAttachAll
  split
  · rfl
  · split
    · rfl
    · split
      · rfl
      · split
        · rfl
        · dsimp only
          split
          · exact hbegun
          · exact hbegun

end Host

/-! ## Runs -/

namespace Node

/-- What the application does before it is started. -/
inductive Operation where
  | factoryRegister (factory : Option Factory)
  | register (ops context : Option Nat)
  | registerEx (ops context release : Option Nat)
  | init (arguments : Arguments) (answers : InitAnswers)
  | autoInit (attach : Nat → Host.Attach) (arguments : Arguments) (answers : InitAnswers)
      (gateway : RtErr)

def perform (build : Build) (node : Node) : Operation → Node × RtErr
  | .factoryRegister factory => node.registry (·.factoryRegister build.setup factory)
  | .register ops context => node.registry (·.register build.setup ops context)
  | .registerEx ops context release => node.registry (·.registerEx build.setup ops context release)
  | .init arguments answers => node.init build arguments answers
  | .autoInit attach arguments answers gateway =>
      node.autoInit build attach arguments answers gateway

def step (build : Build) (node : Node) (operation : Operation) : Node :=
  (node.perform build operation).1

/-- The take of the lifecycle mutex in the cleanup succeeds. -/
def Operation.TakesMutex : Operation → Prop
  | .init _ answers => answers.mutexTake = .ok
  | .autoInit _ _ answers _ => answers.mutexTake = .ok
  | _ => True

/-- What a failed initialisation owes, and what an automatic one owes beside it. -/
def Law (build : Build) (node : Node) : Operation → Prop
  | .init arguments answers =>
      node.host.started = false → arguments.accepted build = true →
        (node.init build arguments answers).2 ≠ .ok →
          LeftNothing build answers node (node.init build arguments answers).1
  | .autoInit attach arguments answers gateway =>
      let attached := node.registry (·.autoAttachAll build.setup attach)
      attached.2 = .ok → (attached.1.init build arguments answers).2 ≠ .ok →
        (arguments.accepted build = true →
          LeftNothing build answers attached.1 (attached.1.init build arguments answers).1) ∧
        LeftNoContext attached.1 (node.autoInit build attach arguments answers gateway).1
  | _ => True

/-- An application that was not started yet, or one that was. -/
def Ready (build : Build) (node : Node) : Prop := node.Startable build ∨ node.host.started = true

section

variable {build : Build} {node : Node}

theorem Startable.registry (h : node.Startable build) {operation : Host → Host × RtErr}
    (hvalid : (operation node.host).1.Valid build.setup)
    (hfresh : ∀ slot ∈ (operation node.host).1.registered, slot.IsFresh)
    (hpointers : (operation node.host).1.pointers = node.host.pointers) :
    (node.registry operation).1.Startable build where
  valid := hvalid
  fresh := hfresh
  mainThread := (congrArg Prod.fst hpointers :).trans h.mainThread
  rtThread := (congrArg (fun p => p.2.1) hpointers :).trans h.rtThread
  rtTimer := (congrArg (fun p => p.2.2.1) hpointers :).trans h.rtTimer
  canOpenStack := (congrArg (fun p => p.2.2.2) hpointers :).trans h.canOpenStack
  workerSem := h.workerSem
  workerThread := h.workerThread
  mainline := h.mainline
  device := h.device

theorem Ready.registry (h : node.Ready build) {operation : Host → Host × RtErr}
    (hkept : node.Startable build → (operation node.host).1.Valid build.setup ∧
      ∀ slot ∈ (operation node.host).1.registered, slot.IsFresh)
    (hpointers : (operation node.host).1.pointers = node.host.pointers) :
    (node.registry operation).1.Ready build := by
  rcases h with hstartable | hstarted
  · obtain ⟨hvalid, hfresh⟩ := hkept hstartable
    exact Or.inl (hstartable.registry hvalid hfresh hpointers)
  · exact Or.inr ((Host.started_of_pointers hpointers).trans hstarted)

theorem Ready.registerEx (h : node.Ready build) (ops context release : Option Nat) :
    (node.registry (·.registerEx build.setup ops context release)).1.Ready build := by
  refine h.registry (fun hstartable => ?_) (Host.registerEx_pointers ..)
  rcases Host.registerEx_cases hstartable.valid ops context release with
    ⟨hsame, -⟩ | ⟨-, -, hregistered, hvalid, -⟩
  · rw [hsame]
    exact ⟨hstartable.valid, hstartable.fresh⟩
  · refine ⟨hvalid, fun slot hslot => ?_⟩
    rw [hregistered] at hslot
    rcases List.mem_append.mp hslot with hold | hnew
    · exact hstartable.fresh slot hold
    · rw [List.mem_singleton.mp hnew]
      rfl

theorem Ready.autoAttachAll (h : node.Ready build) (attach : Nat → Host.Attach) :
    (node.registry (·.autoAttachAll build.setup attach)).1.Ready build := by
  refine h.registry (fun hstartable => ?_) (Host.autoAttachAll_pointers ..)
  have hresult := Host.autoAttachAll_result attach hstartable.valid
  generalize node.host.autoAttachAll build.setup attach = result at hresult
  cases hresult with
  | attached after factories added hvalid hslots hadded hlog hstack =>
      refine ⟨hvalid, fun slot hslot => ?_⟩
      dsimp only at hslot
      rw [hslots] at hslot
      rcases List.mem_append.mp hslot with hold | hnew
      · exact hstartable.fresh slot hold
      · obtain ⟨ops, context, release, -, rfl⟩ := hadded slot hnew
        rfl
  | refused after ret factories added hret hvalid hslots hadded hlog hstack =>
      refine ⟨hvalid, fun slot hslot => ?_⟩
      dsimp only at hslot
      rw [hslots] at hslot
      exact hstartable.fresh slot hslot

theorem init_started {arguments : Arguments} {answers : InitAnswers}
    (h : node.host.started = true) : node.init build arguments answers = (node, .busy) := by
  unfold Node.init
  rw [if_pos h]

theorem Startable.init_ok {arguments : Arguments} {answers : InitAnswers}
    (h : node.Startable build) (hret : (node.init build arguments answers).2 = .ok) :
    (node.init build arguments answers).1.host.started = true := by
  unfold Node.init at hret ⊢
  rw [h.started] at hret ⊢
  simp only [Bool.false_eq_true, if_false] at hret ⊢
  split at hret
  · cases hret
  case isFalse haccepted =>
      rw [if_neg haccepted]
      split at hret
      case isTrue htime => exact absurd hret htime
      case isFalse htime =>
          rw [if_neg htime]
          split at hret
          case isTrue hok =>
              rw [if_pos hok]
              rcases @Startable.attempt build node answers h with ⟨-, hstarted⟩ | ⟨hfailed, -⟩
              · exact hstarted
              · exact absurd hok hfailed
          case isFalse hfailed => exact absurd hret hfailed

theorem Ready.init (h : node.Ready build) (arguments : Arguments) {answers : InitAnswers}
    (htake : answers.mutexTake = .ok) : (node.init build arguments answers).1.Ready build := by
  rcases h with hstartable | hstarted
  · by_cases hret : (node.init build arguments answers).2 = .ok
    · exact Or.inr (hstartable.init_ok hret)
    · rcases hstartable.init_cases hret with ⟨hsame, -⟩ | ⟨htime, hfailed, hcleanup⟩
      · rw [hsame]
        exact Or.inl hstartable
      · rw [hcleanup]
        exact Or.inl (hstartable.cleanup htime htake hfailed).1
  · rw [init_started hstarted]
    exact Or.inr hstarted

/-- An automatic attach succeeds only before the application is started. -/
theorem Ready.attached (h : node.Ready build) (attach : Nat → Host.Attach)
    (hret : (node.registry (·.autoAttachAll build.setup attach)).2 = .ok) :
    (node.registry (·.autoAttachAll build.setup attach)).1.Startable build := by
  have hidle : node.host.started = false := by
    by_contra hstarted
    change (node.host.autoAttachAll build.setup attach).2 = .ok at hret
    unfold Host.autoAttachAll at hret
    rw [eq_true_of_ne_false hstarted] at hret
    split at hret
    · cases hret
    · cases hret
  rcases h.autoAttachAll attach with hstartable | hstarted
  · exact hstartable
  · have hpointers := @Host.autoAttachAll_pointers build.setup attach node.host
    rw [show (node.registry (·.autoAttachAll build.setup attach)).1.host.started =
      node.host.started from Host.started_of_pointers hpointers, hidle] at hstarted
    cases hstarted

theorem Ready.step (h : node.Ready build) {operation : Operation} (htake : operation.TakesMutex) :
    (node.step build operation).Ready build := by
  cases operation with
  | factoryRegister factory =>
      obtain ⟨happ, -, -⟩ := Host.factoryRegister_kept build.setup node.host factory
      refine h.registry (fun hstartable => ?_) (Host.factoryRegister_pointers ..)
      refine ⟨hstartable.valid.of_slots (congrArg App.slots happ) (congrArg App.count happ), ?_⟩
      unfold Host.registered
      rw [happ]
      exact hstartable.fresh
  | register ops context => exact h.registerEx ops context none
  | registerEx ops context release => exact h.registerEx ops context release
  | init arguments answers => exact h.init arguments htake
  | autoInit attach arguments answers gateway =>
      have hattached := h.autoAttachAll attach
      have hstartable := h.attached attach
      unfold Node.step perform Node.autoInit
      dsimp only
      generalize node.registry (·.autoAttachAll build.setup attach) = attached
        at hattached hstartable ⊢
      split
      · exact hattached
      case isFalse hok =>
          split
          case isTrue hfailed =>
            exact Or.inl ((hstartable (not_not.mp hok)).autoInit htake hfailed).1
          case isFalse => exact hattached.init arguments htake

theorem Ready.law (h : node.Ready build) {operation : Operation} (htake : operation.TakesMutex) :
    node.Law build operation := by
  cases operation with
  | init arguments answers =>
      intro hidle haccepted hret
      rcases h with hstartable | hstarted
      · exact (hstartable.init haccepted htake hret).2
      · exact absurd (hidle.symm.trans hstarted) nofun
  | autoInit attach arguments answers gateway =>
      intro hok hret
      have hstartable := h.attached attach hok
      have hauto : (node.autoInit build attach arguments answers gateway).1 =
          ((node.registry (·.autoAttachAll build.setup attach)).1.init build arguments
            answers).1.runtimeDeinit build := by
        unfold Node.autoInit
        dsimp only
        rw [if_neg (not_not_intro hok), if_pos hret]
      rw [hauto]
      exact ⟨fun haccepted => (hstartable.init haccepted htake hret).2,
        (hstartable.autoInit htake hret).2⟩
  | _ => trivial

end

theorem start_ready (build : Build) : ({} : Node).Ready build :=
  Or.inl ⟨⟨Nat.zero_le _, fun _ _ => rfl, fun _ hslot => absurd hslot List.not_mem_nil,
    List.nodup_nil⟩, fun _ hslot => absurd hslot List.not_mem_nil, rfl, rfl, rfl, rfl, rfl, rfl,
    rfl, rfl⟩

/-- Every failed initialisation of a run leaves nothing behind. -/
theorem failedInit_of_run (build : Build) (operations : List Operation)
    (htakes : ∀ operation ∈ operations, operation.TakesMutex) :
    EveryStep (Node.step build) (Law build) {} operations :=
  everyStep_of_invariant (fun _ _ hready htake => hready.step htake)
    (fun _ _ hready htake => hready.law htake) (start_ready build)
    ((everyStep_inputs _ _).mpr htakes)

/-- All tables set every callback. -/
def fullBuild : Build where
  setup := ⟨4, fun _ _ => true⟩
  notifies := fun _ _ => true
  sharedWorker := true
  workerBelowRt := true
  globalTimerNext := true
  lssSlave := false

/-- A caller-owned slot and one of a factory; the timer does not start, and then it does. -/
def retriedStart : List Operation :=
  [.register (some 1) (some 10), .factoryRegister (some ⟨100, some "cia402", 20, true⟩),
    .autoInit (fun _ => ⟨[.registerEx (some 2) (some 20) (some 7)], .ok⟩)
      ⟨some "can1", 5, 500⟩ { timerStart := .error } .ok,
    .init ⟨some "can1", 5, 500⟩ {}]

theorem failedInit_retriedStart :
    EveryStep (Node.step fullBuild) (Law fullBuild) {} retriedStart ∧
      (run (Node.step fullBuild) {} retriedStart).host.registered.map Slot.key =
        [⟨some 1, some 10⟩] ∧
      (run (Node.step fullBuild) {} retriedStart).host.started = true :=
  ⟨failedInit_of_run fullBuild retriedStart (by
      unfold retriedStart
      simp only [List.forall_mem_cons, List.not_mem_nil, false_implies, implies_true, and_true]
      exact ⟨trivial, trivial, rfl, rfl⟩),
    by decide +kernel, by decide +kernel⟩

end Node

end CanopenRtt.Lifecycle
