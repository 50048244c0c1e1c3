import CanopenRtt.Lifecycle.StartupStages
import Mathlib.Data.List.Nodup
/-!
# The cleanup of a failed initialisation

The timer is off, and whatever thread still runs waits for the lifecycle mutex. Each step of the
cleanup block keeps the node lawful, and at its end nothing is held.
-/

namespace CanopenRtt.Lifecycle

open CanopenRtt.Support

section

variable {build : Build} {base added : List Event} {slots : List (Key × Option Nat)}
  {locked : Bool} {state after : Initialising} {monitor : Monitor} {resource : Resource}

/-- The two threads that may run while the cleanup does. -/
def workers : List Resource := [.rtThread, .sharedWorkerThread]

/-- A thread that may run is kept out by the mutex. -/
def Quiet (locked : Bool) (state : Initialising) : Prop :=
  ∀ party ∈ workers, state.holds party = true → state.mutexInited = true → locked = true

theorem Sim.lockedOut (h : Sim locked true state monitor) (hquiet : Quiet locked state)
    {party : Resource} (hparty : party ∈ workers) (hrunning : monitor.running party = true) :
    locked = true := by
  refine hquiet party hparty (h.running party hrunning) (h.behindMutex ?_)
  simp only [workers, List.mem_cons, List.not_mem_nil, or_false] at hparty
  rcases hparty with rfl | rfl
  · exact Or.inl hrunning
  · exact Or.inr hrunning

theorem Sim.quiet (h : Sim locked true state monitor) (hquiet : Quiet locked state)
    (hwaits : ∀ party ∈ workers, state.holds party = true → party.waitsOn resource = false) :
    monitor.idle resource = true := by
  refine h.idle fun party hparty hrunning => ?_
  rcases List.mem_cons.mp hparty with rfl | hworker
  · exact absurd ((h.timerOff rfl).symm.trans hrunning) nofun
  · exact ⟨hwaits party hworker (h.running party hrunning),
      Or.inl (h.lockedOut hquiet hworker hrunning)⟩

theorem Sim.contextsIdle (h : Sim locked true state monitor) (hquiet : Quiet locked state) :
    monitor.contextsIdle = true := by
  have hlocked : (monitor.locked || !monitor.running .rtThread &&
      !monitor.running .sharedWorkerThread) = true := by
    rw [h.locked]
    cases hrt : monitor.running .rtThread with
    | true =>
        rw [h.lockedOut hquiet (by decide) hrt]
        rfl
    | false =>
        cases hworker : monitor.running .sharedWorkerThread with
        | true =>
            rw [h.lockedOut hquiet (by decide) hworker]
            rfl
        | false => cases locked <;> rfl
  unfold Monitor.contextsIdle
  rw [h.timerOff rfl, h.main, hlocked]
  rfl

/-- A resource is released if its flag says that it is held. -/
theorem Lawful.giveBack (h : Lawful build base slots locked true state)
    (hquiet : Quiet locked state)
    (resource : Resource)
    (hwaits : ∀ party ∈ workers, state.holds party = true → party.waitsOn resource = false)
    (hstack : resource.isStack = true → state.node.canDevice = false)
    (htrace : after.node.trace =
      state.node.trace ++ if state.holds resource then [.release resource] else [])
    (hholds : after.holds = Function.update state.holds resource false)
    (hslots : after.node.host.registered = state.node.host.registered)
    (hcoherent : after.Coherent build) : Lawful build base slots locked true after := by
  cases hheld : state.holds resource with
  | true =>
      rw [hheld, if_pos rfl] at htrace
      exact h.release hheld (fun _ hsim => hsim.quiet hquiet hwaits) hstack htrace hholds hslots
        hcoherent
  | false =>
      rw [hheld, if_neg Bool.false_ne_true, List.append_nil] at htrace
      rw [← hheld, Function.update_eq_self] at hholds
      exact h.same htrace hholds hslots hcoherent

/-! ## The extensions -/

theorem Lawful.canDisable (h : Lawful build base slots locked true state)
    (hquiet : Quiet locked state) :
    Lawful build base slots locked true { state with node := state.node.canDisable } := by
  refine h.giveBack hquiet .canModule ?_ nofun ?_ ?_ ?_ ?_
  · intro party hparty _
    simp only [workers, List.mem_cons, List.not_mem_nil, or_false] at hparty
    rcases hparty with rfl | rfl <;> rfl
  · unfold Node.canDisable
    rw [Node.emitIf_eq]
    rfl
  · unfold Node.canDisable
    rw [Node.emitIf_eq]
    refine Function.eq_update_iff.mpr ⟨rfl, fun other hother => ?_⟩
    cases other <;> first | rfl | exact absurd rfl hother
  · unfold Node.canDisable
    rw [Node.emitIf_eq]
  · unfold Node.canDisable
    rw [Node.emitIf_eq]
    exact ⟨h.coherent.valid, h.coherent.mainline, h.coherent.worker, h.coherent.workerSlots, nofun⟩

/-- The thread of the worker ends before its semaphore does. -/
theorem Lawful.sharedWorkerDeinit (h : Lawful build base slots locked true state)
    (hquiet : Quiet locked state) :
    Lawful build base slots locked true { state with node := state.node.sharedWorkerDeinit } := by
  let threadless : Initialising :=
    { state with node :=
        { state.node with
          sharedWorkerThread := false
          trace := state.node.trace ++
            if state.node.sharedWorkerThread then [.release .sharedWorkerThread] else [] } }
  have hholds : threadless.holds = Function.update state.holds .sharedWorkerThread false := by
    refine Function.eq_update_iff.mpr ⟨rfl, fun other hother => ?_⟩
    cases other <;> first | rfl | exact absurd rfl hother
  have hthread : Lawful build base slots locked true threadless := by
    refine h.giveBack hquiet .sharedWorkerThread ?_ nofun rfl hholds rfl
      ⟨h.coherent.valid, h.coherent.mainline, nofun, h.coherent.workerSlots, h.coherent.device⟩
    intro party hparty _
    simp only [workers, List.mem_cons, List.not_mem_nil, or_false] at hparty
    rcases hparty with rfl | rfl <;> rfl
  have hquiet' : Quiet locked threadless := by
    intro party hparty hheld
    refine hquiet party hparty ?_
    rw [hholds] at hheld
    by_cases hsame : party = .sharedWorkerThread
    · rw [hsame, Function.update_self] at hheld
      cases hheld
    · rwa [Function.update_of_ne hsame] at hheld
  rw [Node.sharedWorkerDeinit_eq]
  refine hthread.giveBack hquiet' .sharedWorkerSem ?_ nofun (List.append_assoc ..).symm ?_ rfl
    ⟨h.coherent.valid, h.coherent.mainline, nofun, nofun, h.coherent.device⟩
  · intro party hparty hheld
    simp only [workers, List.mem_cons, List.not_mem_nil, or_false] at hparty
    rcases hparty with rfl | rfl
    · rfl
    · cases hheld
  · refine Function.eq_update_iff.mpr ⟨rfl, fun other hother => ?_⟩
    cases other <;> first | rfl | exact absurd rfl hother

/-! ## The final teardown of the slots -/

/-- The callbacks of the teardown are permitted, slot by slot. -/
theorem accepts_deinitCalls {setup : Setup} {stack : Option Nat} {visits : List Slot}
    (hnodup : (visits.map Slot.key).Nodup) (hidle : monitor.contextsIdle = true)
    (hreaches : ∀ slot ∈ visits, monitor.reaches stack slot.key = true) :
    ∃ next, Accepts Monitor.check monitor
      ((visits.flatMap fun slot => slot.deinitCalls setup slot.deinitRequired).map
        (Event.callback stack)) next ∧
      next.held = monitor.held ∧ next.running = monitor.running ∧ next.locked = monitor.locked ∧
      ∀ key, (∀ slot ∈ visits, slot.release.isSome = true → slot.key ≠ key) →
        next.released key = monitor.released key := by
  induction visits generalizing monitor with
  | nil => exact ⟨monitor, accepts_nil.mpr rfl, rfl, rfl, rfl, fun _ _ => rfl⟩
  | cons slot visits ih =>
      rw [List.map_cons, List.nodup_cons] at hnodup
      rw [List.forall_mem_cons] at hreaches
      -- The context of the slot is released last, and no later slot has its key.
      let between : Monitor := if slot.release.isSome then
        { monitor with released := Function.update monitor.released slot.key true } else monitor
      have hkept : between.held = monitor.held ∧ between.running = monitor.running ∧
          between.locked = monitor.locked := by
        dsimp only [between]
        split <;> exact ⟨rfl, rfl, rfl⟩
      have hother : ∀ key, (slot.release.isSome = true → slot.key ≠ key) →
          between.released key = monitor.released key := by
        intro key hkey
        dsimp only [between]
        split
        case isTrue hrelease => exact Function.update_of_ne (Ne.symm (hkey hrelease)) ..
        case isFalse => rfl
      have hslot : Accepts Monitor.check monitor
          ((slot.deinitCalls setup slot.deinitRequired).map (Event.callback stack)) between := by
        unfold Slot.deinitCalls Slot.releaseCalls
        rw [List.map_append]
        refine Accepts.append (m := monitor) (accepts_of_idle fun event hevent => ?_) ?_
        · split at hevent
          · obtain rfl := List.mem_singleton.mp hevent
            exact Monitor.permit_eq_some.mpr ⟨hreaches.1, rfl⟩
          · cases hevent
        · dsimp only [between]
          split
          · refine accepts_singleton.mpr (Monitor.permit_eq_some.mpr ⟨?_, rfl⟩)
            have hfree := hreaches.1
            unfold Monitor.reaches at hfree
            rw [Bool.and_eq_true] at hfree
            rw [hfree.1, hidle]
            rfl
          · exact accepts_nil.mpr rfl
      have hlater : ∀ later ∈ visits, between.reaches stack later.key = true := by
        intro later hlater
        have hne : slot.key ≠ later.key := fun hkey =>
          hnodup.1 (hkey ▸ List.mem_map_of_mem hlater)
        unfold Monitor.reaches
        rw [hother later.key fun _ => hne, hkept.1]
        exact hreaches.2 later hlater
      have hidle' : between.contextsIdle = true := by
        unfold Monitor.contextsIdle
        rw [hkept.2.1, hkept.2.2]
        exact hidle
      obtain ⟨next, haccepts, hheld, hrunning, hlocked, hreleased⟩ := ih hnodup.2 hidle' hlater
      refine ⟨next, ?_, hheld.trans hkept.1, hrunning.trans hkept.2.1, hlocked.trans hkept.2.2, ?_⟩
      · rw [List.flatMap_cons, List.map_append]
        exact hslot.append haccepts
      · intro key hkey
        rw [List.forall_mem_cons] at hkey
        rw [hreleased key hkey.2, hother key hkey.1]

/-- The pointers of the application outlive the teardown. -/
theorem Host.runtimeDeinit_pointers (setup : Setup) (host : Host) :
    { (host.runtimeDeinit setup).app with slots := fun _ => {}, count := 0 } =
      { host.app with slots := fun _ => {}, count := 0 } := by
  have hframe : (run (deinitSlot setup) host (List.range host.app.count).reverse).frame =
      host.frame :=
    @run_invariant _ _ _ (fun after : Host => after.frame = host.frame)
      (fun s i h => (deinitSlot_frame setup s i).trans h) host rfl _
  have happ := congrArg (fun frame => { frame.2 with count := 0 }) hframe
  exact happ

/-- The caller-owned slots. -/
def callerOwned (slots : List (Key × Option Nat)) : List (Key × Option Nat) :=
  slots.filter fun slot => slot.2.isNone

theorem identities_runtimeDeinit {setup : Setup} {host : Host} (hvalid : host.Valid setup)
    (hfree : ∀ slot ∈ host.registered, slot.communicationBound = false) :
    (host.runtimeDeinit setup).identities = callerOwned host.identities := by
  obtain ⟨hregistered, -⟩ := Observed.runtimeDeinit_leaves hvalid hfree
  unfold callerOwned Host.identities
  rw [hregistered, List.map_map, List.filter_map]
  refine List.map_congr_left fun slot hslot => ?_
  have hrelease : slot.release.isNone = true := (List.mem_filter.mp hslot).2
  rw [Option.isNone_iff_eq_none] at hrelease
  exact Prod.ext rfl hrelease.symm

theorem Lawful.runtimeDeinit (h : Lawful build base slots locked true state)
    (hquiet : Quiet locked state)
    (hfree : ∀ slot ∈ state.node.host.registered, slot.communicationBound = false) :
    Lawful build base (callerOwned slots) locked true
      { state with node := state.node.runtimeDeinit build } := by
  have hvalid := h.coherent.valid
  have hworker := h.sharedWorkerDeinit hquiet
  obtain ⟨hregistered, hvalid'⟩ := Observed.runtimeDeinit_leaves hvalid hfree
  have hpointers := Host.runtimeDeinit_pointers build.setup state.node.host
  have hopen : (state.node.host.runtimeDeinit build.setup).app.canOpenStack =
      state.node.host.app.canOpenStack := (congrArg App.canOpenStack hpointers :)
  have hquiet' : Quiet locked
      { state with node :=
          { state.node with
            sharedWorkerThread := false
            sharedWorkerSemInitialized := false
            trace := state.node.trace ++ state.node.workerEvents } } := by
    intro party hparty hheld
    simp only [workers, List.mem_cons, List.not_mem_nil, or_false] at hparty
    rcases hparty with rfl | rfl
    · exact hquiet .rtThread (by decide) hheld
    · cases hheld
  rw [Node.sharedWorkerDeinit_eq] at hworker
  rw [Node.runtimeDeinit_eq hvalid]
  have hholds : ({ state with node :=
      { state.node with
        host := state.node.host.runtimeDeinit build.setup
        sharedWorkerThread := false
        sharedWorkerSemInitialized := false
        trace := state.node.trace ++ state.node.workerEvents ++ state.node.deinitEvents build }
      } : Initialising).holds =
        ({ state with node :=
          { state.node with
            sharedWorkerThread := false
            sharedWorkerSemInitialized := false
            trace := state.node.trace ++ state.node.workerEvents } } : Initialising).holds := by
    funext resource
    cases resource with
    | stack generation =>
        unfold Initialising.holds Node.stack
        dsimp only
        rw [hopen]
    | mainThread => exact (congrArg App.mainThread hpointers :)
    | rtThread => exact (congrArg App.rtThread hpointers :)
    | rtTimer => exact (congrArg App.rtTimer hpointers :)
    | _ => rfl
  refine hworker.step rfl ⟨hvalid', h.coherent.mainline, nofun, nofun,
    fun hdevice => hopen.trans (h.coherent.device hdevice)⟩
    ((identities_runtimeDeinit hvalid hfree).trans (congrArg callerOwned h.identities))
    fun monitor hsim => ?_
  have hnodup : (state.node.host.registered.reverse.map Slot.key).Nodup := by
    rw [List.map_reverse]
    exact (List.reverse_perm _).nodup_iff.mpr hvalid.nodup
  obtain ⟨next, haccepts, hheld, hrunning, hlocked, hreleased⟩ :=
    @accepts_deinitCalls monitor build.setup state.node.stack state.node.host.registered.reverse
      hnodup (hsim.contextsIdle hquiet') fun slot hslot => hsim.reaches (List.mem_reverse.mp hslot)
  refine ⟨next, haccepts, ?_, hlocked.trans hsim.locked, ?_, ?_, ?_, ?_, ?_⟩
  · intro other
    rw [hheld, hsim.held, hholds]
  · intro party hparty
    rw [hholds]
    rw [hrunning] at hparty
    exact hsim.running party hparty
  · rw [hrunning]
    exact hsim.main
  · rw [hrunning]
    exact hsim.timerOff
  · rw [hrunning, hholds]
    exact hsim.behindMutex
  · intro slot hslot
    dsimp only at hslot
    rw [hregistered] at hslot
    obtain ⟨before, hbefore, rfl⟩ := List.mem_map.mp hslot
    obtain ⟨hmem, hnone⟩ := List.mem_filter.mp hbefore
    refine (hreleased before.key fun other hother hrelease hkey => ?_).trans
      (hsim.released before hmem)
    -- The keys are distinct, so a released context is no caller-owned one.
    have hsame : other = before :=
      List.inj_on_of_nodup_map hvalid.nodup (List.mem_reverse.mp hother) hmem hkey
    rw [hsame, Option.isSome_iff_ne_none] at hrelease
    exact hrelease (Option.isNone_iff_eq_none.mp hnone)

/-! ## The beginning -/

theorem Lawful.stopTimer (h : Lawful build base slots locked false state) :
    Lawful build base slots locked true
      { state with node :=
          state.node.emitIf state.node.host.app.rtTimer (.stop .rtTimer) } := by
  cases htimer : state.node.host.app.rtTimer with
  | false =>
      refine h.step (List.append_nil _).symm ⟨h.coherent.valid, h.coherent.mainline,
        h.coherent.worker, h.coherent.workerSlots, h.coherent.device⟩ h.identities
        fun monitor hsim => ⟨monitor, accepts_nil.mpr rfl, hsim.held, hsim.locked, hsim.running,
          hsim.main, fun _ => ?_, hsim.behindMutex, hsim.released⟩
      by_contra hrunning
      have hheld := hsim.running .rtTimer (eq_true_of_ne_false hrunning)
      exact absurd (htimer.symm.trans hheld) nofun
  | true =>
      refine h.step rfl (h.coherent.emit _) h.identities fun monitor hsim =>
        ⟨{ monitor with running := Function.update monitor.running .rtTimer false },
          accepts_singleton.mpr rfl, hsim.held, hsim.locked, fun party hparty => ?_, hsim.main,
          fun _ => rfl, hsim.behindMutex, hsim.released⟩
      refine hsim.running party ?_
      dsimp only at hparty
      by_cases hsame : party = .rtTimer
      · rw [hsame, Function.update_self] at hparty
        cases hparty
      · rwa [Function.update_of_ne hsame] at hparty

theorem Lawful.lock (h : Lawful build base slots false true state) (taken : Bool)
    (hmutex : taken = true → state.mutexInited = true) :
    Lawful build base slots taken true { state with node := state.node.emitIf taken .lock } := by
  cases taken with
  | false => exact h
  | true =>
      refine h.step rfl (h.coherent.emit _) h.identities fun monitor hsim =>
        ⟨{ monitor with locked := true },
          accepts_singleton.mpr (Monitor.permit_eq_some.mpr ⟨?_, rfl⟩), hsim.held, rfl,
          hsim.running, hsim.main, hsim.timerOff, hsim.behindMutex, hsim.released⟩
      rw [hsim.held, hsim.locked, Initialising.holds, hmutex rfl]
      rfl

theorem Lawful.unlock (h : Lawful build base slots locked true state) :
    Lawful build base slots false true { state with node := state.node.emitIf locked .unlock } := by
  cases locked with
  | false => exact h
  | true =>
      exact h.step rfl (h.coherent.emit _) h.identities fun monitor hsim =>
        ⟨{ monitor with locked := false },
          accepts_singleton.mpr (Monitor.permit_eq_some.mpr ⟨hsim.locked, rfl⟩), hsim.held, rfl,
          hsim.running, hsim.main, hsim.timerOff, hsim.behindMutex, hsim.released⟩

variable {answers : InitAnswers}

theorem locked_of_taken (htake : answers.mutexTake = .ok) :
    state.locked answers = state.mutexInited := by
  unfold Initialising.locked
  rw [decide_eq_true htake, Bool.and_true]

theorem Lawful.beginCleanup (h : Lawful build base slots false false state)
    (htake : answers.mutexTake = .ok) :
    Lawful build base slots state.mutexInited true
      { state with node := state.beginCleanup build answers } := by
  have hlock := h.stopTimer.resetWakeups.lock (state.locked answers) fun htaken =>
    (locked_of_taken htake).symm.trans htaken
  rw [locked_of_taken htake] at hlock
  unfold Initialising.beginCleanup
  dsimp only
  rw [locked_of_taken htake]
  exact hlock

/-! ## The steps of the cleanup block -/

theorem quiet_of_locked (h : state.mutexInited = true → locked = true) : Quiet locked state :=
  fun _ _ _ hmutex => h hmutex

theorem Lawful.deinitExtensions (h : Lawful build base slots locked true state)
    (hlocked : state.mutexInited = true → locked = true) :
    Lawful build base (callerOwned slots) locked true
      { state with node := Initialising.deinitExtensions build state.node } := by
  have hstop := h.communicationStop
  have hoff : Lawful build base slots locked true
      { state with node :=
          if (state.node.communicationStop build).host.app.canOpenStack then
            (state.node.communicationStop build).canDisable
          else state.node.communicationStop build } := by
    split
    · exact hstop.canDisable (quiet_of_locked hlocked)
    · exact hstop
  refine hoff.communicationQuiesced.runtimeDeinit (quiet_of_locked hlocked) ?_
  intro slot hslot
  dsimp only at hslot
  rw [Node.communicationQuiesced_eq, (Host.communicationQuiesced_spec ..).1] at hslot
  obtain ⟨before, -, rfl⟩ := List.mem_map.mp hslot
  rfl

theorem waits_workers {party : Resource}
    (hresource : resource ∈ [Resource.rtTimer, .rtThread, .mainThread]) (hparty : party ∈ workers) :
    party.waitsOn resource = false := by
  simp only [workers, List.mem_cons, List.not_mem_nil, or_false] at hresource hparty
  rcases hparty with rfl | rfl <;> rcases hresource with rfl | rfl | rfl <;> rfl

theorem Lawful.deleteTimer (h : Lawful build base slots locked true state)
    (hlocked : state.mutexInited = true → locked = true) :
    Lawful build base slots locked true
      { state with
        node := (state.node.emitIf state.node.host.app.rtTimer
          (.release .rtTimer)).setRtTimer false } := by
  refine h.giveBack (quiet_of_locked hlocked) .rtTimer
    (fun party hparty _ => waits_workers (by decide) hparty) nofun ?_ ?_ ?_ ?_
  all_goals rw [Node.emitIf_eq]
  · rfl
  · refine Function.eq_update_iff.mpr ⟨rfl, fun other hother => ?_⟩
    cases other <;> first | rfl | exact absurd rfl hother
  · rfl
  · exact ⟨h.coherent.valid.of_slots rfl rfl, h.coherent.mainline, h.coherent.worker,
      h.coherent.workerSlots, h.coherent.device⟩

theorem Lawful.deleteRtThread (h : Lawful build base slots locked true state)
    (hlocked : state.mutexInited = true → locked = true) :
    Lawful build base slots locked true
      { state with
        node := (state.node.emitIf state.node.host.app.rtThread
          (.release .rtThread)).setRtThread false } := by
  refine h.giveBack (quiet_of_locked hlocked) .rtThread
    (fun party hparty _ => waits_workers (by decide) hparty) nofun ?_ ?_ ?_ ?_
  all_goals rw [Node.emitIf_eq]
  · rfl
  · refine Function.eq_update_iff.mpr ⟨rfl, fun other hother => ?_⟩
    cases other <;> first | rfl | exact absurd rfl hother
  · rfl
  · exact ⟨h.coherent.valid.of_slots rfl rfl, h.coherent.mainline, h.coherent.worker,
      h.coherent.workerSlots, h.coherent.device⟩

theorem Lawful.deleteMainThread (h : Lawful build base slots locked true state)
    (hlocked : state.mutexInited = true → locked = true) :
    Lawful build base slots locked true
      { state with
        node := (state.node.emitIf state.node.host.app.mainThread
          (.release .mainThread)).setMainThread false } := by
  refine h.giveBack (quiet_of_locked hlocked) .mainThread
    (fun party hparty _ => waits_workers (by decide) hparty) nofun ?_ ?_ ?_ ?_
  all_goals rw [Node.emitIf_eq]
  · rfl
  · refine Function.eq_update_iff.mpr ⟨rfl, fun other hother => ?_⟩
    cases other <;> first | rfl | exact absurd rfl hother
  · rfl
  · exact ⟨h.coherent.valid.of_slots rfl rfl, h.coherent.mainline, h.coherent.worker,
      h.coherent.workerSlots, h.coherent.device⟩

theorem Lawful.deleteThreads (h : Lawful build base slots locked true state)
    (hlocked : state.mutexInited = true → locked = true) :
    Lawful build base slots locked true
      { state with node := Initialising.deleteThreads state.node } :=
  ((h.deleteTimer hlocked).deleteRtThread hlocked).deleteMainThread hlocked

theorem Lawful.deleteStack (h : Lawful build base slots locked true state)
    (hlocked : state.mutexInited = true → locked = true)
    (hopen : state.node.host.app.canOpenStack = true) (hdevice : state.node.canDevice = false) :
    Lawful build base slots locked true { state with node := state.node.deleteStack } := by
  have hstack : state.node.stack = some state.node.generation := by
    unfold Node.stack
    rw [hopen, if_pos rfl]
  refine h.giveBack (quiet_of_locked hlocked) (.stack state.node.generation) ?_ (fun _ => hdevice)
    ?_ ?_ rfl ⟨h.coherent.valid.of_slots rfl rfl, h.coherent.mainline, h.coherent.worker,
      h.coherent.workerSlots, fun hheld => absurd (hdevice.symm.trans hheld) nofun⟩
  · intro party hparty _
    simp only [workers, List.mem_cons, List.not_mem_nil, or_false] at hparty
    rcases hparty with rfl | rfl <;> rfl
  · rw [Initialising.holds, hstack, decide_eq_true rfl]
    rfl
  · refine Function.eq_update_iff.mpr ⟨rfl, fun other hother => ?_⟩
    cases other with
    | stack generation =>
        change false = decide (state.node.stack = some generation)
        rw [hstack, eq_comm, decide_eq_false_iff_not, Option.some.injEq]
        rintro rfl
        exact hother rfl
    | _ => rfl

theorem Lawful.deleteOwnedStack (h : Lawful build base slots locked true state)
    (hlocked : state.mutexInited = true → locked = true) (quiesced : Bool)
    (hquiesced : quiesced = true → state.node.canDevice = false) :
    Lawful build base slots locked true
      { state with node := Initialising.deleteOwnedStack quiesced state.node } := by
  unfold Initialising.deleteOwnedStack
  split
  case isTrue hopen =>
      cases quiesced with
      | true => exact h.deleteStack hlocked hopen (hquiesced rfl)
      | false =>
          have hoff := h.canDisable (quiet_of_locked hlocked)
          refine hoff.deleteStack hlocked ?_ rfl
          unfold Node.canDisable
          rw [Node.emitIf_eq]
          exact hopen
  case isFalse => exact h

theorem Lawful.mainlineDeinit (h : Lawful build base slots locked true state)
    (hlocked : state.mutexInited = true → locked = true) :
    Lawful build base slots locked true
      { state with
        node := if state.mainlineInited then Initialising.mainlineDeinit state.node else state.node
        mainlineInited := false } := by
  have hmainline := h.coherent.mainline
  cases hinited : state.mainlineInited with
  | false =>
      refine h.same rfl ?_ rfl ⟨h.coherent.valid, hinited.symm.trans hmainline, h.coherent.worker,
        h.coherent.workerSlots, h.coherent.device⟩
      funext other
      cases other <;> first | rfl | exact hinited.symm
  | true =>
      have hheld : state.holds .mainlineEvent = true := hinited
      rw [if_pos rfl]
      unfold Initialising.mainlineDeinit
      rw [← hmainline, hinited, if_pos rfl]
      refine h.giveBack (quiet_of_locked hlocked) .mainlineEvent ?_ nofun ?_ ?_ rfl
        ⟨h.coherent.valid, rfl, h.coherent.worker, h.coherent.workerSlots, h.coherent.device⟩
      · intro party hparty _
        simp only [workers, List.mem_cons, List.not_mem_nil, or_false] at hparty
        rcases hparty with rfl | rfl <;> rfl
      · rw [hheld]
        rfl
      · refine Function.eq_update_iff.mpr ⟨rfl, fun other hother => ?_⟩
        cases other <;> first | rfl | exact absurd rfl hother

/-! ## The end -/

/-- No thread is left that could wait for anything. -/
def Threadless (state : Initialising) : Prop :=
  state.node.host.app.rtThread = false ∧ state.node.sharedWorkerThread = false

theorem Threadless.emitIf (h : Threadless state) (condition : Bool) (event : Event) :
    Threadless { state with node := state.node.emitIf condition event } := by
  unfold Threadless
  rw [Node.emitIf_eq]
  exact h

theorem Threadless.holds (h : Threadless state) {party : Resource} (hparty : party ∈ workers) :
    state.holds party = false := by
  simp only [workers, List.mem_cons, List.not_mem_nil, or_false] at hparty
  rcases hparty with rfl | rfl
  · exact h.1
  · exact h.2

/-- The flag of a kernel object is cleared with its release. -/
theorem Lawful.releaseLocal (h : Lawful build base slots false true state)
    (hthreads : Threadless state) (resource : Resource) (hstack : resource.isStack = false)
    (hnode : after.node = state.node.emitIf (state.holds resource) (.release resource))
    (hholds : after.holds = Function.update state.holds resource false)
    (hmainline : after.mainlineInited = state.mainlineInited) :
    Lawful build base slots false true after := by
  have hquiet : ∀ party ∈ workers, state.holds party = true → party.waitsOn resource = false :=
    fun party hparty hheld => absurd ((hthreads.holds hparty).symm.trans hheld) nofun
  rw [Node.emitIf_eq] at hnode
  refine h.giveBack (fun party hparty hheld => ?_) resource hquiet
    (fun hisStack => absurd (hstack.symm.trans hisStack) nofun) (congrArg Node.trace hnode) hholds
    (congrArg (fun node => node.host.registered) hnode) ⟨?_, ?_, ?_, ?_, ?_⟩
  · exact absurd ((hthreads.holds hparty).symm.trans hheld) nofun
  · rw [hnode]
    exact h.coherent.valid
  · rw [hnode, hmainline]
    exact h.coherent.mainline
  · rw [hnode]
    exact h.coherent.worker
  · rw [hnode]
    exact h.coherent.workerSlots
  · rw [hnode]
    exact h.coherent.device

theorem Lawful.releaseLocals (h : Lawful build base slots false true state)
    (hthreads : Threadless state) :
    Lawful build base slots false true
      { state with
        node := ((state.node.emitIf state.mutexInited (.release .lifecycleMutex)).emitIf
          state.semInited (.release .rtSem)).emitIf state.timeInited (.release .timeSource)
        mutexInited := false
        semInited := false
        timeInited := false } := by
  have hmutex : Lawful build base slots false true
      { state with
        node := state.node.emitIf state.mutexInited (.release .lifecycleMutex)
        mutexInited := false } := by
    refine h.releaseLocal hthreads .lifecycleMutex rfl rfl ?_ rfl
    rw [Node.emitIf_eq]
    refine Function.eq_update_iff.mpr ⟨rfl, fun other hother => ?_⟩
    cases other <;> first | rfl | exact absurd rfl hother
  have hmutexThreads := hthreads.emitIf state.mutexInited (.release .lifecycleMutex)
  generalize state.node.emitIf state.mutexInited (.release .lifecycleMutex) = node
    at hmutex hmutexThreads ⊢
  have hsem : Lawful build base slots false true
      { state with
        node := node.emitIf state.semInited (.release .rtSem)
        mutexInited := false
        semInited := false } := by
    refine hmutex.releaseLocal hmutexThreads .rtSem rfl rfl ?_ rfl
    rw [Node.emitIf_eq]
    refine Function.eq_update_iff.mpr ⟨rfl, fun other hother => ?_⟩
    cases other <;> first | rfl | exact absurd rfl hother
  have hsemThreads := hmutexThreads.emitIf state.semInited (.release .rtSem)
  refine hsem.releaseLocal hsemThreads .timeSource rfl rfl ?_ rfl
  rw [Node.emitIf_eq]
  refine Function.eq_update_iff.mpr ⟨rfl, fun other hother => ?_⟩
  cases other <;> first | rfl | exact absurd rfl hother

/-- The cleanup behind the extensions. -/
def Initialising.finish (quiesced taken : Bool) (state : Initialising) : Node :=
  let node := deleteOwnedStack quiesced (deleteThreads state.node)
  let node := if state.mainlineInited then mainlineDeinit node else node
  let node := node.emitIf taken .unlock
  ((node.emitIf state.mutexInited (.release .lifecycleMutex)).emitIf
    state.semInited (.release .rtSem)).emitIf state.timeInited (.release .timeSource)

theorem deleteThreads_eq (node : Node) :
    Initialising.deleteThreads node =
      { node with
        host := { node.host with
          app := { node.host.app with rtTimer := false, rtThread := false, mainThread := false } }
        trace := node.trace ++ (if node.host.app.rtTimer then [.release .rtTimer] else []) ++
          (if node.host.app.rtThread then [.release .rtThread] else []) ++
          if node.host.app.mainThread then [.release .mainThread] else [] } := by
  unfold Initialising.deleteThreads
  simp only [Node.emitIf_eq]
  rfl

/-- The events of the deletion of a stack. -/
def stackEvents (quiesced : Bool) (node : Node) : List Event :=
  if node.host.app.canOpenStack then
    (if quiesced then [] else if node.canDevice then [.release .canModule] else []) ++
      [.release (.stack node.generation)]
  else []

theorem deleteOwnedStack_eq (quiesced : Bool) (node : Node) :
    ∃ canDevice canNormal, Initialising.deleteOwnedStack quiesced node =
      { node with
        host := { node.host with app := { node.host.app with canOpenStack := false } }
        canDevice := canDevice
        canNormal := canNormal
        trace := node.trace ++ stackEvents quiesced node } := by
  unfold Initialising.deleteOwnedStack stackEvents
  cases hopen : node.host.app.canOpenStack with
  | false =>
      refine ⟨node.canDevice, node.canNormal, ?_⟩
      rw [if_neg Bool.false_ne_true, if_neg Bool.false_ne_true, List.append_nil, ← hopen]
  | true =>
      rw [if_pos rfl, if_pos rfl]
      cases quiesced with
      | true => exact ⟨node.canDevice, node.canNormal, rfl⟩
      | false =>
          refine ⟨false, false, ?_⟩
          unfold Node.canDisable
          rw [Node.emitIf_eq]
          simp [Node.deleteStack, Node.emit, Node.setStack]

theorem mainlineDeinit_eq (node : Node) :
    Initialising.mainlineDeinit node =
      { node with
        mainlineInitialized := false
        trace := node.trace ++
          if node.mainlineInitialized then [.release .mainlineEvent] else [] } := by
  unfold Initialising.mainlineDeinit
  cases hmainline : node.mainlineInitialized with
  | false => rw [if_neg Bool.false_ne_true, if_neg Bool.false_ne_true, List.append_nil, ← hmainline]
  | true => rfl

/-- An event that calls no extension; the CAN module is released if it was there. -/
def Plain (canDevice : Bool) (event : Event) : Prop :=
  event = .unlock ∨ ∃ resource, event = .release resource ∧
    (resource = .canModule → canDevice = true)

theorem plain_if {canDevice condition : Bool} {event : Event} (hevent : Plain canDevice event) :
    ∀ other ∈ if condition then [event] else [], Plain canDevice other := by
  intro other hother
  split at hother
  · rwa [List.mem_singleton.mp hother]
  · cases hother

theorem plain_release {canDevice : Bool} (hresource : resource ≠ .canModule) :
    Plain canDevice (.release resource) :=
  Or.inr ⟨resource, rfl, fun heq => absurd heq hresource⟩

theorem plain_append {canDevice : Bool} {first second : List Event}
    (hfirst : ∀ event ∈ first, Plain canDevice event)
    (hsecond : ∀ event ∈ second, Plain canDevice event) :
    ∀ event ∈ first ++ second, Plain canDevice event := by
  intro event hevent
  exact (List.mem_append.mp hevent).elim (hfirst event) (hsecond event)

theorem plain_stackEvents (quiesced : Bool) (node : Node) :
    ∀ event ∈ stackEvents quiesced node, Plain node.canDevice event := by
  unfold stackEvents
  split
  · refine plain_append ?_ ?_
    · split
      · nofun
      · intro event hevent
        split at hevent
        case isTrue hdevice =>
            rw [List.mem_singleton.mp hevent]
            exact Or.inr ⟨.canModule, rfl, fun _ => hdevice⟩
        case isFalse => cases hevent
    · intro event hevent
      rw [List.mem_singleton.mp hevent]
      exact plain_release nofun
  · nofun

/-- What is left behind the extensions: nothing is there, and no extension was called. -/
theorem finish_eq (quiesced taken : Bool) (state : Initialising) :
    ∃ canDevice canNormal mainlineInitialized events, state.finish quiesced taken =
      { state.node with
        host := { state.node.host with
          app := { state.node.host.app with
            rtTimer := false, rtThread := false, mainThread := false, canOpenStack := false } }
        mainlineInitialized := mainlineInitialized
        canDevice := canDevice
        canNormal := canNormal
        trace := state.node.trace ++ events } ∧
      ∀ event ∈ events, Plain state.node.canDevice event := by
  obtain ⟨canDevice, canNormal, hstack⟩ :=
    deleteOwnedStack_eq quiesced (Initialising.deleteThreads state.node)
  have hplain := plain_stackEvents quiesced (Initialising.deleteThreads state.node)
  unfold Initialising.finish
  rw [hstack]
  clear hstack
  rw [deleteThreads_eq] at hplain ⊢
  generalize stackEvents quiesced _ = stackTrace at hplain ⊢
  have hlocals := @plain_append state.node.canDevice _ _
    (plain_if (plain_release nofun) : ∀ event ∈
      if state.mutexInited then [Event.release .lifecycleMutex] else [], _)
    (plain_append (plain_if (plain_release nofun) : ∀ event ∈
      if state.semInited then [Event.release .rtSem] else [], _)
      (plain_if (plain_release nofun) : ∀ event ∈
        if state.timeInited then [Event.release .timeSource] else [], _))
  cases state.mainlineInited with
  | false =>
      simp only [Node.emitIf_eq, Bool.false_eq_true, if_false, List.append_assoc]
      refine ⟨canDevice, canNormal, _, _, rfl, ?_⟩
      exact plain_append (plain_if (plain_release nofun)) (plain_append
        (plain_if (plain_release nofun)) (plain_append (plain_if (plain_release nofun))
          (plain_append hplain (plain_append (plain_if (Or.inl rfl)) hlocals))))
  | true =>
      simp only [mainlineDeinit_eq, Node.emitIf_eq, if_true, List.append_assoc]
      refine ⟨canDevice, canNormal, _, _, rfl, ?_⟩
      exact plain_append (plain_if (plain_release nofun)) (plain_append
        (plain_if (plain_release nofun)) (plain_append (plain_if (plain_release nofun))
          (plain_append hplain (plain_append (plain_if (plain_release nofun))
            (plain_append (plain_if (Or.inl rfl)) hlocals)))))

/-- Behind the extensions the node stays lawful to the end, where it holds nothing. -/
theorem Lawful.finish (h : Lawful build base slots locked true state)
    (hlocked : state.mutexInited = true → locked = true) (quiesced : Bool)
    (hquiesced : quiesced = true → state.node.canDevice = false)
    (hsem : state.node.sharedWorkerSemInitialized = false) :
    Lawful build base slots false true { node := state.finish quiesced locked } ∧
      ∀ resource, ({ node := state.finish quiesced locked } : Initialising).holds resource =
        false := by
  have hthread : state.node.sharedWorkerThread = false := by
    by_contra hthread
    exact absurd (hsem.symm.trans (h.coherent.worker (eq_true_of_ne_false hthread))) nofun
  have hstack := (h.deleteThreads hlocked).deleteOwnedStack hlocked quiesced fun hq => by
    dsimp only
    rw [deleteThreads_eq]
    exact hquiesced hq
  have hunlock := (hstack.mainlineDeinit hlocked).unlock
  have hthreads : Threadless
      { state with node :=
          Initialising.deleteOwnedStack quiesced (Initialising.deleteThreads state.node) } := by
    obtain ⟨canDevice, canNormal, heq⟩ :=
      deleteOwnedStack_eq quiesced (Initialising.deleteThreads state.node)
    unfold Threadless
    rw [heq, deleteThreads_eq]
    exact ⟨rfl, hthread⟩
  have hfinal : Lawful build base slots false true { node := state.finish quiesced locked } := by
    refine hunlock.releaseLocals (Threadless.emitIf ?_ _ _)
    unfold Threadless
    dsimp only
    rw [mainlineDeinit_eq]
    split <;> exact hthreads
  refine ⟨hfinal, fun resource => ?_⟩
  obtain ⟨canDevice, canNormal, mainlineInitialized, events, hnode, -⟩ :=
    finish_eq quiesced locked state
  have hdevice := hfinal.coherent.device
  rw [hnode] at hdevice ⊢
  cases resource with
  | canModule =>
      by_contra hheld
      exact absurd (hdevice (eq_true_of_ne_false hheld)) nofun
  | sharedWorkerSem => exact hsem
  | sharedWorkerThread => exact hthread
  | _ => rfl

theorem beginCleanup_eq (build : Build) (answers : InitAnswers) (state : Initialising) :
    state.beginCleanup build answers =
      { state.node with
        trace := state.node.trace ++
          (if state.node.host.app.rtTimer then [.stop .rtTimer] else []) ++
          state.node.wakeupEvents build ++ if state.locked answers then [.lock] else [] } := by
  unfold Initialising.beginCleanup
  simp only [Node.emitIf_eq, Node.resetWakeups_eq]
  rfl

theorem teardown_of_taken (htake : answers.mutexTake = .ok) :
    state.teardown answers = decide (state.node.host.app.count ≠ 0) := by
  unfold Initialising.teardown
  rw [locked_of_taken htake, Bool.not_or_self, Bool.and_true]

theorem cleanup_eq_finish (build : Build) (answers : InitAnswers) (state : Initialising) :
    state.cleanup build answers =
      ({ state with
        node := if state.teardown answers then
            Initialising.deinitExtensions build (state.beginCleanup build answers)
          else state.beginCleanup build answers } : Initialising).finish
        (state.teardown answers && (state.beginCleanup build answers).host.app.canOpenStack)
        (state.locked answers) := rfl

theorem valid_communicationQuiesced {setup : Setup} {host : Host} (h : host.Valid setup) :
    (host.communicationQuiesced setup).Valid setup := by
  obtain ⟨hregistered, htail, hframe⟩ := Host.communicationQuiesced_spec setup host
  refine h.of_keys (Host.count_of_frame hframe) ?_ htail
  rw [hregistered, List.map_map]
  rfl

/-- The teardown of the extensions: stop, CAN RX off, quiesce, worker, deinitialise. -/
theorem deinitExtensions_eq {node : Node} (hvalid : node.host.Valid build.setup)
    (hdevice : node.canDevice = true → node.host.app.canOpenStack = true) :
    ∃ canNormal, Initialising.deinitExtensions build node =
      { node with
        host := (node.host.communicationQuiesced build.setup).runtimeDeinit build.setup
        sharedWorkerThread := false
        sharedWorkerSemInitialized := false
        canDevice := false
        canNormal := canNormal
        trace := node.trace ++ node.stopEvents build ++
          (if node.canDevice then [.release .canModule] else []) ++ node.quiesceEvents build ++
          node.workerEvents ++ node.deinitEvents build } := by
  obtain ⟨hregistered, -, hframe⟩ := Host.communicationQuiesced_spec build.setup node.host
  have hoff : ∃ canNormal,
      (if (node.communicationStop build).host.app.canOpenStack then
        (node.communicationStop build).canDisable else node.communicationStop build) =
      { node with
        canDevice := false
        canNormal := canNormal
        trace := node.trace ++ node.stopEvents build ++
          if node.canDevice then [.release .canModule] else [] } := by
    rw [Node.communicationStop_eq]
    dsimp only
    split
    · refine ⟨false, ?_⟩
      unfold Node.canDisable
      rw [Node.emitIf_eq]
    case isFalse hclosed =>
        have hnone : node.canDevice = false := by
          by_contra hheld
          exact hclosed (hdevice (eq_true_of_ne_false hheld))
        refine ⟨node.canNormal, ?_⟩
        rw [hnone, if_neg Bool.false_ne_true, List.append_nil, ← hnone]
  obtain ⟨canNormal, hoff⟩ := hoff
  refine ⟨canNormal, ?_⟩
  unfold Initialising.deinitExtensions
  dsimp only
  rw [hoff, Node.communicationQuiesced_eq,
    Node.runtimeDeinit_eq (valid_communicationQuiesced hvalid)]
  -- A slot is deinitialised in the same way whether it is bound or not.
  have hcalls : ((node.host.communicationQuiesced build.setup).registered.reverse.flatMap
      fun slot => slot.deinitCalls build.setup slot.deinitRequired) =
        node.host.registered.reverse.flatMap
          fun slot => slot.deinitCalls build.setup slot.deinitRequired := by
    rw [hregistered, ← List.map_reverse, List.flatMap_map]
    rfl
  unfold Node.deinitEvents Node.stack
  dsimp only
  rw [hcalls, Host.canOpenStack_of_frame hframe]
  rfl

/-- The cleanup keeps the node lawful, and at its end nothing is held. -/
theorem Lawful.cleanup (h : Lawful build base slots false false state)
    (htake : answers.mutexTake = .ok) :
    Lawful build base (callerOwned slots) false true { node := state.cleanup build answers } ∧
      ∀ resource, ({ node := state.cleanup build answers } : Initialising).holds resource =
        false := by
  have hbegin := h.beginCleanup htake
  rw [cleanup_eq_finish, teardown_of_taken htake, locked_of_taken htake]
  by_cases hcount : state.node.host.app.count = 0
  · have hregistered : state.node.host.registered = [] := by
      unfold Host.registered
      rw [hcount]
      rfl
    have hslots : callerOwned slots = slots := by
      rw [← h.identities, Host.identities, hregistered]
      rfl
    have hsem : (state.beginCleanup build answers).sharedWorkerSemInitialized = false := by
      rw [beginCleanup_eq]
      by_contra hsem
      exact h.coherent.workerSlots (eq_true_of_ne_false hsem) hcount
    rw [decide_eq_false (not_not_intro hcount), hslots]
    exact hbegin.finish (fun hmutex => hmutex) false nofun hsem
  · have hvalid : (state.beginCleanup build answers).host.Valid build.setup :=
      hbegin.coherent.valid
    obtain ⟨canNormal, hdeinit⟩ := deinitExtensions_eq hvalid hbegin.coherent.device
    have hteardown := hbegin.deinitExtensions fun hmutex => hmutex
    rw [decide_eq_true hcount, if_pos rfl]
    refine hteardown.finish (fun hmutex => hmutex) _ (fun _ => ?_) ?_
    · dsimp only
      rw [hdeinit]
    · dsimp only
      rw [hdeinit]

end

end CanopenRtt.Lifecycle
