import CanopenRtt.Cia402.Device.Events
import CanopenRtt.Cia402.DeviceRttCallbacks
import CanopenRtt.Lifecycle.GenerationWord
/-!
# The Device adapter over generations

The dictionary and the Emergency object around the adapter, over every order of callbacks that the
lifecycle permits, with passes and SYNC calls at any time.
-/

namespace CanopenRtt.Cia402.Device

open CanopenRtt.Support CanopenRtt.Lifecycle

/-! ## The system -/

/-- Somebody else's work on an entry: it keeps the object, and the extensions of the axes. -/
structure ODEntry.Foreign (before after : ODEntry) : Prop where
  object : after = { before with extension := after.extension }
  ours : ∀ owner : ExtensionOwner, owner.Ours →
    (after.extension = some owner ↔ before.extension = some owner)

/-- The adapter between the lifecycle, the dictionary and the Emergency object of the current
stack. `disabled` says that the CAN module of this stack has been disabled. -/
structure DeviceSystem where
  runtime : DeviceRtt
  od : ObjectDictionary
  phase : Phase := {}
  emcy : List EmcyCall := []
  disabled : Bool := false

inductive DeviceInput where
  | create (generation : Nat)
  | delete (generation : Nat)
  | canOn
  | canOff
  | foreign (od : ObjectDictionary)
  | bind (generation : Nat) (answers : BindAnswers)
  | ready (generation : Nat)
  | stop (generation : Nat)
  | quiesce (generation : Nat)
  | pass (inputs : LogicalDevice → PassInputs) (canNormal : Bool)
  | sync (inputs : LogicalDevice → SyncInputs)
  | deinit

namespace DeviceSystem

/-- The move of the lifecycle that an input is; a bind is what the adapter answers. -/
def move (system : DeviceSystem) : DeviceInput → Option Move
  | .create generation => some (.create generation)
  | .delete generation => some (.delete generation)
  | .canOn => some .canOn
  | .canOff => some .canOff
  | .bind generation answers =>
      let ret := (system.runtime.onCommunicationBind answers system.od).2.2
      some (if ret = .ok then .bind generation else .bindFails generation ret)
  | .ready generation => some (.ready generation)
  | .stop generation => some (.stop generation)
  | .quiesce generation => some (.quiesce generation)
  | _ => none

/-- The callbacks, with the phase of the lifecycle left to `step`. -/
def callback (system : DeviceSystem) : DeviceInput → DeviceSystem
  | .create _ => { system with emcy := [], disabled := false }
  | .canOff => { system with disabled := true }
  | .foreign od => { system with od := od }
  | .bind _ answers =>
      let bound := system.runtime.onCommunicationBind answers system.od
      { system with runtime := bound.1, od := bound.2.1 }
  | .ready _ =>
      let readied := system.runtime.onCommunicationReady
      { system with runtime := readied.1, emcy := system.emcy ++ readied.2 }
  | .stop _ => { system with runtime := system.runtime.onCommunicationStop }
  | .quiesce _ =>
      let released := system.runtime.onCommunicationQuiesced system.od
      { system with runtime := released.1, od := released.2 }
  | .pass inputs canNormal =>
      let passed := system.runtime.processPassLocked inputs system.phase.stack.isSome canNormal
      { system with runtime := passed.1, emcy := system.emcy ++ passed.2 }
  | .sync inputs => { system with runtime := system.runtime.onSynchronousProcess inputs }
  | .deinit => { system with runtime := system.runtime.onRuntimeDeinit }
  | _ => system

def step (system : DeviceSystem) (input : DeviceInput) : DeviceSystem :=
  { system.callback input with
    phase := ((system.move input).bind system.phase.check).getD system.phase }

/-- The orders of the lifecycle. A stack gets its CAN module once, and the adapter is deinitialised
while it is unbound and the CAN module is down. -/
def Permitted (system : DeviceSystem) (input : DeviceInput) : Prop :=
  ((system.move input).all fun move => (system.phase.check move).isSome) = true ∧
    match input with
    | .canOn => system.disabled = false
    | .foreign od => List.Forall₂ ODEntry.Foreign system.od od
    | .deinit => system.phase.standing = .unbound ∧ system.phase.canModule = false
    | _ => True

/-- What holds in every state. -/
structure Law (system : DeviceSystem) : Prop where
  /-- A ready adapter mirrors every axis: its error bit is set exactly while its fault is active. -/
  mirrored : system.phase.standing = .ready → ∃ manager, system.runtime.manager = some manager ∧
    ∀ axis ∈ manager.axes, axis.diagnosis.pending = false ∧ axis.Told system.emcy
  addressed : Addressed system.emcy
  /-- From the bind to the end of the quiescing, both objects of every axis forward to it. -/
  installed : system.phase.standing ≠ .unbound → ∃ manager, system.runtime.manager = some manager ∧
    ∀ axis ∈ manager.axes,
      cachedExtension system.od axis .controlword = some (.controlword axis.logicalDevice) ∧
        cachedExtension system.od axis .modesOfOperation = some (.mode axis.logicalDevice)
  /-- Without a bind no entry points into the axes. -/
  released : system.phase.standing = .unbound →
    ∀ entry ∈ system.od, ∀ owner : ExtensionOwner, owner.Ours → entry.extension ≠ some owner
  /-- Outside a ready generation no pass and no SYNC does anything. -/
  quiet : system.phase.standing ≠ .ready →
    (∀ inputs canNormal, system.step (.pass inputs canNormal) = system) ∧
      ∀ inputs, system.step (.sync inputs) = system
  /-- Only a pass and the deinitialisation reach a drive. -/
  still : ∀ {manager input}, system.runtime.manager = some manager → system.Permitted input →
    (∀ inputs canNormal, input ≠ .pass inputs canNormal) → input ≠ .deinit →
    ∃ next, (system.step input).runtime.manager = some next ∧
      next.axes.map Axis.drivePart = manager.axes.map Axis.drivePart

/-- The invariant. Until the first ready the Emergency object of a stack has been told nothing. -/
structure Inv (system : DeviceSystem) : Prop where
  flag : system.runtime.communicationReady = true ↔ system.phase.standing = .ready
  kept : ∀ manager, system.runtime.manager = some manager → manager.Kept
  unbound : system.phase.standing = .unbound → Marked [] system.od ∧
    ∀ manager, system.runtime.manager = some manager → manager.odBound = false
  bound : system.phase.standing ≠ .unbound →
    ∃ manager, system.runtime.manager = some manager ∧ manager.Bound system.od
  armed : system.phase.standing = .bound →
    ∀ manager, system.runtime.manager = some manager → manager.Armed
  told : system.phase.standing = .ready → ∀ manager, system.runtime.manager = some manager →
    ∀ axis ∈ manager.axes, axis.diagnosis.pending = false ∧ axis.Told system.emcy
  fresh : system.phase.canModule = true → system.disabled = false
  silent : system.disabled = false → system.phase.standing = .ready ∨
    (system.phase.standing = .stopped ∧ system.phase.canModule = true) ∨ system.emcy = []
  addressed : Addressed system.emcy

variable {system : DeviceSystem}

theorem quiet_pass (h : system.runtime.communicationReady = false)
    (inputs : LogicalDevice → PassInputs) (canNormal : Bool) :
    system.step (.pass inputs canNormal) = system := by
  unfold step callback move DeviceRtt.processPassLocked
  simp only [h, Bool.not_false, Bool.true_or, if_true, Option.bind_none, Option.getD_none,
    List.append_nil]

theorem quiet_sync (h : system.runtime.communicationReady = false)
    (inputs : LogicalDevice → SyncInputs) : system.step (.sync inputs) = system := by
  have hnothing : system.runtime.onSynchronousProcess inputs = system.runtime := by
    unfold DeviceRtt.onSynchronousProcess
    split
    · rfl
    · rw [h, Bool.false_and]
      exact if_neg Bool.false_ne_true
  unfold step callback move
  dsimp only
  rw [hnothing]
  rfl

/-! ## Somebody else's work -/

theorem marked_foreign {od after : ObjectDictionary} (h : List.Forall₂ ODEntry.Foreign od after)
    {marks : List (Nat × ExtensionOwner)} (hmarked : Marked marks od) : Marked marks after := by
  induction h with
  | nil => exact hmarked
  | cons hentry _ ih =>
      unfold Marked at hmarked ih ⊢
      rw [List.forall_mem_cons] at hmarked ⊢
      refine ⟨fun owner howner => ?_, ih hmarked.2⟩
      rw [hentry.ours owner howner, hentry.object]
      exact hmarked.1 owner howner

theorem isSome_odFind_foreign {od after : ObjectDictionary}
    (h : List.Forall₂ ODEntry.Foreign od after) (index : Nat) :
    (odFind after index).isSome = (odFind od index).isSome := by
  unfold odFind
  induction h with
  | nil => rfl
  | cons hentry _ ih =>
      have hindex := congrArg ODEntry.index hentry.object
      dsimp only at hindex
      rw [List.find?_cons, List.find?_cons, hindex]
      split
      · rfl
      · exact ih

theorem bound_foreign {od after : ObjectDictionary} (h : List.Forall₂ ODEntry.Foreign od after)
    {manager : Manager} (hbound : manager.Bound od) : manager.Bound after where
  odBound := hbound.odBound
  full := by
    intro axis hmem slot hslot
    rw [isSome_odFind_foreign h]
    exact hbound.full axis hmem slot hslot
  marked := marked_foreign h hbound.marked

/-! ## One step -/

theorem step_of_move {input : DeviceInput} {move : Move} {next : Phase}
    (hmove : system.move input = some move) (hnext : system.phase.check move = some next) :
    system.step input = { system.callback input with phase := next } := by
  unfold step
  rw [hmove, Option.bind_some, hnext]
  rfl

/-- A permitted move of the lifecycle has a next phase. -/
theorem next_of_permitted {input : DeviceInput} (h : system.Permitted input) {move : Move}
    (hmove : system.move input = some move) : ∃ next, system.phase.check move = some next := by
  have hall := h.1
  rw [hmove, Option.all_some] at hall
  exact Option.isSome_iff_exists.mp hall

/-- Stack and CAN module may come and go around an adapter that is not ready. -/
theorem Inv.around (h : system.Inv) {next : Phase} {emcy : List EmcyCall} {disabled : Bool}
    (hstanding : next.standing = system.phase.standing) (hready : next.standing ≠ .ready)
    (hfresh : next.canModule = true → disabled = false)
    (hsilent : disabled = false →
      (next.standing = .stopped ∧ next.canModule = true) ∨ emcy = [])
    (haddressed : Addressed emcy) :
    { system with phase := next, emcy := emcy, disabled := disabled }.Inv where
  flag := by rw [h.flag, hstanding]
  kept := h.kept
  unbound := fun hunbound => h.unbound (hstanding.symm.trans hunbound)
  bound := fun hbound => h.bound (hstanding ▸ hbound)
  armed := fun hbound => h.armed (hstanding.symm.trans hbound)
  told := fun hnow => absurd hnow hready
  fresh := hfresh
  silent := fun hdisabled => .inr (hsilent hdisabled)
  addressed := haddressed

theorem Inv.silent_unless (h : system.Inv) (hdisabled : system.disabled = false)
    (hready : system.phase.standing ≠ .ready)
    (hstopped : system.phase.standing = .stopped → system.phase.canModule = false) :
    system.emcy = [] := by
  rcases h.silent hdisabled with hnow | ⟨hnow, hmodule⟩ | hempty
  · exact absurd hnow hready
  · rw [hstopped hnow] at hmodule
    cases hmodule
  · exact hempty

theorem not_ready (h : system.Inv) (hstanding : system.phase.standing ≠ .ready) :
    system.runtime.communicationReady = false := by
  rw [Bool.eq_false_iff, ne_eq, h.flag]
  exact hstanding

theorem phase_of_bind {generation : Nat} {answers : BindAnswers}
    (hpermitted : system.Permitted (.bind generation answers)) :
    system.phase = ⟨some generation, true, .unbound⟩ := by
  obtain ⟨next, hnext⟩ := next_of_permitted hpermitted rfl
  split_ifs at hnext
  · simp only [Phase.check, Option.ite_none_right_eq_some] at hnext
    exact hnext.1
  · simp only [Phase.check, Option.ite_none_right_eq_some] at hnext
    exact hnext.1.1

theorem inv_create (h : system.Inv) {generation : Nat}
    (hpermitted : system.Permitted (.create generation)) :
    (system.step (.create generation)).Inv := by
  obtain ⟨next, hnext⟩ := next_of_permitted hpermitted rfl
  rw [step_of_move rfl hnext]
  simp only [Phase.check, Option.ite_none_right_eq_some, Option.some.injEq] at hnext
  obtain ⟨hphase, rfl⟩ := hnext
  apply h.around
  · rw [hphase]
  · simp
  · simp
  · exact fun _ => .inr rfl
  · exact List.forall_mem_nil _

theorem inv_delete (h : system.Inv) {generation : Nat}
    (hpermitted : system.Permitted (.delete generation)) :
    (system.step (.delete generation)).Inv := by
  obtain ⟨next, hnext⟩ := next_of_permitted hpermitted rfl
  rw [step_of_move rfl hnext]
  simp only [Phase.check, Option.ite_none_right_eq_some, Option.some.injEq] at hnext
  obtain ⟨hphase, rfl⟩ := hnext
  apply h.around
  · rw [hphase]
  · simp
  · simp
  · intro hdisabled
    right
    apply h.silent_unless hdisabled
    · simp [hphase]
    · simp [hphase]
  · exact h.addressed

theorem inv_canOn (h : system.Inv) (hpermitted : system.Permitted .canOn) :
    (system.step .canOn).Inv := by
  obtain ⟨next, hnext⟩ := next_of_permitted hpermitted rfl
  rw [step_of_move rfl hnext]
  simp only [Phase.check, Option.ite_none_right_eq_some, Option.some.injEq, Bool.and_eq_true,
    decide_eq_true_eq] at hnext
  obtain ⟨⟨-, hunbound⟩, rfl⟩ := hnext
  apply h.around
  · rfl
  · simp [hunbound]
  · exact fun _ => hpermitted.2
  · intro hdisabled
    right
    apply h.silent_unless hdisabled
    · simp [hunbound]
    · simp [hunbound]
  · exact h.addressed

theorem inv_canOff (h : system.Inv) (hpermitted : system.Permitted .canOff) :
    (system.step .canOff).Inv := by
  obtain ⟨next, hnext⟩ := next_of_permitted hpermitted rfl
  rw [step_of_move rfl hnext]
  simp only [Phase.check, Option.ite_none_right_eq_some, Option.some.injEq, Bool.and_eq_true,
    Bool.or_eq_true, decide_eq_true_eq] at hnext
  obtain ⟨⟨-, hstanding⟩, rfl⟩ := hnext
  apply h.around
  · rfl
  · rcases hstanding with hstanding | hstanding
    · simp [hstanding]
    · simp [hstanding]
  · simp
  · simp [callback]
  · exact h.addressed

theorem inv_foreign (h : system.Inv) {od : ObjectDictionary}
    (hpermitted : system.Permitted (.foreign od)) : (system.step (.foreign od)).Inv where
  flag := h.flag
  kept := h.kept
  unbound := by
    intro hunbound
    obtain ⟨hmarked, hodBound⟩ := h.unbound hunbound
    exact ⟨marked_foreign hpermitted.2 hmarked, hodBound⟩
  bound := by
    intro hstanding
    obtain ⟨manager, hsome, hbound⟩ := h.bound hstanding
    exact ⟨manager, hsome, bound_foreign hpermitted.2 hbound⟩
  armed := h.armed
  told := h.told
  fresh := h.fresh
  silent := h.silent
  addressed := h.addressed

theorem inv_bind (h : system.Inv) {generation : Nat} {answers : BindAnswers}
    (hpermitted : system.Permitted (.bind generation answers)) :
    (system.step (.bind generation answers)).Inv := by
  obtain ⟨next, hnext⟩ := next_of_permitted hpermitted rfl
  rw [step_of_move rfl hnext]
  unfold callback
  dsimp only at hnext ⊢
  have hphase := phase_of_bind hpermitted
  obtain ⟨hmarked, -⟩ := h.unbound (by rw [hphase])
  have hunready := not_ready h (by simp [hphase])
  have hempty : system.disabled = false → system.emcy = [] := fun hdisabled =>
    h.silent_unless hdisabled (by simp [hphase]) (by simp [hphase])
  have houtcome := system.runtime.onCommunicationBind_spec answers hmarked h.kept
  generalize system.runtime.onCommunicationBind answers system.od = outcome at hnext houtcome
  cases houtcome with
  | bound manager od _ hkept hbound harmed =>
      rw [if_pos rfl] at hnext
      simp only [Phase.check, hphase, Option.ite_none_right_eq_some, Option.some.injEq] at hnext
      obtain ⟨-, rfl⟩ := hnext
      constructor
      · simp [hunready]
      · exact of_present hkept
      · simp
      · exact fun _ => ⟨manager, rfl, hbound⟩
      · exact fun _ => of_present harmed
      · simp
      · exact fun _ => h.fresh (by rw [hphase])
      · exact fun hdisabled => .inr (.inr (hempty hdisabled))
      · exact h.addressed
  | failed manager _ hkept =>
      rw [if_neg (by simp)] at hnext
      simp only [Phase.check, hphase, Option.ite_none_right_eq_some, Option.some.injEq] at hnext
      obtain ⟨-, rfl⟩ := hnext
      constructor
      · simp [hunready]
      · exact fun failed hsome => (hkept failed hsome).1
      · exact fun _ => ⟨hmarked, fun failed hsome => (hkept failed hsome).2⟩
      · exact fun hbound => absurd rfl hbound
      · simp
      · simp
      · exact fun _ => h.fresh (by rw [hphase])
      · exact fun hdisabled => .inr (.inr (hempty hdisabled))
      · exact h.addressed

/-- The first flush of a generation repeats the active faults to an Emergency object that knows of
none. -/
theorem inv_ready (h : system.Inv) {generation : Nat}
    (hpermitted : system.Permitted (.ready generation)) :
    (system.step (.ready generation)).Inv := by
  obtain ⟨next, hnext⟩ := next_of_permitted hpermitted rfl
  rw [step_of_move rfl hnext]
  simp only [Phase.check, Option.ite_none_right_eq_some, Option.some.injEq] at hnext
  obtain ⟨hphase, rfl⟩ := hnext
  have hdisabled : system.disabled = false := h.fresh (by rw [hphase])
  have hempty : system.emcy = [] :=
    h.silent_unless hdisabled (by simp [hphase]) (by simp [hphase])
  obtain ⟨manager, hsome, hbound⟩ := h.bound (by simp [hphase])
  have harmed := h.armed (by rw [hphase]) manager hsome
  have hwaits : ∀ axis ∈ manager.axes, axis.diagnosis.pending = true ∨ axis.Told system.emcy := by
    intro axis hmem
    rw [hempty]
    cases hactive : axis.diagnosis.active with
    | true => exact .inl (harmed axis hmem hactive)
    | false => exact .inr hactive.symm
  obtain ⟨after, hafter, hkept, hboundAfter, htold, haddressed⟩ :=
    @DeviceRtt.flushDiagnostics_spec { system.runtime with communicationReady := true } manager
      hsome (h.kept manager hsome) system.emcy hwaits
  unfold callback DeviceRtt.onCommunicationReady
  dsimp only
  rw [hafter]
  constructor
  · simp
  · exact of_present hkept
  · simp
  · exact fun _ => ⟨after, rfl, hboundAfter _ hbound⟩
  · simp
  · exact fun _ => of_present htold
  · exact fun _ => hdisabled
  · exact fun _ => .inl rfl
  · exact List.forall_mem_append.mpr ⟨h.addressed, haddressed⟩

theorem inv_stop (h : system.Inv) {generation : Nat}
    (hpermitted : system.Permitted (.stop generation)) :
    (system.step (.stop generation)).Inv := by
  obtain ⟨next, hnext⟩ := next_of_permitted hpermitted rfl
  rw [step_of_move rfl hnext]
  simp only [Phase.check, Option.ite_none_right_eq_some, Option.some.injEq] at hnext
  obtain ⟨hphase, rfl⟩ := hnext
  have hlive : system.phase.standing ≠ .unbound ∧ system.phase.canModule = true := by
    rcases hphase with hphase | hphase
    · simp [hphase]
    · simp [hphase]
  constructor
  · simp [callback, DeviceRtt.onCommunicationStop]
  · exact h.kept
  · simp
  · exact fun _ => h.bound hlive.1
  · simp
  · simp
  · exact fun _ => h.fresh hlive.2
  · exact fun _ => .inr (.inl ⟨rfl, rfl⟩)
  · exact h.addressed

theorem inv_quiesce (h : system.Inv) {generation : Nat}
    (hpermitted : system.Permitted (.quiesce generation)) :
    (system.step (.quiesce generation)).Inv := by
  obtain ⟨next, hnext⟩ := next_of_permitted hpermitted rfl
  rw [step_of_move rfl hnext]
  simp only [Phase.check, Option.ite_none_right_eq_some, Option.some.injEq] at hnext
  obtain ⟨hphase, rfl⟩ := hnext
  have hlive : system.phase.standing ≠ .unbound ∧ system.phase.standing ≠ .ready ∧
      (system.phase.standing = .stopped → system.phase.canModule = false) := by
    rcases hphase with hphase | hphase
    · simp [hphase]
    · simp [hphase]
  obtain ⟨manager, hsome, hbound⟩ := h.bound hlive.1
  have hkept := h.kept manager hsome
  obtain ⟨hmarked, after, hafter, haxes, hodBound⟩ :=
    DeviceRtt.unbindOwnedExtensions_spec hsome hkept hbound
  have hunready := not_ready h hlive.2.1
  unfold callback DeviceRtt.onCommunicationQuiesced
  dsimp only
  rw [hafter]
  constructor
  · simp [hunready]
  · exact of_present (hkept.step (haxes ▸ List.forall₂_same.mpr fun axis _ => .refl axis))
  · exact fun _ => ⟨hmarked, of_present hodBound⟩
  · exact fun hstanding => absurd rfl hstanding
  · simp
  · simp
  · exact h.fresh
  · exact fun hdisabled => .inr (.inr (h.silent_unless hdisabled hlive.2.1 hlive.2.2))
  · exact h.addressed

theorem inv_pass (h : system.Inv) (inputs : LogicalDevice → PassInputs) (canNormal : Bool) :
    (system.step (.pass inputs canNormal)).Inv := by
  by_cases hready : system.phase.standing = .ready
  · obtain ⟨manager, hsome, hbound⟩ := h.bound (by simp [hready])
    obtain ⟨after, hafter, hkept, hboundAfter, htold, haddressed⟩ :=
      @DeviceRtt.processPassLocked_spec system.runtime system.od manager inputs
        system.phase.stack.isSome canNormal hsome (h.kept manager hsome) hbound system.emcy
        (h.told hready manager hsome)
    unfold step callback move
    dsimp only
    rw [hafter]
    constructor
    · exact h.flag
    · exact of_present hkept
    · exact fun hunbound => absurd (hready.symm.trans hunbound) (by simp)
    · exact fun _ => ⟨after, rfl, hboundAfter⟩
    · exact fun hbound => absurd (hready.symm.trans hbound) (by simp)
    · exact fun _ => of_present htold
    · exact h.fresh
    · exact fun _ => .inl hready
    · exact List.forall_mem_append.mpr ⟨h.addressed, haddressed⟩
  · rw [quiet_pass (not_ready h hready)]
    exact h

theorem inv_sync (h : system.Inv) (inputs : LogicalDevice → SyncInputs) :
    (system.step (.sync inputs)).Inv := by
  by_cases hready : system.phase.standing = .ready
  · obtain ⟨manager, hsome, hbound⟩ := h.bound (by simp [hready])
    obtain ⟨after, hafter, -, hkept, hboundAfter, htold⟩ :=
      DeviceRtt.onSynchronousProcess_spec inputs hsome (h.kept manager hsome)
    unfold step callback move
    dsimp only
    rw [hafter]
    constructor
    · exact h.flag
    · exact of_present hkept
    · exact fun hunbound => absurd (hready.symm.trans hunbound) (by simp)
    · exact fun _ => ⟨after, rfl, hboundAfter _ hbound⟩
    · exact fun hbound => absurd (hready.symm.trans hbound) (by simp)
    · exact fun _ => of_present (htold _ (h.told hready manager hsome))
    · exact h.fresh
    · exact fun _ => .inl hready
    · exact h.addressed
  · rw [quiet_sync (not_ready h hready)]
    exact h

theorem inv_deinit (h : system.Inv) (hpermitted : system.Permitted .deinit) :
    (system.step .deinit).Inv := by
  obtain ⟨hunbound, -⟩ := hpermitted.2
  have hstanding : (system.step .deinit).phase.standing = .unbound := hunbound
  constructor
  · rw [hstanding]
    simp [callback, DeviceSystem.step, DeviceRtt.onRuntimeDeinit]
  · intro manager hsome
    cases hsome
  · refine fun _ => ⟨(h.unbound hunbound).1, fun manager hsome => ?_⟩
    cases hsome
  · exact fun hbound => absurd hstanding hbound
  · simp [hstanding]
  · simp [hstanding]
  · exact h.fresh
  · exact h.silent
  · exact h.addressed

theorem Inv.step (h : system.Inv) {input : DeviceInput} (hpermitted : system.Permitted input) :
    (system.step input).Inv := by
  cases input with
  | create _ => exact inv_create h hpermitted
  | delete _ => exact inv_delete h hpermitted
  | canOn => exact inv_canOn h hpermitted
  | canOff => exact inv_canOff h hpermitted
  | foreign _ => exact inv_foreign h hpermitted
  | bind _ _ => exact inv_bind h hpermitted
  | ready _ => exact inv_ready h hpermitted
  | stop _ => exact inv_stop h hpermitted
  | quiesce _ => exact inv_quiesce h hpermitted
  | pass inputs canNormal => exact inv_pass h inputs canNormal
  | sync inputs => exact inv_sync h inputs
  | deinit => exact inv_deinit h hpermitted

/-! ## Every run -/

theorem Inv.still (h : system.Inv) {input : DeviceInput} (hpermitted : system.Permitted input)
    (hpass : ∀ inputs canNormal, input ≠ .pass inputs canNormal) (hdeinit : input ≠ .deinit) :
    Still system.runtime.manager (system.step input).runtime.manager := by
  cases input with
  | bind _ answers =>
      obtain ⟨hmarked, -⟩ := h.unbound (by rw [phase_of_bind hpermitted])
      have houtcome := system.runtime.onCommunicationBind_spec answers hmarked h.kept
      change Still _ (system.runtime.onCommunicationBind answers system.od).1.manager
      generalize system.runtime.onCommunicationBind answers system.od = outcome at houtcome
      cases houtcome with
      | bound _ _ hstill _ _ _ => exact hstill
      | failed _ hstill _ => exact hstill
  | ready _ =>
      exact @DeviceRtt.flushDiagnostics_still
        { system.runtime with communicationReady := true } h.kept
  | quiesce _ => exact DeviceRtt.unbindOwnedExtensions_still
  | sync inputs =>
      intro manager hsome
      obtain ⟨after, hafter, hstep, -⟩ :=
        DeviceRtt.onSynchronousProcess_spec inputs hsome (h.kept manager hsome)
      exact ⟨after, congrArg DeviceRtt.manager hafter, hstep⟩
  | pass inputs canNormal => exact absurd rfl (hpass inputs canNormal)
  | deinit => exact absurd rfl hdeinit
  | _ => exact .refl _

theorem Inv.law (h : system.Inv) : system.Law where
  mirrored := by
    intro hready
    obtain ⟨manager, hsome, -⟩ := h.bound (by simp [hready])
    exact ⟨manager, hsome, h.told hready manager hsome⟩
  addressed := h.addressed
  installed := by
    intro hstanding
    obtain ⟨manager, hsome, hbound⟩ := h.bound hstanding
    exact ⟨manager, hsome, fun axis hmem =>
      cachedExtension_of_marked (hbound.full axis hmem) hbound.marked hmem⟩
  released := by
    intro hunbound entry hentry owner howner hsome
    exact List.not_mem_nil (((h.unbound hunbound).1 entry hentry owner howner).mp hsome)
  quiet := fun hstanding =>
    ⟨quiet_pass (not_ready h hstanding), quiet_sync (not_ready h hstanding)⟩
  still := by
    intro manager input hsome hpermitted hpass hdeinit
    obtain ⟨next, hnext, hstep⟩ := h.still hpermitted hpass hdeinit manager hsome
    exact ⟨next, hnext, drivePart_all hstep⟩

/-- Over every order of generations, failed binds, passes and SYNCs. -/
theorem law_of_generations {config : List AxisConfig} {od : ObjectDictionary}
    (hfree : ∀ entry ∈ od, ∀ owner : ExtensionOwner, owner.Ours → entry.extension ≠ some owner)
    {inputs : List DeviceInput}
    (hpermitted : EveryStep step Permitted { runtime := { config := config }, od := od } inputs) :
    (run step { runtime := { config := config }, od := od } inputs).Law := by
  apply Inv.law
  apply run_invariant_of_everyStep (fun _ _ h hstep => h.step hstep) _ hpermitted
  constructor
  · simp
  · intro manager hsome
    cases hsome
  · refine fun _ => ⟨fun entry hentry owner howner => ?_, fun manager hsome => ?_⟩
    · exact ⟨fun hsome => absurd hsome (hfree entry hentry owner howner),
        fun hmem => absurd hmem List.not_mem_nil⟩
    · cases hsome
  · exact fun hstanding => absurd rfl hstanding
  · simp
  · simp
  · simp
  · exact fun _ => .inr (.inr rfl)
  · exact List.forall_mem_nil _

/-! ## A fault that outlives its generation -/

def cyclicSystem : DeviceSystem where
  runtime := { config := [cyclicConfig] }
  od := cyclicDictionary

/-- The axis faults in generation 0; the stack is then made anew. -/
def faultedGenerations : List DeviceInput :=
  [.create 0, .canOn, .bind 0 {}, .ready 0, .pass (fun _ => faultPass) true, .stop 0, .canOff,
    .quiesce 0, .delete 0, .create 1, .canOn, .bind 1 {}, .ready 1]

/-- The Emergency object of generation 1 is told about the fault. -/
theorem law_of_faultedGenerations :
    (run step cyclicSystem faultedGenerations).Law ∧
      (run step cyclicSystem faultedGenerations).emcy = [.errorReport 0x40 0x2310 1] := by
  have hfree : ∀ entry ∈ cyclicDictionary, ∀ owner : ExtensionOwner, owner.Ours →
      entry.extension ≠ some owner := by
    intro entry hentry owner _
    obtain ⟨contract, -, rfl⟩ := List.mem_map.mp hentry
    intro hsome
    cases hsome
  refine ⟨law_of_generations hfree ?_, by decide +kernel⟩
  refine ⟨⟨by decide +kernel, trivial⟩, ⟨by decide +kernel, rfl⟩, ⟨by decide +kernel, trivial⟩,
    ⟨by decide +kernel, trivial⟩, ⟨by decide +kernel, trivial⟩, ⟨by decide +kernel, trivial⟩,
    ⟨by decide +kernel, trivial⟩, ⟨by decide +kernel, trivial⟩, ⟨by decide +kernel, trivial⟩,
    ⟨by decide +kernel, trivial⟩, ⟨by decide +kernel, ?_⟩, ⟨by decide +kernel, trivial⟩,
    ⟨by decide +kernel, trivial⟩, trivial⟩
  decide +kernel

end DeviceSystem

end CanopenRtt.Cia402.Device
