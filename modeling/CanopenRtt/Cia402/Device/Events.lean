import CanopenRtt.Cia402.Device.FaultLatch
/-!
# Diagnostic events

The single event slot of an axis is drained once after each pass. A pass causes
at most one REPORT or RESET, except when a mode callback fails right after a
completed reset: then the REPORT overwrites the RESET. In every run without that
collision the events taken are the transitions of the diagnosis, in order.
-/

namespace CanopenRtt.Cia402.Device

open CanopenRtt.Support

/-- The diagnostic transition an action is, if it is one. -/
def Action.transition : Action → Option DiagEvent
  | .latched event | .cleared event => some event
  | _ => none

/-- The diagnostic transitions among the actions, in order. -/
def transitions (actions : List Action) : List DiagEvent :=
  actions.filterMap Action.transition

@[simp] theorem transitions_nil : transitions [] = [] := rfl

@[simp] theorem transitions_append (xs ys : List Action) :
    transitions (xs ++ ys) = transitions xs ++ transitions ys :=
  List.filterMap_append

theorem transitions_eq_nil {actions : List Action} (h : ∀ a ∈ actions, a.transition = none) :
    transitions actions = [] :=
  List.filterMap_eq_nil_iff.mpr h

@[simp] theorem transitions_operation (op : DriveOperation) (result : DriveResult)
    (actions : List Action) :
    transitions (.operation op result :: actions) = transitions actions := rfl

/-- What one part of a pass does to the diagnosis, with the transitions it makes. -/
inductive DiagStep (d : DiagRuntime) : DiagRuntime → List DiagEvent → Prop where
  | kept {d' : DiagRuntime} (hactive : d'.active = d.active) (hfault : d'.fault = d.fault)
      (hpending : d'.pending = d.pending) (hevent : d'.event = d.event) : DiagStep d d' []
  | reported {d' : DiagRuntime} {event : DiagEvent} (htype : event.type = .report)
      (hbefore : d.active = false) (hactive : d'.active = true) (hfault : d'.fault = event.fault)
      (hpending : d'.pending = true) (hevent : d'.event = event) : DiagStep d d' [event]
  | cleared {d' : DiagRuntime} {event : DiagEvent} (htype : event.type = .reset)
      (hbefore : d.active = true) (horigin : event.fault = d.fault) (hactive : d'.active = false)
      (hpending : d'.pending = true) (hevent : d'.event = event) : DiagStep d d' [event]

theorem DiagStep.refl (d : DiagRuntime) : DiagStep d d [] :=
  .kept rfl rfl rfl rfl

theorem DiagStep.after_silent {d d₁ d₂ : DiagRuntime} {events : List DiagEvent}
    (h₁ : DiagStep d d₁ []) (h₂ : DiagStep d₁ d₂ events) : DiagStep d d₂ events := by
  generalize hnil : ([] : List DiagEvent) = silent at h₁
  cases h₁ with
  | reported => exact absurd hnil (List.cons_ne_nil _ _).symm
  | cleared => exact absurd hnil (List.cons_ne_nil _ _).symm
  | kept hactive hfault hpending hevent =>
      cases h₂ with
      | kept h₁ h₂ h₃ h₄ =>
          exact .kept (h₁.trans hactive) (h₂.trans hfault) (h₃.trans hpending) (h₄.trans hevent)
      | reported htype hbefore h₁ h₂ h₃ h₄ =>
          exact .reported htype (hactive.symm.trans hbefore) h₁ h₂ h₃ h₄
      | cleared htype hbefore horigin h₁ h₂ h₃ =>
          exact .cleared htype (hactive.symm.trans hbefore) (horigin.trans hfault) h₁ h₂ h₃

theorem DiagStep.then_silent {d d₁ d₂ : DiagRuntime} {events : List DiagEvent}
    (h₁ : DiagStep d d₁ events) (h₂ : DiagStep d₁ d₂ []) : DiagStep d d₂ events := by
  generalize hnil : ([] : List DiagEvent) = silent at h₂
  cases h₂ with
  | reported => exact absurd hnil (List.cons_ne_nil _ _).symm
  | cleared => exact absurd hnil (List.cons_ne_nil _ _).symm
  | kept hactive hfault hpending hevent =>
      cases h₁ with
      | kept h₁ h₂ h₃ h₄ =>
          exact .kept (hactive.trans h₁) (hfault.trans h₂) (hpending.trans h₃) (hevent.trans h₄)
      | reported htype hbefore h₁ h₂ h₃ h₄ =>
          exact .reported htype hbefore (hactive.trans h₁) (hfault.trans h₂) (hpending.trans h₃)
            (hevent.trans h₄)
      | cleared htype hbefore horigin h₁ h₂ h₃ =>
          exact .cleared htype hbefore horigin (hactive.trans h₁) (hpending.trans h₂)
            (hevent.trans h₃)

/-! ## One pass -/

theorem DiagLatch.step {source : LatchSource} {d d' : DiagRuntime} {actions : List Action}
    (h : DiagLatch source d d' actions) : DiagStep d d' (transitions actions) := by
  have hasked : ∀ asked : List Action,
      (∀ a ∈ asked, ∃ origin info, a = .getFaultInfo origin info) → transitions asked = [] := by
    intro asked hasked
    refine transitions_eq_nil fun a ha => ?_
    obtain ⟨origin, info, rfl⟩ := hasked a ha
    rfl
  cases h with
  | suppressed => exact .refl d
  | rejected _ _ h =>
      rw [hasked _ h]
      exact .kept rfl rfl rfl rfl
  | latched hactive _ _ _ _ htype hfault _ h =>
      rw [transitions_append, hasked _ h]
      exact .reported htype hactive rfl hfault.symm rfl rfl

theorem FaultEntry.step {source : LatchSource} {c c' : Control} {actions : List Action}
    (h : FaultEntry source c c' actions) :
    DiagStep c.diagnosis c'.diagnosis (transitions actions) := by
  obtain ⟨hlatch⟩ := h
  exact hlatch.step

theorem FaultEntry.silent {source : LatchSource} {c c' : Control} {actions : List Action}
    (h : FaultEntry source c c' actions) (hactive : c.diagnosis.active = true) :
    transitions actions = [] := by
  obtain ⟨hlatch⟩ := h
  cases hlatch with
  | suppressed => rfl
  | rejected hinactive => exact absurd (hinactive.symm.trans hactive) Bool.false_ne_true
  | latched hinactive => exact absurd (hinactive.symm.trans hactive) Bool.false_ne_true

theorem PollMove.step {inputs : PassInputs} {c c' : Control} {actions : List Action}
    (hmove : PollMove inputs c c' actions) :
    DiagStep c.diagnosis c'.diagnosis (transitions actions) := by
  cases hmove with
  | gated => exact .refl _
  | clean => exact .refl _
  | fault _ _ _ hentry => exact hentry.step

theorem reactionCall_silent (inputs : PassInputs) : transitions [reactionCall inputs] = [] := rfl

theorem FsaMove.step {inputs : PassInputs} {r : Reads} {c c' : Control} {actions : List Action}
    (hmove : FsaMove inputs r c c' actions) (h : c.Ownership) :
    DiagStep c.diagnosis c'.diagnosis (transitions actions) := by
  cases hmove with
  | skipped => exact .refl _
  | readFailed _ hentry =>
      rw [transitions_append, reactionCall_silent, List.append_nil]
      exact hentry.step
  | waiting => exact .refl _
  | powerUp => exact .refl _
  | transition controlword _ hlatch hcall =>
      have hbase := (hlatch.latched (h.sampled controlword)).diagnosis
      cases hcall with
      | busy => exact hbase ▸ .refl _
      | done => exact hbase ▸ .refl _
      | error _ hentry =>
          have hstep := hentry.step
          rw [hbase] at hstep
          exact hstep
  | takeoverFailed _ _ _ hentry =>
      rw [transitions_append, reactionCall_silent, List.append_nil]
      exact hentry.step
  | reaction => exact .refl _
  | resetBusy => exact .refl _
  | @resetDone _ _ _ _ _ _ _ _ d actions hclear =>
      rcases hclear with ⟨-, rfl, rfl⟩ | ⟨event, htype, hfault, hactive, rfl, rfl⟩
      · exact .refl _
      · exact .cleared htype hactive hfault rfl rfl rfl
  | @resetFailed _ _ _ _ _ d hd _ _ _ hentry =>
      have hkept : DiagStep c.diagnosis d [] := by
        rcases hd with rfl | rfl
        · exact .refl _
        · exact .kept rfl rfl rfl rfl
      exact hkept.after_silent hentry.step
  | invalid _ _ _ hentry => exact hentry.step

theorem ModeMove.step {inputs : PassInputs} {r : Reads} {c c' : Control} {actions : List Action}
    (hmove : ModeMove inputs r c c' actions) :
    DiagStep c.diagnosis c'.diagnosis (transitions actions) := by
  have hruntime : ∀ called : List Action, (∀ a ∈ called, a.isRuntime = true) →
      transitions called = [] := by
    intro called hcalled
    refine transitions_eq_nil fun a ha => ?_
    have hkind := hcalled a ha
    cases a <;> first | rfl | exact absurd hkind Bool.false_ne_true
  cases hmove with
  | idle => exact .refl _
  | active _ _ _ hcalled =>
      rw [hruntime _ hcalled]
      exact .refl _
  | activeFailed _ _ _ hcalled hentry =>
      rw [transitions_append, hruntime _ hcalled]
      exact hentry.step
  | exit _ _ _ _ hcall =>
      cases hcall with
      | busy => exact .refl _
      | done => exact .refl _
      | error _ hentry => exact hentry.step
  | enter _ _ _ _ _ hcall =>
      cases hcall with
      | busy => exact .refl _
      | done => exact .refl _
      | error _ hentry => exact hentry.step

theorem FsaMove.silent {inputs : PassInputs} {r : Reads} {c c' : Control} {actions : List Action}
    (hmove : FsaMove inputs r c c' actions) (h : c.Ownership) (hstate : c.state ≠ .fault)
    (hactive : c.diagnosis.active = true) : transitions actions = [] := by
  cases hmove with
  | skipped => rfl
  | readFailed _ hentry =>
      rw [transitions_append, hentry.silent hactive]
      rfl
  | waiting => rfl
  | powerUp => rfl
  | transition controlword _ hlatch hcall =>
      cases hcall with
      | busy => rfl
      | done => rfl
      | error _ hentry =>
          refine hentry.silent ?_
          rw [(hlatch.latched (h.sampled controlword)).diagnosis]
          exact hactive
  | takeoverFailed _ _ _ hentry =>
      rw [transitions_append, transitions_operation, hentry.silent hactive]
      rfl
  | reaction => rfl
  | resetBusy _ _ hfault => exact absurd hfault hstate
  | resetDone _ _ hfault => exact absurd hfault hstate
  | resetFailed _ _ hfault => exact absurd hfault hstate
  | invalid _ _ _ hentry => exact hentry.silent hactive

/-- The FSA ends outside the fault path after a transition only by clearing a fault. -/
theorem FsaMove.cleared {inputs : PassInputs} {r : Reads} {c c' : Control} {actions : List Action}
    (hmove : FsaMove inputs r c c' actions) (hstate : c'.state.faulted = false)
    (hevents : transitions actions ≠ []) :
    ResetCompletes inputs r c actions ∧ c.diagnosis.active = true ∧
      c'.state = .switchOnDisabled ∧ ¬ c'.Owned ∧ c'.mode = c.mode := by
  have hentered : ∀ {source : LatchSource} {e c₁ : Control} {entry : List Action},
      FaultEntry source e c₁ entry → ¬ (c₁.reacted inputs).state.faulted = false := by
    intro source e c₁ entry hentry
    rw [Control.reacted_state _ inputs hentry.state]
    exact fun hfalse => absurd hfalse.symm Bool.false_ne_true
  cases hmove with
  | skipped => exact absurd rfl hevents
  | readFailed _ hentry => exact absurd hstate (hentered hentry)
  | waiting => exact absurd rfl hevents
  | powerUp => exact absurd rfl hevents
  | transition controlword _ hlatch hcall =>
      cases hcall with
      | busy => exact absurd rfl hevents
      | done => exact absurd rfl hevents
      | error _ hentry =>
          rw [hentry.state] at hstate
          exact absurd hstate (by decide)
  | takeoverFailed _ _ _ hentry => exact absurd hstate (hentered hentry)
  | reaction => exact absurd rfl hevents
  | resetBusy => exact absurd rfl hevents
  | resetDone controlword hread hfault hidle hstart hresult hclearable hcontract hclear =>
      rcases hclear with ⟨-, rfl, rfl⟩ | ⟨event, htype, -, hactive, rfl, rfl⟩
      · exact absurd rfl hevents
      · exact ⟨⟨hfault, ⟨controlword, hread, hstart⟩, hresult,
          List.mem_cons_self, hclearable, hcontract⟩, hactive, rfl, hidle, rfl⟩
  | resetFailed _ _ _ _ _ _ hentry =>
      rw [hentry.state] at hstate
      exact absurd hstate (by decide)
  | invalid _ _ _ hentry =>
      rw [hentry.state] at hstate
      exact absurd hstate (by decide)

/-- A mode move of an unowned axis in SWITCH_ON_DISABLED that reports a fault. -/
theorem ModeMove.reported {inputs : PassInputs} {r : Reads} {c c' : Control}
    {actions : List Action} (hmove : ModeMove inputs r c c' actions)
    (hstate : c.state = .switchOnDisabled) (hidle : ¬ c.Owned)
    (hevents : transitions actions ≠ []) :
    (∃ request, r.mode = some request ∧ request ≠ c.mode ∧
      (c.mode ≠ .none → inputs.modeExit c.mode = .error) ∧
      (c.mode = .none → inputs.modeEnter request = .error)) ∧
    ∃ fault, r.modeFault.info = some fault ∧ faultInfoValid fault = true ∧
      r.modeFault.writable = true := by
  have hlatched : ∀ {actions : List Action}, FaultEntry r.modeFault c c' actions →
      transitions actions ≠ [] → ∃ fault, r.modeFault.info = some fault ∧
        faultInfoValid fault = true ∧ r.modeFault.writable = true := by
    intro actions hentry hevents
    obtain ⟨hlatch⟩ := hentry
    cases hlatch with
    | suppressed => exact absurd rfl hevents
    | rejected _ _ hasked =>
        refine absurd (transitions_eq_nil fun a ha => ?_) hevents
        obtain ⟨origin, info, rfl⟩ := hasked a ha
        rfl
    | latched _ _ hinfo hvalid hwritable => exact ⟨_, hinfo, hvalid, hwritable⟩
  obtain ⟨-, hexit, henter⟩ := Control.not_owned.mp hidle
  cases hmove with
  | idle => exact absurd rfl hevents
  | active _ henabled =>
      rw [hstate] at henabled
      exact absurd henabled (by decide)
  | activeFailed _ henabled =>
      rw [hstate] at henabled
      exact absurd henabled (by decide)
  | exit hmode _ _ hlatch hcall =>
      cases hcall with
      | busy => exact absurd rfl hevents
      | done => exact absurd rfl hevents
      | error herror hentry =>
          refine ⟨?_, hlatched hentry hevents⟩
          rcases hlatch with hpending | ⟨-, hsame, request, hrequest, hne⟩
          · exact absurd (hpending.symm.trans hexit) hmode
          · subst hsame
            exact ⟨request, hrequest, hne, fun _ => herror, fun hnone => absurd hnone hmode⟩
  | enter hmode _ _ _ hlatch hcall =>
      cases hcall with
      | busy => exact absurd rfl hevents
      | done => exact absurd rfl hevents
      | error herror hentry =>
          refine ⟨?_, hlatched hentry hevents⟩
          rcases hlatch with hpending | ⟨-, hnone, hrequest⟩
          · exact absurd (hpending.symm.trans henter) hmode
          · exact ⟨_, hrequest, by rw [hnone]; exact hmode, fun hsome => absurd hnone hsome,
              fun _ => herror⟩

/-- A fault entry that reports leaves its fault active. -/
theorem FaultEntry.active {source : LatchSource} {c c' : Control} {actions : List Action}
    (h : FaultEntry source c c' actions) (hevents : transitions actions ≠ []) :
    c'.diagnosis.active = true := by
  have hstep := h.step
  obtain ⟨hlatch⟩ := h
  cases hlatch with
  | suppressed => exact absurd rfl hevents
  | rejected _ _ hasked =>
      refine absurd (transitions_eq_nil fun a ha => ?_) hevents
      obtain ⟨origin, info, rfl⟩ := hasked a ha
      rfl
  | latched => rfl

/-- After the poll has latched a fault, the rest of the pass makes no transition. -/
theorem SuperviseMove.silent {inputs : PassInputs} {r : Reads} {c c' : Control}
    {actions : List Action} (hmove : SuperviseMove inputs r c c' actions) (h : c.Ownership)
    (hstate : c.state = .faultReactionActive) (hactive : c.diagnosis.active = true) :
    DiagStep c.diagnosis c'.diagnosis [] ∧ transitions actions = [] := by
  cases hmove with
  | latched => exact ⟨.refl _, rfl⟩
  | readFailed _ hentry =>
      have hquiet := hentry.silent hactive
      have hstep := hentry.step
      rw [hquiet] at hstep
      exact ⟨hstep, by rw [transitions_append, hquiet]; rfl⟩
  | processed controlword hread hfsa hmodes =>
      have hnotFault : c.state ≠ .fault := by
        rw [hstate]
        decide
      have hquiet := hfsa.silent h hnotFault hactive
      have hstep := hfsa.step h
      have hfaulted := (hfsa.stays_faulted h (by rw [hstate]; rfl)).resolve_right
        fun hreset => hnotFault hreset.state
      obtain ⟨rfl, rfl⟩ := hmodes.eq_of_faulted hfaulted
      rw [hquiet] at hstep
      exact ⟨hstep, by rw [transitions_append, hquiet]; rfl⟩

/-- A completed reset clears an active fault, and in the same pass the exit of the
active mode, or the entry of the mode asked for, answers ERROR and is mapped. -/
structure EventCollision (inputs : PassInputs) (axis : Axis) : Prop where
  state : axis.state = .fault
  active : axis.diagnosis.active = true
  unfailed : axis.diagnosis.contractFailed = false
  started : ∃ controlword, sampledWord inputs axis = some controlword ∧
    (axis.faultResetInProgress = true ∨
      faultResetBit controlword = true ∧ axis.faultResetBitPrevious = false)
  done : inputs.operation .faultReset = .done
  clearable : (reads inputs axis).clearable = true
  request : ∃ request, (passReads inputs axis).mode = some request ∧ request ≠ axis.mode ∧
    (axis.mode ≠ .none → inputs.modeExit axis.mode = .error) ∧
    (axis.mode = .none → inputs.modeEnter request = .error)
  mapped : ∃ fault, inputs.getFaultInfo .modeOperation = some fault ∧
    faultInfoValid fault = true ∧ inputs.latchErrorCode .modeOperation = true

theorem eventCollision_of_reset {inputs : PassInputs} {axis : Axis} {controlword : Word}
    {actions : List Action} (hread : inputs.controlword .snapshot = some controlword)
    (hreset : ResetCompletes inputs (passReads inputs axis) axis.control actions)
    (hactive : axis.diagnosis.active = true)
    (hrequest : ∃ request, (passReads inputs axis).mode = some request ∧ request ≠ axis.mode ∧
      (axis.mode ≠ .none → inputs.modeExit axis.mode = .error) ∧
      (axis.mode = .none → inputs.modeEnter request = .error))
    (hmapped : ∃ fault, (passReads inputs axis).modeFault.info = some fault ∧
      faultInfoValid fault = true ∧ (passReads inputs axis).modeFault.writable = true) :
    EventCollision inputs axis := by
  obtain ⟨sampled, hsampled, hstarted⟩ := hreset.started
  obtain ⟨fault, hinfo, hvalid, hwritable⟩ := hmapped
  obtain ⟨hclearable, hunfailed⟩ := hreset.cleared
  rw [passReads_controlword] at hsampled
  rw [passReads_clearable] at hclearable
  exact {
    state := hreset.state
    active := hactive
    unfailed := hunfailed
    started := ⟨sampled, by rw [sampledWord, if_neg (by simp [hread]), hsampled], hstarted⟩
    done := hreset.done
    clearable := hclearable
    request := hrequest
    mapped := ⟨fault, hinfo, hvalid, (Bool.and_eq_true_iff.mp hwritable).2⟩ }

/-- Without the collision, a pass makes at most one transition of the diagnosis. -/
theorem PassMove.step {inputs : PassInputs} {axis : Axis} {c' : Control} {actions : List Action}
    (hmove : PassMove inputs (passReads inputs axis) axis.control c' actions)
    (h : axis.control.DiagInvariant) (hsingle : ¬ EventCollision inputs axis) :
    DiagStep axis.diagnosis c'.diagnosis (transitions actions) := by
  obtain ⟨hpoll, hsupervise, hfeedback⟩ := hmove
  rename_i c₁ actions₁ actions₂ feedback
  have hsilent : transitions feedback = [] := by
    refine transitions_eq_nil fun a ha => ?_
    have hkind := hfeedback a ha
    cases a <;> first | rfl | exact absurd hkind Bool.false_ne_true
  rw [transitions_append, transitions_append, hsilent, List.append_nil]
  have hownership := hpoll.ownership h.ownership
  have hpolled := hpoll.step
  by_cases hquiet : transitions actions₁ = []
  · rw [hquiet] at hpolled ⊢
    refine hpolled.after_silent ?_
    cases hsupervise with
    | latched => exact .refl _
    | readFailed _ hentry =>
        rw [transitions_append, reactionCall_silent, List.append_nil]
        exact hentry.step
    | @processed controlword hread c₂ _ actionsFsa actionsModes hfsa hmodes =>
        rw [transitions_append]
        by_cases hfsaQuiet : transitions actionsFsa = []
        · have hstep := hfsa.step hownership
          rw [hfsaQuiet] at hstep ⊢
          exact hstep.after_silent hmodes.step
        · by_cases hfaulted : c₂.state.faulted = true
          · obtain ⟨rfl, rfl⟩ := hmodes.eq_of_faulted hfaulted
            rw [transitions_nil, List.append_nil]
            exact hfsa.step hownership
          · rw [Bool.not_eq_true] at hfaulted
            obtain ⟨hreset, hactive, hstate, hidle, hmode⟩ := hfsa.cleared hfaulted hfsaQuiet
            have hmodesQuiet : transitions actionsModes = [] := by
              by_contra hreported
              obtain rfl : c₁ = axis.control := hpoll.eq_or_entered.resolve_right fun hentered =>
                absurd (hentered.1.symm.trans hreset.state) (by decide)
              obtain ⟨hrequest, hmapped⟩ := hmodes.reported hstate hidle hreported
              rw [hmode] at hrequest
              exact hsingle (eventCollision_of_reset hread hreset hactive hrequest hmapped)
            have hstep := hmodes.step
            rw [hmodesQuiet] at hstep ⊢
            rw [List.append_nil]
            exact (hfsa.step hownership).then_silent hstep
  · -- The poll has latched a product fault: nothing later in the pass reports.
    cases hpoll with
    | gated => exact absurd rfl hquiet
    | clean => exact absurd rfl hquiet
    | fault _ _ _ hentry =>
        obtain ⟨hstep, hsilent⟩ := hsupervise.silent hownership hentry.state (hentry.active hquiet)
        rw [hsilent, List.append_nil]
        exact hpolled.then_silent hstep

/-! ## Runs with one drain after each pass -/

/-- An axis, and the events taken from it so far. -/
structure Drained where
  axis : Axis
  taken : List DiagEvent

def Drained.start (config : ValidAxisConfig) (image : ODImage) (od : ODCache) : Drained where
  axis := boundAxis config image od
  taken := []

/-- One pass, and the drain that follows it. -/
def Drained.pass (drained : Drained) (inputs : PassInputs) : Drained where
  axis := (takePendingEvent (processAxis inputs drained.axis)).1
  taken := drained.taken ++ (takePendingEvent (processAxis inputs drained.axis)).2.toList

/-- The error-status bit after an event, with the report that set it: a report on a
set bit leaves it as it is. -/
def errorBitStep (bit : Option FaultInfo) (event : DiagEvent) : Option FaultInfo :=
  match event.type with
  | .report => bit.or (some event.fault)
  | .reset => none
  | .none => bit

def errorBit (events : List DiagEvent) : Option FaultInfo :=
  events.foldl errorBitStep none

/-- Each REPORT finds no fault reported, and each RESET the fault it names. -/
def Alternates : Option FaultInfo → List DiagEvent → Prop
  | _, [] => True
  | none, event :: events => event.type = .report ∧ Alternates (some event.fault) events
  | some fault, event :: events =>
      event.type = .reset ∧ event.fault = fault ∧ Alternates none events

instance instDecidableAlternates : ∀ bit events, Decidable (Alternates bit events)
  | _, [] => isTrue trivial
  | none, event :: events =>
      have := instDecidableAlternates (some event.fault) events
      inferInstanceAs (Decidable (event.type = .report ∧ Alternates (some event.fault) events))
  | some fault, event :: events =>
      have := instDecidableAlternates none events
      inferInstanceAs
        (Decidable (event.type = .reset ∧ event.fault = fault ∧ Alternates none events))

theorem Alternates.append {bit : Option FaultInfo} {xs ys : List DiagEvent}
    (hxs : Alternates bit xs) (hys : Alternates (xs.foldl errorBitStep bit) ys) :
    Alternates bit (xs ++ ys) := by
  induction xs generalizing bit with
  | nil => exact hys
  | cons event events ih =>
      cases bit with
      | none =>
          obtain ⟨htype, hrest⟩ := hxs
          refine ⟨htype, ih hrest ?_⟩
          rw [List.foldl_cons, errorBitStep, htype] at hys
          exact hys
      | some fault =>
          obtain ⟨htype, hfault, hrest⟩ := hxs
          refine ⟨htype, hfault, ih hrest ?_⟩
          rw [List.foldl_cons, errorBitStep, htype] at hys
          exact hys

/-- The fault that the diagnosis has latched, if any. -/
def latchedFault (axis : Axis) : Option FaultInfo :=
  if axis.diagnosis.active then some axis.diagnosis.fault else none

/-- What a drained run keeps. -/
structure Drained.Invariant (drained : Drained) : Prop where
  diag : drained.axis.control.DiagInvariant
  empty : drained.axis.diagnosis.pending = false
  taken : drained.taken = transitions drained.axis.trace
  alternates : Alternates none drained.taken
  bit : errorBit drained.taken = latchedFault drained.axis

theorem Drained.Invariant.start (config : ValidAxisConfig) (image : ODImage) (od : ODCache) :
    (Drained.start config image od).Invariant where
  diag := diagInvariant_boundAxis config image od
  empty := rfl
  taken := rfl
  alternates := trivial
  bit := rfl

theorem takePendingEvent_frame (axis : Axis) :
    (takePendingEvent axis).1.trace = axis.trace ∧
      (takePendingEvent axis).1.diagnosis.pending = false ∧
      latchedFault (takePendingEvent axis).1 = latchedFault axis ∧
      (axis.control.DiagInvariant → (takePendingEvent axis).1.control.DiagInvariant) := by
  unfold takePendingEvent
  by_cases hpending : axis.diagnosis.pending = true
  · rw [hpending]
    exact ⟨rfl, rfl, rfl, fun h => h.of_diagnosis rfl id⟩
  · rw [Bool.not_eq_true] at hpending
    rw [hpending]
    exact ⟨rfl, hpending, rfl, id⟩

/-- What is drained after a pass is what the pass did to the diagnosis. -/
theorem DiagStep.drained {axis after : Axis} {events : List DiagEvent}
    (h : DiagStep axis.diagnosis after.diagnosis events) (hempty : axis.diagnosis.pending = false) :
    (takePendingEvent after).2.toList = events ∧ Alternates (latchedFault axis) events ∧
      events.foldl errorBitStep (latchedFault axis) = latchedFault after := by
  unfold takePendingEvent latchedFault
  cases h with
  | kept hactive hfault hpending _ =>
      rw [hpending, hempty, hactive, hfault]
      exact ⟨rfl, by cases axis.diagnosis.active <;> trivial, rfl⟩
  | reported htype hbefore hactive hfault hpending hevent =>
      rw [hpending, hbefore, hactive, hfault, hevent]
      refine ⟨rfl, ⟨htype, trivial⟩, ?_⟩
      simp [errorBitStep, htype]
  | cleared htype hbefore horigin hactive hpending hevent =>
      rw [hpending, hbefore, hactive, hevent]
      refine ⟨rfl, ⟨htype, horigin, trivial⟩, ?_⟩
      simp [errorBitStep, htype]

theorem Drained.Invariant.pass {drained : Drained} {inputs : PassInputs} (h : drained.Invariant)
    (hsingle : ¬ EventCollision inputs drained.axis) : (drained.pass inputs).Invariant := by
  obtain ⟨_, actions, hmove, hcontrol, htrace⟩ := h.diag.ownership.passMove inputs
  have hstep := hmove.step h.diag hsingle
  rw [← hcontrol] at hstep
  obtain ⟨htaken, halternates, hbit⟩ := DiagStep.drained hstep h.empty
  obtain ⟨hframe, hpending, hlatched, hdiag⟩ :=
    takePendingEvent_frame (processAxis inputs drained.axis)
  exact {
    diag := hdiag (diagInvariant_processAxis inputs h.diag).1
    empty := hpending
    taken := by
      simp only [Drained.pass]
      rw [hframe, htrace, transitions_append, htaken, h.taken]
    alternates := by
      simp only [Drained.pass]
      rw [htaken]
      refine h.alternates.append ?_
      have hfold : drained.taken.foldl errorBitStep none = latchedFault drained.axis := h.bit
      rw [hfold]
      exact halternates
    bit := by
      have hfold : drained.taken.foldl errorBitStep none = latchedFault drained.axis := h.bit
      simp only [Drained.pass, errorBit]
      rw [htaken, List.foldl_append, hfold, hbit, hlatched] }

/-- No diagnostic event is lost in a run without the collision: the events taken are
the transitions of the diagnosis, REPORT and RESET of one fault alternate, and the
error bit stands for the latched fault. -/
theorem eventsTaken_of_run {config : ValidAxisConfig} {image : ODImage} {od : ODCache}
    {inputs : List PassInputs}
    (hsingle : EveryStep Drained.pass (fun drained next => ¬ EventCollision next drained.axis)
      (Drained.start config image od) inputs) :
    (run Drained.pass (Drained.start config image od) inputs).taken =
        transitions (run Drained.pass (Drained.start config image od) inputs).axis.trace ∧
      Alternates none (run Drained.pass (Drained.start config image od) inputs).taken ∧
      errorBit (run Drained.pass (Drained.start config image od) inputs).taken =
        latchedFault (run Drained.pass (Drained.start config image od) inputs).axis := by
  have hrun : (run Drained.pass (Drained.start config image od) inputs).Invariant :=
    run_invariant_of_everyStep (fun _ _ h hsingle => h.pass hsingle)
      (.start config image od) hsingle
  exact ⟨hrun.taken, hrun.alternates, hrun.bit⟩

/-- The fully bound position-controlled axis, with an empty event log. -/
def cyclicDrained : Drained := .start cyclicValidConfig {} fun _ => some 0

/-- A pass with a present product fault. -/
def faultPass : PassInputs :=
  { getFaultInfo := fun _ => some ⟨0x2310, 0x2310, 1⟩ }

/-- A product fault, and the edge that resets it. -/
def faultThenReset : List PassInputs :=
  [faultPass, { controlword := fun _ => some 0x80 }]

theorem eventsTaken_faultThenReset :
    (run Drained.pass cyclicDrained faultThenReset).taken =
        transitions (run Drained.pass cyclicDrained faultThenReset).axis.trace ∧
      Alternates none (run Drained.pass cyclicDrained faultThenReset).taken ∧
      errorBit (run Drained.pass cyclicDrained faultThenReset).taken =
        latchedFault (run Drained.pass cyclicDrained faultThenReset).axis := by
  refine eventsTaken_of_run ⟨fun h => ?_, fun h => ?_, trivial⟩
  · exact absurd h.state (by decide +kernel)
  · -- The second pass asks for no mode, which is the mode the axis is in.
    obtain ⟨request, hrequest, hne, -⟩ := h.request
    have hasked : (passReads { controlword := fun _ => some 0x80 }
        (cyclicDrained.pass faultPass).axis).mode = some .none := by decide +kernel
    have hmode : (cyclicDrained.pass faultPass).axis.mode = .none := by decide +kernel
    exact hne ((Option.some.inj (hrequest.symm.trans hasked)).trans hmode.symm)

/-- A product fault, and a completed reset whose pass fails to enter the mode that
0x6060 asks for. -/
def resetThenModeError : List PassInputs :=
  [faultPass,
    { controlword := fun _ => some 0x80
      modesOfOperation := fun _ => some 8
      modeEnter := fun _ => .error
      getFaultInfo := fun _ => some ⟨0x6100, 0x6100, 2⟩ }]

/-- The RESET of the first fault is overwritten before it is taken, and the error bit
still stands for that fault when the second one is latched. -/
theorem eventsTaken_loses_reset :
    (run Drained.pass cyclicDrained resetThenModeError).taken ≠
        transitions (run Drained.pass cyclicDrained resetThenModeError).axis.trace ∧
      ¬ Alternates none (run Drained.pass cyclicDrained resetThenModeError).taken ∧
      errorBit (run Drained.pass cyclicDrained resetThenModeError).taken ≠
        latchedFault (run Drained.pass cyclicDrained resetThenModeError).axis ∧
      (transitions (run Drained.pass cyclicDrained resetThenModeError).axis.trace).map
        DiagEvent.type = [.report, .reset, .report] ∧
      (run Drained.pass cyclicDrained resetThenModeError).taken.map DiagEvent.type =
        [.report, .report] := by
  decide +kernel

end CanopenRtt.Cia402.Device
