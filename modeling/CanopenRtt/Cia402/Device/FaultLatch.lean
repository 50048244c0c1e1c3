import CanopenRtt.Cia402.Device.DiagContract
/-!
# The fault latch over runs

An axis leaves the fault path only when a completed faultReset clears the
diagnosis. `Watch` adds to an axis the last Controlword its FSA sampled, so that
the edge which began the reset can be named. The sampled bit 7 starts at 0
before anything has been sampled, so a run whose first sample already finds the
axis in FAULT with bit 7 high is not covered.
-/

namespace CanopenRtt.Cia402.Device

open CanopenRtt.Support

/-- The Controlword that the FSA samples in a pass, if both reads succeed. -/
def sampledWord (inputs : PassInputs) (axis : Axis) : Option Word :=
  if inputs.controlword .snapshot = none then none else (reads inputs axis).controlword

/-- An axis, and the last Controlword it sampled. -/
structure Watch where
  axis : Axis
  last : Option Word

def Watch.pass (watch : Watch) (inputs : PassInputs) : Watch where
  axis := processAxis inputs watch.axis
  last := (sampledWord inputs watch.axis).or watch.last

/-- A newly bound axis, before its first pass. -/
def Watch.start (config : ValidAxisConfig) (image : ODImage) (od : ODCache) : Watch where
  axis := boundAxis config image od
  last := none

/-- The axis is in FAULT_REACTION_ACTIVE or FAULT. -/
def Watch.InFault (watch : Watch) : Prop :=
  watch.axis.state = .faultReactionActive ∨ watch.axis.state = .fault

instance (watch : Watch) : Decidable watch.InFault := by unfold Watch.InFault; infer_instance

/-! ## One pass -/

theorem FaultEntry.bit7 {source : LatchSource} {c c' : Control} {actions : List Action}
    (h : FaultEntry source c c' actions) :
    c'.faultResetBitPrevious = c.faultResetBitPrevious := by
  obtain ⟨_⟩ := h
  rfl

theorem Latch.bit7 {c base : Control} {command : Command} {op : DriveOperation} {target : State}
    (h : Latch c command op target base) :
    base.faultResetBitPrevious = c.faultResetBitPrevious := by
  cases h with
  | held => rfl
  | begun hbegins => cases hbegins <;> rfl

theorem FsaMove.bit7 {inputs : PassInputs} {r : Reads} {c c' : Control} {actions : List Action}
    (h : FsaMove inputs r c c' actions) :
    c'.faultResetBitPrevious = (r.controlword.map faultResetBit).getD c.faultResetBitPrevious := by
  cases h with
  | skipped hread => rw [hread]; rfl
  | readFailed hread hentry => rw [hread]; exact hentry.bit7
  | waiting _ hread _ => rw [hread]; rfl
  | powerUp _ hread _ _ => rw [hread]; rfl
  | transition controlword hread hlatch hcall =>
      rw [hread]
      have hbase := hlatch.bit7
      cases hcall with
      | busy => exact hbase
      | done => exact hbase
      | error _ hentry => exact hentry.bit7.trans hbase
  | takeoverFailed _ hread _ hentry => rw [hread]; exact hentry.bit7
  | reaction _ hread _ => rw [hread]; rfl
  | resetBusy _ hread _ _ _ _ => rw [hread]; rfl
  | resetDone _ hread _ _ _ _ _ _ _ => rw [hread]; rfl
  | resetFailed _ hread _ _ _ _ hentry => rw [hread]; exact hentry.bit7
  | invalid _ hread _ hentry => rw [hread]; exact hentry.bit7

theorem ModeMove.bit7 {inputs : PassInputs} {r : Reads} {c c' : Control}
    {actions : List Action} (h : ModeMove inputs r c c' actions) :
    c'.faultResetBitPrevious = c.faultResetBitPrevious := by
  cases h with
  | idle => rfl
  | active => rfl
  | activeFailed _ _ _ _ hentry => exact hentry.bit7
  | exit _ _ _ _ hcall =>
      cases hcall with
      | busy => rfl
      | done => rfl
      | error _ hentry => exact hentry.bit7
  | enter _ _ _ _ _ hcall =>
      cases hcall with
      | busy => rfl
      | done => rfl
      | error _ hentry => exact hentry.bit7

/-- A pass stores the bit 7 it samples, and nothing else changes it. -/
theorem PassMove.bit7 {inputs : PassInputs} {axis : Axis} {c c' : Control}
    {actions : List Action} (h : PassMove inputs (passReads inputs axis) c c' actions) :
    c'.faultResetBitPrevious =
      ((sampledWord inputs axis).map faultResetBit).getD c.faultResetBitPrevious := by
  obtain ⟨hpoll, hsupervise, -⟩ := h
  rename_i c₁ _ _ _
  have hpolled : c₁.faultResetBitPrevious = c.faultResetBitPrevious := by
    cases hpoll with
    | gated => rfl
    | clean => rfl
    | fault _ _ _ hentry => exact hentry.bit7
  unfold sampledWord
  cases hsupervise with
  | latched hread _ =>
      rw [if_pos hread]
      exact hpolled
  | readFailed hread hentry =>
      rw [if_pos hread]
      exact hentry.bit7.trans hpolled
  | processed _ hread hfsa hmodes =>
      rw [if_neg (by rw [hread]; exact Option.some_ne_none _), hmodes.bit7, hfsa.bit7, hpolled,
        passReads_controlword]

/-- The one move that leaves the fault path: a completed, cleared reset. -/
structure ResetCompletes (inputs : PassInputs) (r : Reads) (c : Control)
    (actions : List Action) : Prop where
  state : c.state = .fault
  started : ∃ controlword, r.controlword = some controlword ∧
    (c.faultResetInProgress = true ∨
      faultResetBit controlword = true ∧ c.faultResetBitPrevious = false)
  done : inputs.operation .faultReset = .done
  called : .operation .faultReset .done ∈ actions
  cleared : r.clearable = true ∧ c.diagnosis.contractFailed = false

theorem FsaMove.stays_faulted {inputs : PassInputs} {r : Reads} {c c' : Control}
    {actions : List Action} (hmove : FsaMove inputs r c c' actions) (h : c.Ownership)
    (hstate : c.state.faulted = true) :
    c'.state.faulted = true ∨ ResetCompletes inputs r c actions := by
  have hreacted : ∀ {source : LatchSource} {e c₁ : Control} {entry : List Action},
      FaultEntry source e c₁ entry →
      (c₁.reacted inputs).state.faulted = true :=
    fun hentry => Control.reacted_state _ inputs hentry.state
  cases hmove with
  | skipped => exact .inl hstate
  | readFailed _ hentry => exact .inl (hreacted hentry)
  | waiting => exact .inl hstate
  | powerUp _ _ _ hnotReady =>
      rw [hnotReady] at hstate
      exact absurd hstate (by decide)
  | transition controlword _ hlatch hcall =>
      have hnormal := (hlatch.latched (h.sampled controlword)).normal
      exact absurd (hnormal.symm.trans hstate) Bool.false_ne_true
  | takeoverFailed _ _ _ hentry => exact .inl (hreacted hentry)
  | reaction controlword _ hreaction =>
      exact .inl (Control.reacted_state (c.sampled controlword) inputs hreaction)
  | resetBusy => exact .inl hstate
  | resetDone controlword hread hfault _ hstart hresult hclearable hcontract _ =>
      exact .inr ⟨hfault, ⟨controlword, hread, hstart⟩, hresult, List.mem_cons_self, hclearable,
        hcontract⟩
  | resetFailed _ _ _ _ _ _ hentry => exact .inl (by rw [hentry.state]; rfl)
  | invalid _ _ _ hentry => exact .inl (by rw [hentry.state]; rfl)

theorem ModeMove.eq_of_faulted {inputs : PassInputs} {r : Reads} {c c' : Control}
    {actions : List Action} (hmove : ModeMove inputs r c c' actions)
    (hstate : c.state.faulted = true) :
    c' = c ∧ actions = [] := by
  cases hmove with
  | idle => exact ⟨rfl, rfl⟩
  | active _ henabled _ _ =>
      rw [henabled] at hstate
      exact absurd hstate (by decide)
  | activeFailed _ henabled _ _ _ =>
      rw [henabled] at hstate
      exact absurd hstate (by decide)
  | exit _ _ hallowed _ _ =>
      rw [modeTransitionAllowed_not_faulted hallowed] at hstate
      exact absurd hstate Bool.false_ne_true
  | enter _ _ _ hallowed _ _ =>
      rw [modeTransitionAllowed_not_faulted hallowed] at hstate
      exact absurd hstate Bool.false_ne_true

theorem PollMove.eq_of_faulted {inputs : PassInputs} {c c' : Control} {actions : List Action}
    (hmove : PollMove inputs c c' actions) (h : c.Diagnosed) (hstate : c.state.faulted = true) :
    c' = c ∧ actions = [] := by
  have hrecorded := h.faulted_recorded hstate
  cases hmove with
  | gated => exact ⟨rfl, rfl⟩
  | clean hactive hcontract _ =>
      rw [hactive, hcontract] at hrecorded
      exact absurd hrecorded (by decide)
  | fault hactive hcontract _ _ =>
      rw [hactive, hcontract] at hrecorded
      exact absurd hrecorded (by decide)

theorem PassMove.stays_faulted {inputs : PassInputs} {r : Reads} {c c' : Control}
    {actions : List Action} (hmove : PassMove inputs r c c' actions) (h : c.DiagInvariant)
    (hstate : c.state.faulted = true) :
    c'.state.faulted = true ∨
      inputs.controlword .snapshot ≠ none ∧ ResetCompletes inputs r c actions := by
  obtain ⟨hpoll, hsupervise, -⟩ := hmove
  obtain ⟨rfl, rfl⟩ := hpoll.eq_of_faulted h.diagnosed hstate
  cases hsupervise with
  | latched => exact .inl hstate
  | readFailed _ hentry => exact .inl (Control.reacted_state _ inputs hentry.state)
  | processed _ hread hfsa hmodes =>
      rcases hfsa.stays_faulted h.ownership hstate with hfaulted | hreset
      · obtain ⟨rfl, -⟩ := hmodes.eq_of_faulted hfaulted
        exact .inl hfaulted
      · refine .inr ⟨by rw [hread]; exact Option.some_ne_none _, { hreset with called := ?_ }⟩
        exact List.mem_append_left _ (List.mem_append_right _
          (List.mem_append_left _ hreset.called))

/-- The FSA accepts a new reset only on an edge, in FAULT. -/
structure ResetStarts (inputs : PassInputs) (r : Reads) (c : Control)
    (actions : List Action) : Prop where
  state : c.state = .fault
  idle : c.faultResetInProgress = false
  busy : inputs.operation .faultReset = .busy
  called : .operation .faultReset .busy ∈ actions
  edge : ∃ high, r.controlword = some high ∧ faultResetBit high = true ∧
    c.faultResetBitPrevious = false

theorem FsaMove.resetting {inputs : PassInputs} {r : Reads} {c c' : Control}
    {actions : List Action} (hmove : FsaMove inputs r c c' actions) (h : c.Ownership)
    (hreset : c'.faultResetInProgress = true) :
    c.faultResetInProgress = true ∨ ResetStarts inputs r c actions := by
  have hentered : ∀ {source : LatchSource} {e c₁ : Control} {entry : List Action},
      FaultEntry source e c₁ entry →
      c₁.faultResetInProgress ≠ true := by
    intro source e c₁ entry hentry
    rw [hentry.idle.2.2]
    exact Bool.false_ne_true
  cases hmove with
  | skipped => exact .inl hreset
  | readFailed _ hentry => exact (hentered hentry hreset).elim
  | waiting => exact .inl hreset
  | powerUp => exact .inl hreset
  | transition controlword _ hlatch hcall =>
      have hreleased := (hlatch.latched (h.sampled controlword)).reset
      cases hcall with
      | busy => exact absurd (hreleased.symm.trans hreset) Bool.false_ne_true
      | done => exact absurd (hreleased.symm.trans hreset) Bool.false_ne_true
      | error _ hentry => exact absurd hreset (hentered hentry)
  | takeoverFailed _ _ _ hentry => exact (hentered hentry hreset).elim
  | reaction => exact .inl hreset
  | resetBusy controlword hread hstate _ hstart hbusy =>
      by_cases hactive : c.faultResetInProgress = true
      · exact .inl hactive
      · exact .inr ⟨hstate, Bool.eq_false_of_not_eq_true hactive, hbusy, List.mem_cons_self,
          controlword, hread, hstart.resolve_left hactive⟩
  | resetDone => exact absurd hreset Bool.false_ne_true
  | resetFailed _ _ _ _ _ _ hentry => exact absurd hreset (hentered hentry)
  | invalid _ _ _ hentry => exact absurd hreset (hentered hentry)

theorem ModeMove.resetting {inputs : PassInputs} {r : Reads} {c c' : Control}
    {actions : List Action} (hmove : ModeMove inputs r c c' actions)
    (hreset : c'.faultResetInProgress = true) :
    c.faultResetInProgress = true := by
  have hentered : ∀ {source : LatchSource} {entry : List Action}, FaultEntry source c c' entry →
      c.faultResetInProgress = true := by
    intro source entry hentry
    rw [hentry.idle.2.2] at hreset
    exact absurd hreset Bool.false_ne_true
  cases hmove with
  | idle => exact hreset
  | active => exact hreset
  | activeFailed _ _ _ _ hentry => exact hentered hentry
  | exit _ _ _ _ hcall =>
      cases hcall with
      | busy => exact hreset
      | done => exact hreset
      | error _ hentry => exact hentered hentry
  | enter _ _ _ _ _ hcall =>
      cases hcall with
      | busy => exact hreset
      | done => exact hreset
      | error _ hentry => exact hentered hentry

/-- A reset in progress after a pass was in progress before it or started in it. -/
theorem PassMove.resetting {inputs : PassInputs} {r : Reads} {c c' : Control}
    {actions : List Action} (hmove : PassMove inputs r c c' actions) (h : c.DiagInvariant)
    (hreset : c'.faultResetInProgress = true) :
    c.faultResetInProgress = true ∨
      inputs.controlword .snapshot ≠ none ∧ ResetStarts inputs r c actions := by
  obtain ⟨hpoll, hsupervise, -⟩ := hmove
  rename_i c₁ _ _ _
  have hentered : ∀ {source : LatchSource} {e c₁ : Control} {entry : List Action},
      FaultEntry source e c₁ entry →
      c₁.faultResetInProgress ≠ true := by
    intro source e c₁ entry hentry
    rw [hentry.idle.2.2]
    exact Bool.false_ne_true
  have hpolled : c₁.faultResetInProgress = true → c.faultResetInProgress = true := by
    cases hpoll with
    | gated => exact id
    | clean => exact id
    | fault _ _ _ hentry => exact fun hreset => absurd hreset (hentered hentry)
  cases hsupervise with
  | latched => exact .inl (hpolled hreset)
  | readFailed _ hentry => exact (hentered hentry hreset).elim
  | processed _ hread hfsa hmodes =>
      rcases hfsa.resetting (hpoll.ownership h.ownership) (hmodes.resetting hreset) with
        hheld | hstarts
      · exact .inl (hpolled hheld)
      · -- The axis is in FAULT, so the poll has not moved it there.
        have hfaulted : c.state.faulted = true := by
          by_contra hnormal
          cases hpoll with
          | gated => exact hnormal (by rw [hstarts.state]; rfl)
          | clean => exact hnormal (by rw [hstarts.state]; rfl)
          | fault _ _ _ hentry =>
              exact absurd (hentry.state.symm.trans hstarts.state) (by decide)
        obtain ⟨rfl, rfl⟩ := hpoll.eq_of_faulted h.diagnosed hfaulted
        refine .inr ⟨by rw [hread]; exact Option.some_ne_none _, { hstarts with called := ?_ }⟩
        exact List.mem_append_left _ (List.mem_append_right _
          (List.mem_append_left _ hstarts.called))

/-! ## Runs -/

/-- What a run knows of its watched axis. -/
structure Watch.Invariant (watch : Watch) : Prop where
  diag : watch.axis.control.DiagInvariant
  bit7 : watch.axis.faultResetBitPrevious = (watch.last.map faultResetBit).getD false

theorem Watch.Invariant.pass {watch : Watch} (h : watch.Invariant) (inputs : PassInputs) :
    (watch.pass inputs).Invariant := by
  obtain ⟨_, _, hmove, rfl, -⟩ := h.diag.ownership.passMove inputs
  refine ⟨(hmove.diagInvariant h.diag).1, ?_⟩
  have hbit7 : (processAxis inputs watch.axis).faultResetBitPrevious =
      ((sampledWord inputs watch.axis).map faultResetBit).getD
        watch.axis.faultResetBitPrevious := hmove.bit7
  rw [Watch.pass, hbit7, h.bit7]
  cases sampledWord inputs watch.axis <;> rfl

theorem Watch.Invariant.start (config : ValidAxisConfig) (image : ODImage) (od : ODCache) :
    (Watch.start config image od).Invariant :=
  ⟨diagInvariant_boundAxis config image od, rfl⟩

/-- The pass samples bit 7 going from 0 to 1, against an earlier successful sample. -/
def ObservedEdge (watch : Watch) (inputs : PassInputs) : Prop :=
  ∃ low high, watch.last = some low ∧ sampledWord inputs watch.axis = some high ∧
    faultResetBit low = false ∧ faultResetBit high = true

/-- The pass reaches the FAULT handler and starts faultReset on an observed edge. -/
structure ResetBegins (watch : Watch) (inputs : PassInputs) : Prop where
  state : watch.axis.state = .fault
  idle : watch.axis.faultResetInProgress = false
  called : ∃ actions, (processAxis inputs watch.axis).trace = watch.axis.trace ++ actions ∧
    .operation .faultReset (inputs.operation .faultReset) ∈ actions
  edge : ObservedEdge watch inputs

/-- The transaction is still the axis's own when the pass begins. -/
structure ResetHeld (watch : Watch) (_ : PassInputs) : Prop where
  state : watch.axis.state = .fault
  active : watch.axis.faultResetInProgress = true

/-- The pass completes a faultReset in FAULT, and the diagnosis clears. -/
structure Released (watch : Watch) (inputs : PassInputs) : Prop where
  state : watch.axis.state = .fault
  called : ∃ actions, (processAxis inputs watch.axis).trace = watch.axis.trace ++ actions ∧
    .operation .faultReset .done ∈ actions
  cleared : (diagClear inputs watch.axis).2 = true

/-- The run does not sample its first Controlword in FAULT with bit 7 high. -/
def FirstSampleLow (watch : Watch) (inputs : PassInputs) : Prop :=
  watch.last = none → watch.axis.state = .fault →
    ∀ first, sampledWord inputs watch.axis = some first → faultResetBit first = false

theorem observedEdge_of_sampled {watch : Watch} {inputs : PassInputs} (h : watch.Invariant)
    (hfirst : FirstSampleLow watch inputs) (hstate : watch.axis.state = .fault)
    (hread : inputs.controlword .snapshot ≠ none) {high : Word}
    (hhigh : (reads inputs watch.axis).controlword = some high)
    (hbit : faultResetBit high = true) (hprevious : watch.axis.faultResetBitPrevious = false) :
    ObservedEdge watch inputs := by
  have hsampled : sampledWord inputs watch.axis = some high := by
    rw [sampledWord, if_neg hread]
    exact hhigh
  cases hlast : watch.last with
  | none =>
      have hlow := hfirst hlast hstate high hsampled
      exact absurd (hlow.symm.trans hbit) Bool.false_ne_true
  | some low =>
      have hlow : faultResetBit low = false := by
        rw [← hprevious, h.bit7, hlast]
        rfl
      exact ⟨low, high, hlast, hsampled, hlow, hbit⟩

/-- A transaction in progress has been held since an observed edge in FAULT. -/
theorem resetHeldSince {config : ValidAxisConfig} {image : ODImage} {od : ODCache}
    {inputs : List PassInputs}
    (hfirst : EveryStep Watch.pass FirstSampleLow (Watch.start config image od) inputs)
    (h : (run Watch.pass (Watch.start config image od) inputs).axis.faultResetInProgress = true) :
    HeldSince Watch.pass ResetBegins ResetHeld (Watch.start config image od) inputs := by
  refine heldSince_of_latch Watch.Invariant (fun watch => watch.axis.faultResetInProgress = true)
    (fun _ _ hinv _ => hinv.pass _) ?_ (Watch.Invariant.start config image od)
    Bool.false_ne_true hfirst h
  intro watch inputs hinv hfirst hreset
  obtain ⟨_, actions, hmove, hcontrol, htrace⟩ := hinv.diag.ownership.passMove inputs
  have hafter : (processAxis inputs watch.axis).control.faultResetInProgress = true := hreset
  rw [hcontrol] at hafter
  rcases hmove.resetting hinv.diag hafter with hheld | ⟨hread, hstarts⟩
  · exact .inr ⟨hheld, hinv.diag.ownership.reset_state hheld, hheld⟩
  · obtain ⟨high, hhigh, hbit, hprevious⟩ := hstarts.edge
    rw [passReads_controlword] at hhigh
    refine .inl ⟨hstarts.state, hstarts.idle, ⟨actions, htrace, ?_⟩,
      observedEdge_of_sampled hinv hfirst hstarts.state hread hhigh hbit hprevious⟩
    rw [hstarts.busy]
    exact hstarts.called

/-- The fault latch, over every run that does not sample its first Controlword in
FAULT with bit 7 high: the axis leaves the fault path only by a completed reset
that an edge observed in FAULT has begun. -/
theorem faultLatch_of_run {config : ValidAxisConfig} {image : ODImage} {od : ODCache}
    {inputs : List PassInputs} {next : PassInputs}
    (hfirst : EveryStep Watch.pass FirstSampleLow (Watch.start config image od)
      (inputs ++ [next]))
    (hfault : (run Watch.pass (Watch.start config image od) inputs).InFault)
    (hleft : ¬ (run Watch.pass (Watch.start config image od) (inputs ++ [next])).InFault) :
    Released (run Watch.pass (Watch.start config image od) inputs) next ∧
      (ResetBegins (run Watch.pass (Watch.start config image od) inputs) next ∨
        HeldSince Watch.pass ResetBegins ResetHeld (Watch.start config image od) inputs) := by
  obtain ⟨hearlier, hlast, -⟩ := (everyStep_append _ inputs [next]).mp hfirst
  have hheld := fun hreset => resetHeldSince hearlier hreset
  rw [run_concat] at hleft
  have hinv : (run Watch.pass (Watch.start config image od) inputs).Invariant :=
    run_invariant (fun _ inputs h => h.pass inputs) (.start config image od) inputs
  generalize run Watch.pass (Watch.start config image od) inputs = watch at *
  rw [Watch.InFault, ← faulted_iff] at hfault hleft
  obtain ⟨_, actions, hmove, hcontrol, htrace⟩ := hinv.diag.ownership.passMove next
  have hnormal : ¬ (processAxis next watch.axis).control.state.faulted = true := hleft
  rw [hcontrol] at hnormal
  obtain ⟨hread, hreset⟩ := (hmove.stays_faulted hinv.diag hfault).resolve_left hnormal
  have hcleared : (diagClear next watch.axis).2 = true := by
    obtain ⟨hclearable, hcontract⟩ := hreset.cleared
    rw [passReads_clearable] at hclearable
    have hwritable : ((watch.axis.od .errorCode).isNone || !next.clearErrorCode) = false := by
      simpa [reads, Option.isSome_iff_ne_none] using hclearable
    unfold diagClear
    rw [if_neg (Bool.not_eq_true _ ▸ hcontract),
      if_neg (by rw [hwritable]; exact Bool.false_ne_true)]
    split_ifs <;> rfl
  refine ⟨⟨hreset.state, ⟨actions, htrace, hreset.called⟩, hcleared⟩, ?_⟩
  by_cases hactive : watch.axis.faultResetInProgress = true
  · exact .inr (hheld hactive)
  · obtain ⟨high, hhigh, hstarted⟩ := hreset.started
    obtain ⟨hbit, hprevious⟩ := hstarted.resolve_left hactive
    rw [passReads_controlword] at hhigh
    refine .inl ⟨hreset.state, Bool.eq_false_of_not_eq_true hactive, ⟨actions, htrace, ?_⟩,
      observedEdge_of_sampled hinv hlast hreset.state hread hhigh hbit hprevious⟩
    rw [hreset.done]
    exact hreset.called

/-- The watched form of a fully bound position-controlled axis. -/
def cyclicWatch : Watch := .start cyclicValidConfig {} fun _ => some 0

/-- A mapping for every internal origin, and a product without a fault. -/
def mappedFault : FaultOrigin → Option FaultInfo
  | .product => none
  | _ => some ⟨0x8100, 0x8100, 1⟩

/-- A product fault that is reset by an edge. -/
theorem faultLatch_resetByEdge :
    let fault : PassInputs := { getFaultInfo := fun _ => some ⟨0x2310, 0x2310, 1⟩ }
    let reset : PassInputs := { controlword := fun _ => some 0x80 }
    Released (run Watch.pass cyclicWatch [fault]) reset ∧
      (ResetBegins (run Watch.pass cyclicWatch [fault]) reset ∨
        HeldSince Watch.pass ResetBegins ResetHeld cyclicWatch [fault]) := by
  intro fault reset
  refine faultLatch_of_run ⟨fun _ hstate => ?_, fun hlast _ => ?_, trivial⟩ ?_ ?_
  · exact absurd hstate (by decide +kernel)
  · exact absurd hlast (by decide +kernel)
  · decide +kernel
  · decide +kernel

/-- An axis that reaches FAULT before its first successful Controlword read is
reset by a bit 7 that was high in that first read. -/
theorem faultLatch_firstSampleHigh :
    let failed : PassInputs := { controlword := fun _ => none, getFaultInfo := mappedFault }
    let high : PassInputs := { controlword := fun _ => some 0x80, getFaultInfo := mappedFault }
    (run Watch.pass cyclicWatch [failed]).axis.state = .fault ∧
      (run Watch.pass cyclicWatch [failed, high]).axis.state = .switchOnDisabled ∧
      ¬ (ResetBegins (run Watch.pass cyclicWatch [failed]) high ∨
        HeldSince Watch.pass ResetBegins ResetHeld cyclicWatch [failed]) := by
  intro failed high
  refine ⟨by decide +kernel, by decide +kernel, ?_⟩
  have hunread : (run Watch.pass cyclicWatch [failed]).last = none := by decide +kernel
  rintro (hbegins | ⟨before, input, after, hsplit, hbegins, -⟩)
  · obtain ⟨low, -, hlow, -⟩ := hbegins.edge
    rw [hunread] at hlow
    exact absurd hlow (Option.some_ne_none low).symm
  · obtain ⟨low, -, hlow, -⟩ := hbegins.edge
    cases before with
    | nil => exact absurd hlow (Option.some_ne_none low).symm
    | cons first rest => simp at hsplit

end CanopenRtt.Cia402.Device
