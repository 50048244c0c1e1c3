import CanopenRtt.Cia402.Device.DriveFollows
import CanopenRtt.Cia402.Device.Preemption
/-!
# A pass that meets no fault

What one supervisor pass does to the PDS state and to the target of the PDS owner
when its Controlword reads agree and it does not end in the fault path, and the
Statusword it then publishes.
-/

namespace CanopenRtt.Cia402.Device

/-- A pass outside the fault path under one Controlword. -/
inductive Undisturbed (controlword : Word) (c c' : Control) : Prop where
  | waiting
      (hquiet : c.Owned ∨ c.state ≠ .notReadyToSwitchOn ∧
        acceptedTransition c.state (pdsCommand controlword) = none)
      (hstate : c'.state = c.state) (htarget : c'.target = c.target)
  | powerUp (hidle : ¬ c.Owned) (hnotReady : c.state = .notReadyToSwitchOn)
      (hstate : c'.state = .switchOnDisabled) (htarget : c'.target = c.target)
  | busy {op : DriveOperation} {target : State} {base : Control}
      (hlatch : Latch (c.sampled controlword) (pdsCommand controlword) op target base)
      (hstate : c'.state = c.state) (htarget : c'.target = target)
  | done {op : DriveOperation} {target : State} {base : Control}
      (hlatch : Latch (c.sampled controlword) (pdsCommand controlword) op target base)
      (hstate : c'.state = target) (htarget : c'.target = .unknown)

/-- The mode machinery leaves the state and the PDS target alone, or enters the
fault path. -/
theorem ModeMove.kept {inputs : PassInputs} {r : Reads} {c c' : Control} {actions : List Action}
    (hmove : ModeMove inputs r c c' actions) (hclean : c'.state.faulted = false) :
    c'.state = c.state ∧ c'.target = c.target := by
  have hentered : ∀ {source : LatchSource} {entry : List Action}, FaultEntry source c c' entry →
      c'.state = c.state ∧ c'.target = c.target := by
    intro source entry hentry
    rw [hentry.state] at hclean
    exact absurd hclean (by decide)
  cases hmove with
  | idle => exact ⟨rfl, rfl⟩
  | active => exact ⟨rfl, rfl⟩
  | activeFailed _ _ _ _ hentry => exact hentered hentry
  | exit _ _ _ _ hcall =>
      cases hcall with
      | busy => exact ⟨rfl, rfl⟩
      | done => exact ⟨rfl, rfl⟩
      | error _ hentry => exact hentered hentry
  | enter _ _ _ _ _ hcall =>
      cases hcall with
      | busy => exact ⟨rfl, rfl⟩
      | done => exact ⟨rfl, rfl⟩
      | error _ hentry => exact hentered hentry

theorem FsaMove.undisturbed {inputs : PassInputs} {r : Reads} {c c' : Control}
    {actions : List Action} {controlword : Word} (hmove : FsaMove inputs r c c' actions)
    (h : c.Ownership) (hread : r.controlword = some controlword)
    (hnormal : c.state.faulted = false) (hclean : c'.state.faulted = false) :
    Undisturbed controlword c c' := by
  have hentered : ∀ {source : LatchSource} {e : Control} {entry : List Action},
      FaultEntry source e c' entry → Undisturbed controlword c c' := by
    intro source e entry hentry
    rw [hentry.state] at hclean
    exact absurd hclean (by decide)
  have hreacted : ∀ {source : LatchSource} {e entered : Control} {entry : List Action},
      FaultEntry source e entered entry → entered.reacted inputs = c' →
        Undisturbed controlword c c' := by
    intro source e entered entry hentry hsame
    have hfaulted := Control.reacted_state entered inputs hentry.state
    rw [hsame] at hfaulted
    exact absurd (hclean.symm.trans hfaulted) Bool.false_ne_true
  have hsampled : ∀ {other : Word}, r.controlword = some other → other = controlword :=
    fun hother => Option.some.inj (hother.symm.trans hread)
  have hfault : c.state ≠ .fault := by
    intro hstate
    rw [hstate] at hnormal
    exact absurd hnormal (by decide)
  cases hmove with
  | skipped hnone => exact absurd (hnone.symm.trans hread) (Option.some_ne_none _).symm
  | readFailed hnone => exact absurd (hnone.symm.trans hread) (Option.some_ne_none _).symm
  | waiting other hother hquiet =>
      obtain rfl := hsampled hother
      exact .waiting hquiet rfl rfl
  | powerUp other hother hidle hstate => exact .powerUp hidle hstate rfl rfl
  | transition other hother hlatch hcall =>
      obtain rfl := hsampled hother
      have hbase := (hlatch.latched (h.sampled other)).state
      cases hcall with
      | busy => exact .busy hlatch hbase rfl
      | done => exact .done hlatch rfl rfl
      | error _ hentry => exact hentered hentry
  | takeoverFailed _ _ _ hentry => exact hreacted hentry rfl
  | reaction _ _ hstate =>
      rw [hstate] at hnormal
      exact absurd hnormal (by decide)
  | resetBusy _ _ hstate => exact absurd hstate hfault
  | resetDone _ _ hstate => exact absurd hstate hfault
  | resetFailed _ _ hstate => exact absurd hstate hfault
  | invalid _ _ hstate => exact absurd hstate h.known

/-- A pass that starts and ends outside the fault path polls no fault. -/
theorem undisturbed_processAxis {inputs : PassInputs} {axis : Axis} {controlword : Word}
    (h : axis.control.Ownership) (hbound : axis.Bound)
    (hread : ∀ site, inputs.controlword site = some controlword)
    (hnormal : axis.state.faulted = false)
    (hclean : (processAxis inputs axis).state.faulted = false) :
    Undisturbed controlword axis.control (processAxis inputs axis).control := by
  obtain ⟨c', actions, ⟨hpoll, hsupervise, -⟩, hcontrol, -⟩ := h.passMove inputs
  have hfinal : c'.state.faulted = false := by
    rw [← hcontrol]
    exact hclean
  have hreads : (passReads inputs axis).controlword = some controlword := by
    rw [passReads_controlword, reads, if_neg (by simp [hbound.controlword, hbound.statusword])]
    exact hread .fsa
  rw [hcontrol]
  cases hsupervise with
  | latched hnone => exact absurd (hnone.symm.trans (hread _)) (Option.some_ne_none _).symm
  | readFailed hnone => exact absurd (hnone.symm.trans (hread _)) (Option.some_ne_none _).symm
  | processed _ _ hfsa hmodes =>
      rcases hpoll.eq_or_entered with rfl | ⟨hentered, hownership⟩
      · obtain ⟨hstate, htarget⟩ := hmodes.kept hfinal
        rw [hstate] at hfinal
        have hfsaMove := hfsa.undisturbed h hreads hnormal hfinal
        cases hfsaMove with
        | waiting hquiet hs ht => exact .waiting hquiet (hstate.trans hs) (htarget.trans ht)
        | powerUp hidle hready hs ht =>
            exact .powerUp hidle hready (hstate.trans hs) (htarget.trans ht)
        | busy hlatch hs ht => exact .busy hlatch (hstate.trans hs) (htarget.trans ht)
        | done hlatch hs ht => exact .done hlatch (hstate.trans hs) (htarget.trans ht)
      · have hfaulted : State.faulted .faultReactionActive = true := rfl
        rw [← hentered] at hfaulted
        rcases hfsa.stays_faulted hownership hfaulted with hstays | hreset
        · obtain ⟨rfl, -⟩ := hmodes.eq_of_faulted hstays
          exact absurd (hfinal.symm.trans hstays) Bool.false_ne_true
        · exact absurd (hentered.symm.trans hreset.state) (by decide)

theorem Undisturbed.powersUp {controlword : Word} {c c' : Control}
    (hmove : Undisturbed controlword c c') (hidle : ¬ c.Owned)
    (hnotReady : c.state = .notReadyToSwitchOn) : c'.state = .switchOnDisabled := by
  have hlatched : ∀ {op : DriveOperation} {target : State} {base : Control} {P : Prop},
      Latch (c.sampled controlword) (pdsCommand controlword) op target base → P := by
    intro op target base P hlatch
    cases hlatch with
    | held hop =>
        refine absurd (.inl ?_) hidle
        rw [show c.operation = some op from hop]
        exact Option.some_ne_none op
    | begun hbegins =>
        cases hbegins with
        | accepted _ haccepted =>
            rw [show (c.sampled controlword).state = .notReadyToSwitchOn
              from hnotReady] at haccepted
            exact absurd haccepted (Option.some_ne_none _).symm
        | disableVoltage howned => exact absurd howned hidle
        | quickStop howned => exact absurd howned hidle
  cases hmove with
  | waiting hquiet =>
      rcases hquiet with howned | ⟨hready, -⟩
      · exact absurd howned hidle
      · exact absurd hnotReady hready
  | powerUp _ _ hstate => exact hstate
  | busy hlatch => exact hlatched hlatch
  | done hlatch => exact hlatched hlatch

/-- An idle axis serves the command it accepts at once. -/
theorem Undisturbed.serves {controlword : Word} {c c' : Control} {op : DriveOperation}
    {target : State} (hmove : Undisturbed controlword c c') (hidle : ¬ c.Owned)
    (haccepted : acceptedTransition c.state (pdsCommand controlword) = some (op, target)) :
    c'.state = target ∨ c'.state = c.state ∧ c'.target = target := by
  have hlatched : ∀ {other : DriveOperation} {next : State} {base : Control},
      Latch (c.sampled controlword) (pdsCommand controlword) other next base → next = target := by
    intro other next base hlatch
    cases hlatch with
    | held hop => exact absurd (.inl (by rw [show c.operation = some other from hop]; simp)) hidle
    | begun hbegins =>
        cases hbegins with
        | accepted _ hother => exact (Prod.mk.inj (Option.some.inj (hother.symm.trans haccepted))).2
        | disableVoltage howned => exact absurd howned hidle
        | quickStop howned => exact absurd howned hidle
  cases hmove with
  | waiting hquiet =>
      rcases hquiet with howned | ⟨-, hrejected⟩
      · exact absurd howned hidle
      · exact absurd (hrejected.symm.trans haccepted) (Option.some_ne_none _).symm
  | powerUp _ hnotReady =>
      rw [hnotReady] at haccepted
      exact absurd haccepted (Option.some_ne_none _).symm
  | busy hlatch hstate htarget => exact .inr ⟨hstate, htarget.trans (hlatched hlatch)⟩
  | done hlatch hstate => exact .inl (hstate.trans (hlatched hlatch))

/-! ## The published Statusword -/

theorem modeStatusword_mask (inputs : PassInputs) (axis : Axis) :
    modeStatusword inputs axis &&& statusMaskLong = 0 := by
  unfold modeStatusword ppStatusword pvStatusword hmStatusword syncStatuswordBits
  cases axis.mode <;> dsimp only <;> first | decide | (split_ifs <;> decide)

theorem decodeStatusword_processAxis {inputs : PassInputs} {axis : Axis}
    (h : axis.control.Ownership) (hwritten : inputs.setStatusword = true) :
    decodeStatusword (processAxis inputs axis).image.statusword =
      (processAxis inputs axis).state := by
  rw [statusword_processAxis, if_pos hwritten]
  exact decodeStatusword_or _ _ (modeStatusword_mask inputs _)
    (ownership_processAxis inputs h).known

theorem bound_processAxis (inputs : PassInputs) {axis : Axis} (h : axis.Bound) :
    (processAxis inputs axis).Bound := by
  refine h.congr ?_
  refine (congrArg Fixed.od (fixed_processAxis inputs axis)).trans ?_
  unfold updateModeRequest
  split <;> rfl

end CanopenRtt.Cia402.Device
