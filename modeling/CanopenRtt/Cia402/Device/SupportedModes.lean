import CanopenRtt.Cia402.Device.Ownership
/-!
# The active mode is a supported one

A mode becomes active only through a request that the axis supports, so a mode callback that
serves it is present in every run.
-/

namespace CanopenRtt.Cia402.Device

/-- The active mode and the mode being entered are among these. -/
structure Control.ModesIn (allowed : Mode → Prop) (c : Control) : Prop where
  active : allowed c.mode
  entering : allowed c.pendingEnterMode

section

variable {allowed : Mode → Prop} {c c' : Control} {actions : List Action}

/-- A move that keeps the mode, and the mode being entered unless it drops it. -/
theorem Control.ModesIn.keep (h : c.ModesIn allowed) (hnone : allowed .none)
    (hmode : c'.mode = c.mode)
    (henter : c'.pendingEnterMode = c.pendingEnterMode ∨ c'.pendingEnterMode = .none) :
    c'.ModesIn allowed := by
  constructor
  · rw [hmode]
    exact h.active
  · rcases henter with hsame | hdropped
    · rw [hsame]
      exact h.entering
    · rw [hdropped]
      exact hnone

theorem FaultEntry.modesIn {source : LatchSource} (hentry : FaultEntry source c c' actions)
    (h : c.ModesIn allowed) (hnone : allowed .none) : c'.ModesIn allowed := by
  obtain ⟨_⟩ := hentry
  exact h.keep hnone rfl (.inr rfl)

theorem Latch.modesIn {base : Control} {command : Command} {op : DriveOperation} {target : State}
    (hlatch : Latch c command op target base) (h : c.ModesIn allowed) (hnone : allowed .none) :
    base.ModesIn allowed := by
  cases hlatch with
  | held => exact h
  | begun hbegins =>
      cases hbegins with
      | accepted => exact h
      | disableVoltage => exact h.keep hnone rfl (.inr rfl)
      | quickStop => exact h.keep hnone rfl (.inr rfl)

theorem FsaMove.modesIn {inputs : PassInputs} {r : Reads} (hmove : FsaMove inputs r c c' actions)
    (h : c.ModesIn allowed) (hnone : allowed .none) : c'.ModesIn allowed := by
  have hsampled : ∀ controlword, (c.sampled controlword).ModesIn allowed := fun _ =>
    h.keep hnone rfl (.inl rfl)
  have hreacted : ∀ {c : Control}, c.ModesIn allowed → (c.reacted inputs).ModesIn allowed :=
    fun h => h.keep hnone rfl (.inl rfl)
  cases hmove with
  | skipped => exact h
  | readFailed _ hentry => exact hreacted (hentry.modesIn h hnone)
  | waiting controlword => exact hsampled controlword
  | powerUp => exact h.keep hnone rfl (.inl rfl)
  | transition controlword _ hlatch hcall =>
      have hbase := hlatch.modesIn (hsampled controlword) hnone
      cases hcall with
      | busy => exact hbase.keep hnone rfl (.inl rfl)
      | done => exact hbase.keep hnone rfl (.inl rfl)
      | error _ hentry => exact hentry.modesIn hbase hnone
  | takeoverFailed controlword _ _ hentry =>
      exact hreacted (hentry.modesIn (hsampled controlword) hnone)
  | reaction controlword => exact hreacted (hsampled controlword)
  | resetBusy => exact h.keep hnone rfl (.inl rfl)
  | resetDone => exact h.keep hnone rfl (.inl rfl)
  | resetFailed _ _ _ _ _ _ hentry => exact hentry.modesIn (h.keep hnone rfl (.inl rfl)) hnone
  | invalid controlword _ _ hentry => exact hentry.modesIn (hsampled controlword) hnone

theorem ModeMove.modesIn {inputs : PassInputs} {r : Reads} (hmove : ModeMove inputs r c c' actions)
    (h : c.ModesIn allowed) (hnone : allowed .none)
    (hrequest : ∀ mode, r.mode = some mode → allowed mode) : c'.ModesIn allowed := by
  cases hmove with
  | idle => exact h
  | active => exact h
  | activeFailed _ _ _ _ hentry => exact hentry.modesIn h hnone
  | exit _ _ _ _ hcall =>
      cases hcall with
      | busy => exact h.keep hnone rfl (.inl rfl)
      | done =>
          refine ⟨?_, h.entering⟩
          dsimp only
          split_ifs
          · exact hnone
          · exact h.active
      | error _ hentry => exact hentry.modesIn h hnone
  | @enter mode _ _ _ _ hlatch _ _ hcall =>
      have hmode : allowed mode := by
        rcases hlatch with hpending | ⟨-, -, hasked⟩
        · rw [← hpending]
          exact h.entering
        · exact hrequest mode hasked
      cases hcall with
      | busy => exact ⟨h.active, hmode⟩
      | done => exact ⟨hmode, hnone⟩
      | error _ hentry => exact hentry.modesIn h hnone

theorem PollMove.modesIn {inputs : PassInputs} (hmove : PollMove inputs c c' actions)
    (h : c.ModesIn allowed) (hnone : allowed .none) : c'.ModesIn allowed := by
  cases hmove with
  | gated => exact h
  | clean => exact h
  | fault _ _ _ hentry => exact hentry.modesIn h hnone

theorem SuperviseMove.modesIn {inputs : PassInputs} {r : Reads}
    (hmove : SuperviseMove inputs r c c' actions) (h : c.ModesIn allowed) (hnone : allowed .none)
    (hrequest : ∀ mode, r.mode = some mode → allowed mode) : c'.ModesIn allowed := by
  cases hmove with
  | latched => exact h
  | readFailed _ hentry => exact (hentry.modesIn h hnone).keep hnone rfl (.inl rfl)
  | processed _ _ hfsa hmodes => exact hmodes.modesIn (hfsa.modesIn h hnone) hnone hrequest

end

/-! ## Supported modes -/

/-- The modes that these capabilities allow. -/
def SupportedBy (supportedModes : BitVec 32) (mode : Mode) : Prop :=
  mode = .none ∨ supportedModes &&& modeCapabilityBit mode ≠ 0

theorem supportedBy_of_wanted {axis : Axis} {mode : Mode} (h : wantedMode axis = some mode) :
    SupportedBy axis.supportedModes mode := by
  unfold wantedMode at h
  split_ifs at h
  cases hraw : modeFromRaw axis.requestedModeRaw with
  | none =>
      rw [hraw] at h
      cases h
  | some requested =>
      rw [hraw] at h
      dsimp only at h
      split_ifs at h with hsupported
      obtain rfl := Option.some.inj h
      unfold modeSupported at hsupported
      unfold SupportedBy
      simp only [Bool.or_eq_true, Bool.and_eq_true, decide_eq_true_eq, bne_iff_ne] at hsupported
      exact hsupported.imp_right And.right

theorem supportedModes_processAxis (inputs : PassInputs) (axis : Axis) :
    (processAxis inputs axis).supportedModes = axis.supportedModes := by
  refine (congrArg Fixed.supportedModes (fixed_processAxis inputs axis)).trans ?_
  unfold updateModeRequest
  split <;> rfl

/-- A pass activates supported modes only. -/
theorem supported_processAxis (inputs : PassInputs) {axis : Axis}
    (hown : axis.control.Ownership) (h : axis.control.ModesIn (SupportedBy axis.supportedModes)) :
    (processAxis inputs axis).control.ModesIn
      (SupportedBy (processAxis inputs axis).supportedModes) := by
  obtain ⟨_, _, ⟨hpoll, hsupervise, -⟩, hcontrol, -⟩ := hown.passMove inputs
  rw [supportedModes_processAxis, hcontrol]
  refine hsupervise.modesIn (hpoll.modesIn h (.inl rfl)) (.inl rfl) fun mode hmode => ?_
  have hwanted : wantedMode (updateModeRequest inputs axis) = some mode := hmode
  have hsame : (updateModeRequest inputs axis).supportedModes = axis.supportedModes := by
    unfold updateModeRequest
    split <;> rfl
  rw [← hsame]
  exact supportedBy_of_wanted hwanted

theorem supportedModes_publishAxis (writes : LogicalDevice → BindWrites) (axis : Axis) :
    (publishAxis writes axis).1.supportedModes = axis.supportedModes := by
  unfold publishAxis restoreAxis
  dsimp only
  split_ifs <;> rfl

/-- The active mode of an axis is supported in every run. -/
theorem AxisReachable.supported {axis : Axis} (h : AxisReachable axis) :
    axis.control.ModesIn (SupportedBy axis.supportedModes) := by
  induction h with
  | init => exact ⟨.inl rfl, .inl rfl⟩
  | publishInitial _ _ ih => exact ih
  | validate _ od ih =>
      rw [validateAxis_cacheOnly od]
      exact ih
  | publish _ writes ih =>
      obtain ⟨d, hcontrol⟩ := control_publishAxis writes _
      rw [supportedModes_publishAxis, hcontrol]
      exact ⟨ih.active, ih.entering⟩
  | pass hreachable inputs ih => exact supported_processAxis inputs hreachable.ownership ih
  | sync _ inputs sequence ih =>
      rw [(syncAxis_only inputs sequence _).eq]
      exact ih
  | reset _ ih => exact ih

end CanopenRtt.Cia402.Device
