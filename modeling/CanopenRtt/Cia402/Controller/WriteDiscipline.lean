import CanopenRtt.Cia402.Controller.ClientMoves
/-!
# The Fault Reset pulse on the wire

The Controlwords that a client gets accepted by the remote axis inherit the pulse
discipline of the core, whatever calls and transfers fail: the pending update and
the pulse flag together walk through five phases.
-/

namespace CanopenRtt.Cia402.Controller

open CanopenRtt.Support CanopenRtt.Profile

/-- The client after a list of calls. -/
def clientAfter (client : Client) (calls : List ClientCall) : Client :=
  run clientStep client calls

/-- The complete Controlwords accepted by the remote axis, in order. -/
def writes (client : Client) (calls : List ClientCall) : List Word :=
  outputs clientStep written client calls

/-- A Fault Reset edge that waits for its acceptance. -/
structure EdgePending (client : Client) (update : ControlwordUpdate) : Prop where
  pending : client.pendingUpdateValid = true
  edge : client.pendingFaultResetEdge = true
  update_eq : client.pendingUpdate = update

/-- An update of the PDS bits and of no others. -/
structure ControlwordUpdate.Owned (update : ControlwordUpdate) : Prop where
  valid : update.valid = true
  mask : update.mask = pdsControlwordMask

theorem owned_lowUpdate : lowUpdate.Owned := ⟨rfl, rfl⟩

theorem owned_process {axis : Axis} {feedback : Feedback} {elapsed : UInt32}
    (hvalid : (process axis feedback elapsed).2.valid = true) :
    (process axis feedback elapsed).2.Owned := by
  have hprocessed := process_processed axis feedback elapsed
  generalize process axis feedback elapsed = outcome at hvalid hprocessed ⊢
  refine ⟨hvalid, ?_⟩
  cases hprocessed with
  | low result hpulse => rfl
  | high hpulse hview hrequest => rfl
  | command transition hpulse state hview hstate htarget hdistant hopen =>
      exact commandUpdate_mask _ hvalid
  | _ => exact absurd hvalid Bool.false_ne_true

theorem faultResetBit_owned (read : Word) {update : ControlwordUpdate} (h : update.Owned) :
    faultResetBit (applyControlwordUpdate read update) = update.high := by
  rw [faultResetBit_apply read h.valid h.mask, ControlwordUpdate.high, h.valid, Bool.true_and]

/-! ## The phases of a pulse -/

/-- Where the pulse stands, and whether the last accepted Controlword had bit 7. -/
inductive PulsePhase (client : Client) : Bool → Prop where
  | rest (hpending : client.pendingUpdateValid = false)
      (hedge : client.pendingFaultResetEdge = false)
      (hpulse : client.controller.faultResetPulseHigh = false) : PulsePhase client false
  | ordinary (hpending : client.pendingUpdateValid = true)
      (hedge : client.pendingFaultResetEdge = false)
      (howned : client.pendingUpdate.Owned) (hlow : client.pendingUpdate.high = false)
      (hpulse : client.controller.faultResetPulseHigh = false)
      (hrequest : client.controller.faultResetRequested = false) : PulsePhase client false
  | highPending (hpending : client.pendingUpdateValid = true)
      (hedge : client.pendingFaultResetEdge = true)
      (howned : client.pendingUpdate.Owned) (hhigh : client.pendingUpdate.high = true)
      (hpulse : client.controller.faultResetPulseHigh = true)
      (hrequest : client.controller.faultResetRequested = false)
      (hview : client.controller.view = some .fault) : PulsePhase client false
  | highHeld (hpending : client.pendingUpdateValid = false)
      (hedge : client.pendingFaultResetEdge = false)
      (hpulse : client.controller.faultResetPulseHigh = true) : PulsePhase client true
  | lowPending (hpending : client.pendingUpdateValid = true)
      (hedge : client.pendingFaultResetEdge = true)
      (hupdate : client.pendingUpdate = lowUpdate)
      (hpulse : client.controller.faultResetPulseHigh = false)
      (hrequest : client.controller.faultResetRequested = false) : PulsePhase client true

/-- Bit 7 of the last accepted Controlword. -/
def lastHigh (last : Option Word) : Bool :=
  last.elim false faultResetBit

structure ClientInvariant (client : Client) (last : Option Word) : Prop where
  initialized : client.initialized = true
  recovering : Recovering client.controller
  phase : PulsePhase client (lastHigh last)

theorem pulse_intent {call : ClientCall} {core : Call} {axis : Axis}
    (hcore : call.intent = some core) :
    (step axis core).faultResetPulseHigh = axis.faultResetPulseHigh := by
  apply pulse_of_silent
  cases call with
  | process timeDifference resultGiven answers => exact absurd hcore (by simp [ClientCall.intent])
  | _ =>
      obtain rfl := Option.some.inj hcore
      rfl

theorem request_of_valid {axis : Axis} {feedback : Feedback} {elapsed : UInt32}
    (h : Recovering axis) (hvalid : (process axis feedback elapsed).2.valid = true) :
    (process axis feedback elapsed).1.faultResetRequested = false := by
  rw [← Bool.not_eq_true]
  intro hrequested
  rcases requested_latch axis (.process (some feedback) elapsed true) h hrequested with
    ⟨hcall, -⟩ | ⟨-, hsilent⟩
  · contradiction
  · rw [emitted_process hvalid] at hsilent
    contradiction

theorem PulsePhase.stored {client : Client} {high : Bool} (h : PulsePhase client high)
    (hrecovering : Recovering client.controller) {feedback : Feedback} {elapsed : UInt32}
    (hpending : client.pendingUpdateValid = false)
    (hvalid : (process client.controller feedback elapsed).2.valid = true) :
    PulsePhase
      { client with
        controller := (process client.controller feedback elapsed).1
        deferredElapsed := 0
        pendingUpdate := (process client.controller feedback elapsed).2
        pendingUpdateValid := true
        pendingFaultResetEdge :=
          client.controller.faultResetPulseHigh ||
            (process client.controller feedback elapsed).1.faultResetPulseHigh } high := by
  have hprocessed := process_processed client.controller feedback elapsed
  have hnew := hprocessed.pulse_eq_high
  have hrequest := request_of_valid hrecovering hvalid
  cases h with
  | rest _ hedge hpulse =>
      by_cases hhigh : (process client.controller feedback elapsed).2.high = true
      · refine .highPending rfl ?_ (owned_process hvalid) hhigh (hnew.trans hhigh) hrequest ?_
        · rw [hnew, hhigh, Bool.or_true]
        · exact hprocessed.view_eq.trans (hprocessed.of_high hhigh).1
      · rw [Bool.not_eq_true] at hhigh
        refine .ordinary rfl ?_ (owned_process hvalid) hhigh (hnew.trans hhigh) hrequest
        rw [hpulse, hnew, hhigh]
        rfl
  | highHeld _ hedge hpulse =>
      have hupdate := process_of_pulse hpulse feedback elapsed
      refine .lowPending rfl ?_ hupdate ?_ hrequest
      · rw [hpulse]
        rfl
      · exact hnew.trans (hupdate ▸ high_lowUpdate)
  | ordinary hfull | highPending hfull | lowPending hfull =>
      exact absurd (hpending.symm.trans hfull) Bool.false_ne_true

/-- The phase after an update accepted at once. -/
theorem PulsePhase.sent {client : Client} {high : Bool} (_ : PulsePhase client high)
    {feedback : Feedback} {elapsed : UInt32} (read : Word)
    (hvalid : (process client.controller feedback elapsed).2.valid = true) :
    PulsePhase
      { clearPendingUpdate client with
        controller := (process client.controller feedback elapsed).1
        deferredElapsed := 0
        pendingFaultResetEdge := false }
      (faultResetBit
        (applyControlwordUpdate read (process client.controller feedback elapsed).2)) := by
  have hnew := (process_processed client.controller feedback elapsed).pulse_eq_high
  rw [faultResetBit_owned read (owned_process hvalid)]
  by_cases hhigh : (process client.controller feedback elapsed).2.high = true
  · rw [hhigh]
    exact .highHeld rfl rfl (hnew.trans hhigh)
  · rw [Bool.not_eq_true] at hhigh
    rw [hhigh]
    exact .rest rfl rfl (hnew.trans hhigh)

/-- The phase after the acceptance of a pending update. -/
theorem PulsePhase.retried {client : Client} {high : Bool} (h : PulsePhase client high)
    (hpending : client.pendingUpdateValid = true) (read : Word) (age deferred : UInt32) :
    PulsePhase
      { clearPendingUpdate client with
        pendingFaultResetEdge := false
        controller := client.controller.aged age
        deferredElapsed := deferred }
      (faultResetBit (applyControlwordUpdate read client.pendingUpdate)) := by
  cases h with
  | ordinary _ _ howned hlow hpulse _ =>
      rw [faultResetBit_owned read howned, hlow]
      exact .rest rfl rfl hpulse
  | highPending _ _ howned hhigh hpulse _ _ =>
      rw [faultResetBit_owned read howned, hhigh]
      exact .highHeld rfl rfl hpulse
  | lowPending _ _ hupdate hpulse _ =>
      rw [hupdate, faultResetBit_owned read owned_lowUpdate, high_lowUpdate]
      exact .rest rfl rfl hpulse
  | rest hempty | highHeld hempty =>
      exact absurd (hempty.symm.trans hpending) Bool.false_ne_true

/-- The phase after the client drops an ordinary update. -/
theorem PulsePhase.replaced {client : Client} {high : Bool} (h : PulsePhase client high)
    {axis : Axis} (deferred : UInt32) (hedge : client.pendingFaultResetEdge = false)
    (hpulse : axis.faultResetPulseHigh = client.controller.faultResetPulseHigh) :
    PulsePhase
      (clearPendingUpdate { client with controller := axis, deferredElapsed := deferred })
      high := by
  cases h with
  | rest _ _ hlow => exact .rest rfl hedge (hpulse.trans hlow)
  | ordinary _ _ _ _ hlow _ => exact .rest rfl hedge (hpulse.trans hlow)
  | highHeld _ _ hhigh => exact .highHeld rfl hedge (hpulse.trans hhigh)
  | highPending _ hpending | lowPending _ hpending =>
      exact absurd (hedge.symm.trans hpending) Bool.false_ne_true

/-- The phase of a client whose core has moved within the same phase. -/
theorem PulsePhase.kept {client : Client} {high : Bool} (h : PulsePhase client high)
    {axis : Axis} (deferred : UInt32)
    (hpulse : axis.faultResetPulseHigh = client.controller.faultResetPulseHigh)
    (hrequest : axis.faultResetRequested = client.controller.faultResetRequested)
    (hview : axis.view = client.controller.view) :
    PulsePhase { client with controller := axis, deferredElapsed := deferred } high := by
  cases h with
  | rest hpending hedge hlow => exact .rest hpending hedge (hpulse.trans hlow)
  | ordinary hpending hedge howned hlow hflag hnone =>
      exact .ordinary hpending hedge howned hlow (hpulse.trans hflag) (hrequest.trans hnone)
  | highPending hpending hedge howned hhigh hflag hnone hfault =>
      exact .highPending hpending hedge howned hhigh (hpulse.trans hflag) (hrequest.trans hnone)
        (hview.trans hfault)
  | highHeld hpending hedge hhigh => exact .highHeld hpending hedge (hpulse.trans hhigh)
  | lowPending hpending hedge hupdate hflag hnone =>
      exact .lowPending hpending hedge hupdate (hpulse.trans hflag) (hrequest.trans hnone)

theorem ClientInvariant.move {client next : Client} {call : ClientCall} {last : Option Word}
    {seen accepted : Option Word} (h : ClientInvariant client last)
    (hmove : ClientMove client call next seen accepted) :
    ClientInvariant next (accepted.or last) := by
  cases hmove with
  | idle age deferred =>
      exact ⟨h.initialized, h.recovering.aged age, h.phase.kept deferred rfl rfl rfl⟩
  | cleared age deferred hcall hedge =>
      exact ⟨h.initialized, (recovering_clearTarget h.recovering).aged age,
        h.phase.kept deferred rfl rfl rfl⟩
  | replaced core age deferred hcore hedge haccepted =>
      exact ⟨h.initialized, (recovering_step h.recovering core).aged age,
        h.phase.replaced deferred hedge (pulse_intent hcore)⟩
  | retried read age deferred hpending =>
      exact ⟨h.initialized, h.recovering.aged age, h.phase.retried hpending read age deferred⟩
  | silent feedback elapsed hpending hintent hinvalid =>
      refine ⟨h.initialized, recovering_process h.recovering feedback elapsed, ?_⟩
      have hsilent : emitted client.controller (.process (some feedback) elapsed true) = none :=
        if_neg (by simp [processCall, hinvalid])
      have hpulse : (process client.controller feedback elapsed).1.faultResetPulseHigh =
          client.controller.faultResetPulseHigh := pulse_of_silent hsilent
      have hphase := h.phase
      rw [Option.none_or]
      generalize lastHigh last = high at hphase
      cases hphase with
      | rest _ hedge hlow => exact .rest hpending hedge (hpulse.trans hlow)
      | highHeld _ hedge hhigh => exact .highHeld hpending hedge (hpulse.trans hhigh)
      | ordinary hfull | highPending hfull | lowPending hfull =>
          exact absurd (hpending.symm.trans hfull) Bool.false_ne_true
  | stored feedback elapsed hpending hintent hvalid =>
      exact ⟨h.initialized, recovering_process h.recovering feedback elapsed,
        h.phase.stored h.recovering hpending hvalid⟩
  | sent feedback elapsed read hpending hintent hvalid =>
      exact ⟨h.initialized, recovering_process h.recovering feedback elapsed,
        h.phase.sent read hvalid⟩

theorem clientInvariant_silent (client : Client) (call : ClientCall) (last : Option Word)
    (h : ClientInvariant client last) (hsilent : written client call = none) :
    ClientInvariant (clientStep client call) last := by
  have hnext := h.move (clientMove_clientStep client call)
  rwa [hsilent, Option.none_or] at hnext

theorem clientInvariant_written (client : Client) (call : ClientCall) (last : Option Word)
    (word : Word) (h : ClientInvariant client last) (hwritten : written client call = some word) :
    ClientInvariant (clientStep client call) (some word) := by
  have hnext := h.move (clientMove_clientStep client call)
  rwa [hwritten, Option.some_or] at hnext

theorem clientInvariant_clientInit {transport : Transport} {opsGiven : Bool}
    {config : ClientConfig} {client : Client}
    (hinit : clientInit transport opsGiven config = some client) : ClientInvariant client none := by
  unfold clientInit at hinit
  split_ifs at hinit
  obtain rfl := Option.some.inj hinit
  exact ⟨rfl, recovering_init config.controller, .rest rfl rfl rfl⟩

theorem clientInvariant_clientAfter {client : Client} (h : ClientInvariant client none)
    (calls : List ClientCall) :
    ClientInvariant (clientAfter client calls) (writes client calls).getLast? :=
  lastOutput_invariant clientInvariant_silent clientInvariant_written h calls

/-! ## Edges -/

/-- Only its own acceptance ends the wait of an edge. -/
theorem EdgePending.move {client next : Client} {call : ClientCall} {update : ControlwordUpdate}
    {seen accepted : Option Word} (h : EdgePending client update)
    (hmove : ClientMove client call next seen accepted) :
    (accepted = none ∧ EdgePending next update) ∨
      ∃ read, accepted = some (applyControlwordUpdate read update) := by
  cases hmove with
  | idle age deferred => exact Or.inl ⟨rfl, h.pending, h.edge, h.update_eq⟩
  | cleared age deferred hcall hedge => exact Or.inl ⟨rfl, h.pending, h.edge, h.update_eq⟩
  | replaced core age deferred hcore hedge haccepted =>
      exact absurd (hedge.symm.trans h.edge) Bool.false_ne_true
  | retried read age deferred hpending => exact Or.inr ⟨read, by rw [h.update_eq]⟩
  | silent feedback elapsed hpending | stored feedback elapsed hpending
  | sent feedback elapsed read hpending =>
      exact absurd (hpending.symm.trans h.pending) Bool.false_ne_true

/-- Whatever is called next, a pending edge is still pending, or is the next
accepted Controlword. -/
theorem EdgePending.run {client : Client} {update : ControlwordUpdate}
    (h : EdgePending client update) (more : List ClientCall) :
    (writes client more = [] ∧ EdgePending (clientAfter client more) update) ∨
      ∃ read rest, writes client more = applyControlwordUpdate read update :: rest := by
  induction more generalizing client with
  | nil => exact Or.inl ⟨rfl, h⟩
  | cons call more ih =>
      unfold writes clientAfter
      rw [outputs_cons, run_cons]
      rcases h.move (clientMove_clientStep client call) with ⟨hsilent, hnext⟩ | ⟨read, hwritten⟩
      · rw [hsilent, Option.toList_none, List.nil_append]
        exact ih hnext
      · rw [hwritten, Option.toList_some, List.singleton_append]
        exact Or.inr ⟨read, _, rfl⟩

theorem PulsePhase.high_kept {client : Client} {high : Bool} (h : PulsePhase client high)
    (hpulse : client.controller.faultResetPulseHigh = true) :
    (∃ update, update.high = true ∧ EdgePending client update) ∨ high = true := by
  cases h with
  | highPending hpending hedge _ hhigh => exact Or.inl ⟨_, hhigh, hpending, hedge, rfl⟩
  | highHeld => exact Or.inr rfl
  | rest _ _ hlow => exact absurd (hlow.symm.trans hpulse) Bool.false_ne_true
  | ordinary _ _ _ _ hlow => exact absurd (hlow.symm.trans hpulse) Bool.false_ne_true
  | lowPending _ _ _ hlow => exact absurd (hlow.symm.trans hpulse) Bool.false_ne_true

theorem PulsePhase.low_kept {client : Client} {high : Bool} (h : PulsePhase client high)
    (hhigh : high = true) :
    client.controller.faultResetPulseHigh = true ∨ EdgePending client lowUpdate := by
  cases h with
  | highHeld _ _ hpulse => exact Or.inl hpulse
  | lowPending hpending hedge hupdate => exact Or.inr ⟨hpending, hedge, hupdate⟩
  | _ => contradiction

/-- After an accepted high Controlword the next one carries the low update. -/
theorem ClientInvariant.written_low {client next : Client} {call : ClientCall} {previous : Word}
    {seen : Option Word} {word : Word} (h : ClientInvariant client (some previous))
    (hhigh : faultResetBit previous = true)
    (hmove : ClientMove client call next seen (some word)) :
    ∃ read, word = applyControlwordUpdate read lowUpdate := by
  have hphase : PulsePhase client true := hhigh ▸ h.phase
  generalize haccepted : some word = accepted at hmove
  cases hmove with
  | retried read age deferred hpending =>
      obtain rfl := Option.some.inj haccepted
      cases hphase with
      | lowPending _ _ hupdate => exact ⟨read, by rw [hupdate]⟩
      | highHeld hempty => exact absurd (hempty.symm.trans hpending) Bool.false_ne_true
  | sent feedback elapsed read hpending hintent hvalid =>
      obtain rfl := Option.some.inj haccepted
      cases hphase with
      | highHeld _ _ hpulse => exact ⟨read, by rw [process_of_pulse hpulse]⟩
      | lowPending hfull => exact absurd (hpending.symm.trans hfull) Bool.false_ne_true
  | _ => contradiction

/-- After an accepted high Controlword, the next process call whose Statusword upload
is admitted gets the low update accepted, or leaves it pending. -/
theorem ClientInvariant.low_next {client : Client} {previous : Word}
    (h : ClientInvariant client (some previous)) (hhigh : faultResetBit previous = true)
    (timeDifference : UInt32) {answers : Answers} (hadmitted : statuswordAdmitted client answers) :
    (written client (.process timeDifference true answers) = none ∧
        EdgePending (clientStep client (.process timeDifference true answers)) lowUpdate) ∨
      ∃ read, written client (.process timeDifference true answers) =
        some (applyControlwordUpdate read lowUpdate) := by
  have hphase : PulsePhase client true := hhigh ▸ h.phase
  cases hphase with
  | lowPending hpending hedge hupdate =>
      have hwaiting : EdgePending client lowUpdate := ⟨hpending, hedge, hupdate⟩
      exact hwaiting.move (clientMove_clientStep client _)
  | highHeld hpending hedge hpulse =>
      simp only [written, clientStep]
      rw [clientProcessCall_admitted h.initialized hpending hadmitted]
      generalize (sdoUpload client.transport client.nodeId
        (profileIndex client.logicalDevice indexStatusword) 2
        answers.statuswordUpload).transfer = transfer
      have hupdate := process_of_pulse hpulse (transferFeedback transfer)
        (saturatingAddU32 client.deferredElapsed timeDifference)
      have hfresh : ({ controllerResult := getResult client.controller } :
          StepResult).commandAccepted = false := rfl
      obtain ⟨handed, -, -, hflushed⟩ := flushed_processStatusword client timeDifference transfer
        answers rfl rfl (congrArg ControlwordUpdate.valid hupdate) hfresh
      generalize processStatusword client _ timeDifference transfer answers = outcome
        at hflushed ⊢
      cases hflushed with
      | kept hclient hwritten =>
          refine Or.inl ⟨hwritten, ?_, ?_, ?_⟩
          · rw [hclient]
          · rw [hclient, hpulse]
            rfl
          · rw [hclient]
            exact hupdate
      | accepted read hclient hwritten =>
          refine Or.inr ⟨read, ?_⟩
          rw [hwritten, hupdate]

/-! ## The origin of a high Controlword and of a motion target -/

theorem intent_requestFaultReset {call : ClientCall}
    (h : call.intent = some .requestFaultReset) : call = .requestFaultReset := by
  cases call <;> simp_all [ClientCall.intent]

theorem intent_setTarget {call : ClientCall} {code : Int}
    (h : call.intent = some (.setTarget code)) : call = .setTarget code := by
  cases call <;> simp_all [ClientCall.intent]

/-- A Fault Reset on its way to the wire: requested, or high and not accepted yet. -/
def ResetOutstanding (client : Client) : Prop :=
  client.controller.faultResetRequested = true ∨
    client.pendingUpdateValid = true ∧ client.pendingUpdate.high = true

theorem PulsePhase.not_requested {client : Client} {high : Bool} (h : PulsePhase client high)
    (hpending : client.pendingUpdateValid = true) :
    client.controller.faultResetRequested = false := by
  cases h with
  | ordinary _ _ _ _ _ hrequest => exact hrequest
  | highPending _ _ _ _ _ hrequest _ => exact hrequest
  | lowPending _ _ _ _ hrequest => exact hrequest
  | rest hempty | highHeld hempty => exact absurd (hempty.symm.trans hpending) Bool.false_ne_true

/-- A request to the client that the core accepted in FAULT. -/
structure ResetAccepted (client : Client) (call : ClientCall) : Prop where
  call_eq : call = .requestFaultReset
  accepted : (clientRequestFaultReset client).2 = true
  view : client.controller.view = some .fault

theorem ResetOutstanding.latch {client next : Client} {call : ClientCall} {last : Option Word}
    {seen accepted : Option Word} (h : ClientInvariant client last)
    (hmove : ClientMove client call next seen accepted) (hnext : ResetOutstanding next) :
    ResetAccepted client call ∨ ResetOutstanding client ∧ accepted = none := by
  cases hmove with
  | idle age deferred => exact Or.inr ⟨hnext, rfl⟩
  | cleared age deferred hcall hedge => exact Or.inr ⟨hnext, rfl⟩
  | replaced core age deferred hcore hedge haccepted =>
      rcases hnext with hrequested | ⟨hpending, -⟩
      · rcases requested_latch client.controller core h.recovering hrequested with
          ⟨rfl, hreturn, hview⟩ | ⟨hheld, -⟩
        · obtain rfl := intent_requestFaultReset hcore
          exact Or.inl ⟨rfl, haccepted.trans hreturn, hview⟩
        · exact Or.inr ⟨Or.inl hheld, rfl⟩
      · exact absurd hpending Bool.false_ne_true
  | retried read age deferred hpending =>
      rcases hnext with hrequested | ⟨hfull, -⟩
      · have hnone := h.phase.not_requested hpending
        exact absurd (hnone.symm.trans hrequested) Bool.false_ne_true
      · exact absurd hfull Bool.false_ne_true
  | silent feedback elapsed hpending hintent hinvalid =>
      rcases hnext with hrequested | ⟨hfull, -⟩
      · rcases requested_latch client.controller (.process (some feedback) elapsed true)
          h.recovering hrequested with ⟨hcall, -⟩ | ⟨hheld, -⟩
        · contradiction
        · exact Or.inr ⟨Or.inl hheld, rfl⟩
      · exact absurd (hpending.symm.trans hfull) Bool.false_ne_true
  | stored feedback elapsed hpending hintent hvalid =>
      rcases hnext with hrequested | ⟨-, hhigh⟩
      · have hnone := request_of_valid h.recovering hvalid
        exact absurd (hnone.symm.trans hrequested) Bool.false_ne_true
      · have hrequested :=
          ((process_processed client.controller feedback elapsed).of_high hhigh).2
        rw [faultResetRequested_observe] at hrequested
        exact Or.inr ⟨Or.inl hrequested, rfl⟩
  | sent feedback elapsed read hpending hintent hvalid =>
      rcases hnext with hrequested | ⟨hfull, -⟩
      · have hnone := request_of_valid h.recovering hvalid
        exact absurd (hnone.symm.trans hrequested) Bool.false_ne_true
      · exact absurd hfull Bool.false_ne_true

/-- An accepted high Controlword ends an outstanding Fault Reset, with FAULT in view. -/
theorem ClientInvariant.of_high {client next : Client} {call : ClientCall} {last : Option Word}
    {seen : Option Word} {word : Word} (h : ClientInvariant client last)
    (hmove : ClientMove client call next seen (some word)) (hhigh : faultResetBit word = true) :
    ResetOutstanding client ∧ next.controller.view = some .fault := by
  generalize haccepted : some word = accepted at hmove
  cases hmove with
  | retried read age deferred hpending =>
      obtain rfl := Option.some.inj haccepted
      have hphase := h.phase
      generalize lastHigh last = high at hphase
      cases hphase with
      | ordinary _ _ howned hlow =>
          rw [faultResetBit_owned read howned, hlow] at hhigh
          contradiction
      | highPending _ _ howned hupdate _ _ hview =>
          exact ⟨Or.inr ⟨hpending, hupdate⟩, hview⟩
      | lowPending _ _ hupdate =>
          rw [hupdate, faultResetBit_owned read owned_lowUpdate, high_lowUpdate] at hhigh
          contradiction
      | rest hempty | highHeld hempty =>
          exact absurd (hempty.symm.trans hpending) Bool.false_ne_true
  | sent feedback elapsed read hpending hintent hvalid =>
      obtain rfl := Option.some.inj haccepted
      rw [faultResetBit_owned read (owned_process hvalid)] at hhigh
      have hprocessed := process_processed client.controller feedback elapsed
      obtain ⟨hview, hrequested⟩ := hprocessed.of_high hhigh
      rw [faultResetRequested_observe] at hrequested
      exact ⟨Or.inl hrequested, hprocessed.view_eq.trans hview⟩
  | _ => contradiction

/-- A Statusword which shows the remote axis on its fault path. -/
def ShowsFault (seen : Option Word) : Prop :=
  ∃ statusword, seen = some statusword ∧ (decodeStatusword statusword).faulted = true

theorem observesFault_of_shows {feedback : Feedback} (h : ShowsFault feedback.observed)
    (elapsed : UInt32) : (Call.process (some feedback) elapsed true).ObservesFault := by
  obtain ⟨statusword, hseen, hfaulted⟩ := h
  unfold Feedback.observed at hseen
  split_ifs at hseen with hvalid
  obtain rfl := Option.some.inj hseen
  exact ⟨hvalid, hfaulted⟩

theorem not_showsFault_none : ¬ ShowsFault none := by
  rintro ⟨statusword, hseen, -⟩
  contradiction

/-- A target of the client was accepted just now, or is kept without a fault seen. -/
theorem clientTarget_latch (target : Target) {client next : Client} {call : ClientCall}
    {last seen accepted : Option Word} (h : ClientInvariant client last)
    (hmove : ClientMove client call next seen accepted)
    (hnext : next.controller.targetValid = true ∧ next.controller.target = target) :
    (∃ code, call = .setTarget code ∧ targetOfCode code = some target ∧
        (clientSetTarget client code).2 = true) ∨
      (client.controller.targetValid = true ∧ client.controller.target = target) ∧
        ¬ ShowsFault seen := by
  cases hmove with
  | idle age deferred => exact Or.inr ⟨hnext, not_showsFault_none⟩
  | cleared age deferred hcall hedge => exact absurd hnext.1 Bool.false_ne_true
  | replaced core age deferred hcore hedge haccepted =>
      rcases target_latch target client.controller core h.recovering hnext with
        ⟨code, rfl, hcode, hreturn⟩ | ⟨hheld, -⟩
      · obtain rfl := intent_setTarget hcore
        exact Or.inl ⟨code, rfl, hcode, haccepted.trans hreturn⟩
      · exact Or.inr ⟨hheld, not_showsFault_none⟩
  | retried read age deferred hpending => exact Or.inr ⟨hnext, not_showsFault_none⟩
  | silent feedback elapsed hpending hintent | stored feedback elapsed hpending hintent
  | sent feedback elapsed read hpending hintent =>
      rcases target_latch target client.controller (.process (some feedback) elapsed true)
        h.recovering hnext with ⟨code, hcall, -⟩ | ⟨hheld, hclear⟩
      · contradiction
      · exact Or.inr ⟨hheld, fun hshows => hclear (observesFault_of_shows hshows elapsed)⟩

/-! ## The discipline of a run -/

/-- The pulse discipline of the Controlwords a client gets accepted. -/
structure WriteDiscipline (client : Client) (calls : List ClientCall) : Prop where
  alternate : (writes client calls).IsChain
    fun word next => faultResetBit word = true →
      ∃ read, next = applyControlwordUpdate read lowUpdate
  /-- the next process call that reaches the core, or the transport, is about the low edge -/
  lowNext : ∀ word, (writes client calls).getLast? = some word → faultResetBit word = true →
    ∀ timeDifference answers, statuswordAdmitted (clientAfter client calls) answers →
      (written (clientAfter client calls) (.process timeDifference true answers) = none ∧
          EdgePending (clientAfter client (calls ++ [.process timeDifference true answers]))
            lowUpdate) ∨
        ∃ read, written (clientAfter client calls) (.process timeDifference true answers) =
          some (applyControlwordUpdate read lowUpdate)
  /-- a high pulse of the core is pending or the last accepted Controlword -/
  highKept : (clientAfter client calls).controller.faultResetPulseHigh = true →
    (∃ update, update.high = true ∧ EdgePending (clientAfter client calls) update) ∨
      lastHigh (writes client calls).getLast? = true
  /-- a high Controlword on the wire is a high pulse of the core, or its low edge is pending -/
  lowKept : lastHigh (writes client calls).getLast? = true →
    (clientAfter client calls).controller.faultResetPulseHigh = true ∨
      EdgePending (clientAfter client calls) lowUpdate
  /-- an unaccepted edge is never dropped, replaced or overtaken -/
  edge : ∀ update, EdgePending (clientAfter client calls) update → ∀ more,
    (writes (clientAfter client calls) more = [] ∧
        EdgePending (clientAfter client (calls ++ more)) update) ∨
      ∃ read rest, writes (clientAfter client calls) more =
        applyControlwordUpdate read update :: rest
  /-- a high Controlword: FAULT is the last recognized state, and a request accepted in
  FAULT has waited for it -/
  requested : ∀ call word, written (clientAfter client calls) call = some word →
    faultResetBit word = true →
      (clientAfter client (calls ++ [call])).controller.view = some .fault ∧
        ∃ earlier later, calls = earlier ++ .requestFaultReset :: later ∧
          (clientAfter client earlier).controller.view = some .fault ∧
          (clientRequestFaultReset (clientAfter client earlier)).2 = true ∧
          writes (clientAfter client (earlier ++ [.requestFaultReset])) later = []
  /-- a target: accepted, with no fault observed since -/
  target : (clientAfter client calls).controller.targetValid = true →
    ∃ earlier code later, calls = earlier ++ .setTarget code :: later ∧
      targetOfCode code = some (clientAfter client calls).controller.target ∧
      (clientSetTarget (clientAfter client earlier) code).2 = true ∧
      EveryStep clientStep (fun client call => ¬ ShowsFault (observed client call))
        (clientAfter client (earlier ++ [.setTarget code])) later

/-- The invariant, whatever the last accepted Controlword was. -/
def Client.Sound (client : Client) : Prop :=
  ∃ last, ClientInvariant client last

theorem Client.Sound.step {client : Client} (h : client.Sound) (call : ClientCall) :
    (clientStep client call).Sound := by
  obtain ⟨last, hinv⟩ := h
  exact ⟨_, hinv.move (clientMove_clientStep client call)⟩

/-- The call that asked for an outstanding Fault Reset, and the calls that left it
outstanding. -/
theorem reset_held {client : Client} (hstart : client.Sound) (hclosed : ¬ ResetOutstanding client)
    (calls : List ClientCall) (h : ResetOutstanding (clientAfter client calls)) :
    HeldSince clientStep ResetAccepted (fun client call => written client call = none) client
      calls := by
  refine heldSince_of_latch Client.Sound ResetOutstanding (fun _ call hsound _ => hsound.step call)
    ?_ hstart hclosed (everyStep_of_forall (fun _ _ => trivial) _ _) h
  rintro client call ⟨last, hinv⟩ - hnext
  exact ResetOutstanding.latch hinv (clientMove_clientStep client call) hnext

theorem clientTarget_held {client : Client} (hstart : client.Sound)
    (hidle : client.controller.targetValid = false) (calls : List ClientCall) (target : Target)
    (h : (clientAfter client calls).controller.targetValid = true ∧
      (clientAfter client calls).controller.target = target) :
    HeldSince clientStep
      (fun client call => ∃ code, call = .setTarget code ∧ targetOfCode code = some target ∧
        (clientSetTarget client code).2 = true)
      (fun client call => ¬ ShowsFault (observed client call)) client calls := by
  refine heldSince_of_latch Client.Sound
    (fun client => client.controller.targetValid = true ∧ client.controller.target = target)
    (fun _ call hsound _ => hsound.step call) ?_ hstart ?_
    (everyStep_of_forall (fun _ _ => trivial) _ _) h
  · rintro client call ⟨last, hinv⟩ - hnext
    exact clientTarget_latch target hinv (clientMove_clientStep client call) hnext
  · rintro ⟨hvalid, -⟩
    exact Bool.false_ne_true (hidle.symm.trans hvalid)

theorem writeDiscipline_of_calls {transport : Transport} {opsGiven : Bool} {config : ClientConfig}
    {client : Client} (hinit : clientInit transport opsGiven config = some client)
    (calls : List ClientCall) : WriteDiscipline client calls := by
  have hstart := clientInvariant_clientInit hinit
  have hafter := clientInvariant_clientAfter hstart calls
  have hcontroller : client.controller = init config.controller ∧
      client.pendingUpdateValid = false := by
    unfold clientInit at hinit
    split_ifs at hinit
    obtain rfl := Option.some.inj hinit
    exact ⟨rfl, rfl⟩
  exact {
    alternate := by
      refine outputs_isChain clientInvariant_silent clientInvariant_written ?_ hstart calls
      intro client call previous next hinv hnext hhigh
      have hmove := clientMove_clientStep client call
      rw [hnext] at hmove
      exact hinv.written_low hhigh hmove
    lowNext := by
      intro word hlast hhigh timeDifference answers hadmitted
      rw [hlast] at hafter
      rw [clientAfter, clientAfter, run_concat]
      exact hafter.low_next hhigh timeDifference hadmitted
    highKept := hafter.phase.high_kept
    lowKept := hafter.phase.low_kept
    edge := by
      intro update hpending more
      rw [clientAfter, clientAfter, run_append]
      exact hpending.run more
    requested := by
      intro call word hword hhigh
      have hmove := clientMove_clientStep (clientAfter client calls) call
      rw [hword] at hmove
      obtain ⟨houtstanding, hview⟩ := hafter.of_high hmove hhigh
      refine ⟨?_, ?_⟩
      · rw [clientAfter, run_concat]
        exact hview
      · have hclosed : ¬ ResetOutstanding client := by
          rintro (hrequested | ⟨hfull, -⟩)
          · rw [hcontroller.1] at hrequested
            exact Bool.false_ne_true hrequested
          · exact Bool.false_ne_true (hcontroller.2.symm.trans hfull)
        obtain ⟨earlier, first, later, rfl, haccepted, hsilent⟩ :=
          reset_held ⟨none, hstart⟩ hclosed calls houtstanding
        obtain rfl := haccepted.call_eq
        exact ⟨earlier, later, rfl, haccepted.view, haccepted.accepted,
          (outputs_eq_nil_iff _ _).mpr hsilent⟩
    target := by
      intro hvalid
      have hidle : client.controller.targetValid = false := by
        rw [hcontroller.1]
        rfl
      obtain ⟨earlier, first, later, hcalls, ⟨code, rfl, hcode, haccepted⟩, hkept⟩ :=
        clientTarget_held ⟨none, hstart⟩ hidle calls _ ⟨hvalid, rfl⟩
      exact ⟨earlier, code, later, hcalls, hcode, haccepted, hkept⟩ }

/-- The Fault Reset pulse discipline, of the updates a Controller emits under any
calls, and of the Controlwords a client gets accepted under any calls and any failures
of its transport. -/
theorem faultResetPulse_of_calls (config : Config) (calls : List Call) {transport : Transport}
    {opsGiven : Bool} {clientConfig : ClientConfig} {client : Client}
    (hinit : clientInit transport opsGiven clientConfig = some client)
    (clientCalls : List ClientCall) :
    PulseDiscipline config calls ∧ WriteDiscipline client clientCalls :=
  ⟨pulseDiscipline_of_calls config calls, writeDiscipline_of_calls hinit clientCalls⟩

/-! ## A pulse over a lossy transport -/

/-- Both timeouts are disabled. -/
def patientConfig : Config := { transitionTimeout := 0, feedbackTimeout := 0 }

def busyAnswer : SdoAnswer := { call := { status := .busy }, transfer := clearedTransfer }

def wordAnswer (low high : BitVec 8) : SdoAnswer :=
  { call := okCall, transfer := { status := .ok, data := #v[low, high, 0, 0, 0, 0, 0, 0] } }

/-- The remote axis is in FAULT; the first write of the high edge is not admitted. -/
def busyPulse : List ClientCall :=
  [ .process 0 true ⟨wordAnswer 0x08 0, busyAnswer, busyAnswer⟩,
    .requestFaultReset,
    .process 0 true ⟨wordAnswer 0x08 0, wordAnswer 0x10 0, busyAnswer⟩,
    .clearTarget,
    .process 0 true ⟨busyAnswer, wordAnswer 0x10 0, wordAnswer 0 0⟩,
    .process 0 true ⟨wordAnswer 0x40 0, wordAnswer 0x90 0, wordAnswer 0 0⟩ ]

def faultedCalls : List Call :=
  [.process (some { statuswordValid := true, statusword := 0x0008 }) 0 true, .requestFaultReset]

theorem faultResetPulse_busyPulse :
    ∃ client, clientInit ⟨true, true⟩ true ⟨1, 0, patientConfig⟩ = some client ∧
      (PulseDiscipline patientConfig faultedCalls ∧ WriteDiscipline client busyPulse) ∧
      writes client busyPulse = [0x0090, 0x0010] := by
  have hinit : clientInit ⟨true, true⟩ true ⟨1, 0, patientConfig⟩ = some
      { transport := ⟨true, true⟩, controller := init patientConfig, nodeId := 1,
        logicalDevice := 0, initialized := true } := rfl
  refine ⟨_, hinit, faultResetPulse_of_calls patientConfig faultedCalls hinit busyPulse, ?_⟩
  decide +kernel

/-- With a missing Statusword the high update is emitted on the last recognized FAULT:
the process call itself observes nothing. -/
theorem faultResetPulse_unobserved :
    ¬ ∀ (config : Config) (calls : List Call) (feedback : Feedback) (timeDifference : UInt32),
      (process (axisAfter config calls) feedback timeDifference).2.high = true →
        feedback.statuswordValid = true ∧ decodeStatusword feedback.statusword = .fault := by
  intro h
  have hmissing := h patientConfig faultedCalls { statuswordValid := false, statusword := 0 } 0
    (by decide +kernel)
  exact Bool.false_ne_true hmissing.1

end CanopenRtt.Cia402.Controller
