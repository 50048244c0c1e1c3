import CanopenRtt.Support.History
import CanopenRtt.Cia402.Controller.TimeConservation
/-!
# What becomes of the updates of the core

The client is a one-place buffer between the Controller core and the remote
Controlword. A journal next to it lists every update the core emits, with its
fate; the accepted Controlwords are those of the accepted updates, in order.
-/

namespace CanopenRtt.Cia402.Controller

open CanopenRtt.Support CanopenRtt.Profile

/-- The Controlword upload of a process call. -/
def controlwordRead (client : Client) (answers : Answers) : SdoAnswer :=
  sdoUpload client.transport client.nodeId
    (profileIndex client.logicalDevice indexControlword) 2 answers.controlwordUpload

/-- The feedback and the elapsed time a client call gives to the core, when it runs it:
with nothing pending and the Statusword upload admitted. -/
def coreRun (client : Client) : ClientCall → Option (Feedback × UInt32)
  | .process timeDifference true answers =>
      if !client.initialized || client.pendingUpdateValid
          || (statuswordRead client answers).call.status ≠ .ok then none
      else
        some (transferFeedback (statuswordRead client answers).transfer,
          saturatingAddU32 client.deferredElapsed timeDifference)
  | _ => none

/-- The update the core emits in a client call. -/
def coreUpdate (client : Client) (call : ClientCall) : Option ControlwordUpdate :=
  (coreRun client call).bind fun run =>
    emitted client.controller (.process (some run.1) run.2 true)

/-- The calls that may retire a pending update: an accepted new target, a cleared
target (behind no Fault Reset edge), an accepted Fault Reset request. -/
def retires (client : Client) : ClientCall → Bool
  | .setTarget code => (clientSetTarget client code).2 && newTarget client.controller code
  | .clearTarget => client.initialized && !client.pendingFaultResetEdge
  | .requestFaultReset => (clientRequestFaultReset client).2
  | .process .. => false

/-- The client, and the fates of the updates its core has emitted. -/
structure Journal where
  client : Client
  entries : List (Entry ControlwordUpdate Word) := []
  deriving DecidableEq

def journalStep (journal : Journal) (call : ClientCall) : Journal :=
  let entries :=
    if retires journal.client call then settle .retired journal.entries else journal.entries
  let entries := (coreUpdate journal.client call).elim entries (put entries)
  let entries :=
    (written journal.client call).elim entries fun word => settle (.accepted word) entries
  { client := clientStep journal.client call, entries := entries }

/-! ## The transfer pair of a process call -/

/-- A download carries the Controlword read in the same call, with an update merged in. -/
structure Merges (client : Client) (answers : Answers) (update : ControlwordUpdate)
    (download : Download) : Prop where
  index_eq : download.index = profileIndex client.logicalDevice indexControlword
  read : (controlwordRead client answers).accepted = true
  data_eq : download.data =
    encodeU16 (applyControlwordUpdate
      (decodeU16 (controlwordRead client answers).transfer) update)

/-- A flush keeps the client, or gets its pending update accepted; a download it issues
merges that update. -/
theorem flush_merges (client : Client) (step : StepResult) (answers : Answers) :
    (∀ download, (flushPendingUpdate client step answers).download = some download →
        Merges client answers client.pendingUpdate download) ∧
      ((flushPendingUpdate client step answers).written = none ∧
          (flushPendingUpdate client step answers).client = client ∨
        (flushPendingUpdate client step answers).written =
            some (applyControlwordUpdate (decodeU16 (controlwordRead client answers).transfer)
              client.pendingUpdate) ∧
          (flushPendingUpdate client step answers).client =
            { clearPendingUpdate client with pendingFaultResetEdge := false }) := by
  unfold flushPendingUpdate
  dsimp only
  split_ifs with hread hreadTransfer hwrite hwriteTransfer
  · exact ⟨by simp, Or.inl ⟨rfl, rfl⟩⟩
  · exact ⟨by simp, Or.inl ⟨rfl, rfl⟩⟩
  all_goals
    rw [not_not] at hread hreadTransfer
    have haccepted : (controlwordRead client answers).accepted = true := by
      simp [controlwordRead, SdoAnswer.accepted, hread, hreadTransfer]
    refine ⟨?_, ?_⟩
    · rintro download hdownload
      obtain rfl := Option.some.inj hdownload
      exact ⟨rfl, haccepted, rfl⟩
  · exact Or.inl ⟨by simp [Outcome.written, SdoAnswer.accepted, hwrite], rfl⟩
  · rw [not_not] at hwrite
    refine Or.inr ⟨?_, rfl⟩
    simp [Outcome.written, SdoAnswer.accepted, hwrite, hwriteTransfer, wordOfBytes_encodeU16,
      controlwordRead]
  · exact Or.inl ⟨by simp [Outcome.written, SdoAnswer.accepted, hwriteTransfer], rfl⟩

/-- What a process call does with the update it hands to the transport. -/
inductive Handed (client : Client) (answers : Answers) :
    Option ControlwordUpdate → Outcome → Prop where
  | nothing (outcome : Outcome) (hdownload : outcome.download = none)
      (hwritten : outcome.written = none) (hnext : outcome.client.pendingUpdateValid = false) :
      Handed client answers none outcome
  | kept (update : ControlwordUpdate) (outcome : Outcome)
      (hmerges : ∀ download, outcome.download = some download →
        Merges client answers update download)
      (hwritten : outcome.written = none) (hnext : outcome.client.pendingUpdateValid = true)
      (hupdate : outcome.client.pendingUpdate = update) :
      Handed client answers (some update) outcome
  | accepted (update : ControlwordUpdate) (outcome : Outcome)
      (hmerges : ∀ download, outcome.download = some download →
        Merges client answers update download)
      (hwritten : outcome.written =
        some (applyControlwordUpdate (decodeU16 (controlwordRead client answers).transfer) update))
      (hnext : outcome.client.pendingUpdateValid = false) :
      Handed client answers (some update) outcome

theorem handed_retry {client : Client} (hpending : client.pendingUpdateValid = true)
    (step : StepResult) (timeDifference : UInt32) (answers : Answers) :
    Handed client answers (some client.pendingUpdate)
      (retryPendingUpdate client step timeDifference answers) := by
  unfold retryPendingUpdate
  dsimp only
  obtain ⟨deferred, hdeferred, -⟩ :=
    exists_saturatingAddU32 client.deferredElapsed timeDifference
  rw [hdeferred]
  obtain ⟨hmerges, hfate⟩ := flush_merges { client with deferredElapsed := deferred } step answers
  generalize flushPendingUpdate { client with deferredElapsed := deferred } step answers = outcome
    at hmerges hfate ⊢
  obtain ⟨age, haged⟩ := commit_aged outcome.client
  rw [haged]
  have hmerged : ∀ download, outcome.download = some download →
      Merges client answers client.pendingUpdate download := fun download h =>
    ⟨(hmerges download h).index_eq, (hmerges download h).read, (hmerges download h).data_eq⟩
  rcases hfate with ⟨hwritten, hclient⟩ | ⟨hwritten, hclient⟩
  · split_ifs
    · refine .kept _ _ hmerged hwritten ?_ ?_
      · rw [hclient]
        exact hpending
      · rw [hclient]
    · refine .kept _ _ hmerged hwritten ?_ ?_
      · rw [hclient]
        exact hpending
      · rw [hclient]
  · split_ifs
    · refine .accepted _ _ hmerged hwritten ?_
      rw [hclient]
      rfl
    · refine .accepted _ _ hmerged hwritten ?_
      rw [hclient]
      rfl

theorem emitted_eq (axis : Axis) (feedback : Feedback) (elapsed : UInt32) :
    emitted axis (.process (some feedback) elapsed true) =
      if (process axis feedback elapsed).2.valid then some (process axis feedback elapsed).2
      else none := rfl

theorem handed_processStatusword {client : Client} (hpending : client.pendingUpdateValid = false)
    (step : StepResult) (timeDifference : UInt32) (transfer : TransferResult)
    (answers : Answers) :
    Handed client answers
      (emitted client.controller
        (.process (some (transferFeedback transfer))
          (saturatingAddU32 client.deferredElapsed timeDifference) true))
      (processStatusword client step timeDifference transfer answers) := by
  rw [emitted_eq]
  unfold processStatusword
  dsimp only
  obtain ⟨elapsed, helapsed, -⟩ := exists_saturatingAddU32 client.deferredElapsed timeDifference
  rw [helapsed]
  generalize process client.controller (transferFeedback transfer) elapsed = stepped
  obtain ⟨axis, update⟩ := stepped
  dsimp only
  by_cases hvalid : update.valid = true
  · rw [if_pos hvalid, if_neg (by simp [hvalid])]
    obtain ⟨hmerges, hfate⟩ := flush_merges
      { client with
        controller := axis
        deferredElapsed := 0
        pendingUpdate := update
        pendingUpdateValid := true
        pendingFaultResetEdge :=
          client.controller.faultResetPulseHigh || axis.faultResetPulseHigh }
      { step with
        statuswordTransfer := transfer
        statusword := (transferFeedback transfer).statusword
        statuswordValid := (transferFeedback transfer).statuswordValid
        controllerResult := axis.result } answers
    have hmerged : ∀ download, _ → Merges client answers update download := fun download h =>
      ⟨(hmerges download h).index_eq, (hmerges download h).read, (hmerges download h).data_eq⟩
    rcases hfate with ⟨hwritten, hclient⟩ | ⟨hwritten, hclient⟩
    · refine .kept _ _ hmerged hwritten ?_ ?_
      · rw [hclient]
      · rw [hclient]
    · refine .accepted _ _ hmerged hwritten ?_
      rw [hclient]
      rfl
  · rw [if_neg hvalid, if_pos (by simpa using hvalid)]
    exact .nothing _ rfl rfl hpending

theorem coreRun_process (client : Client) (timeDifference : UInt32) (answers : Answers) :
    coreRun client (.process timeDifference true answers) =
      if !client.initialized || client.pendingUpdateValid
          || (statuswordRead client answers).call.status ≠ .ok then none
      else
        some (transferFeedback (statuswordRead client answers).transfer,
          saturatingAddU32 client.deferredElapsed timeDifference) := rfl

/-- A process call hands its pending update to the transport, or that of the core. -/
theorem handed_clientProcessCall {client : Client} (hinitialized : client.initialized = true)
    (hindex : profileIndex client.logicalDevice indexStatusword ≠ indexInvalid)
    (timeDifference : UInt32) (answers : Answers) :
    Handed client answers
      (if client.pendingUpdateValid then some client.pendingUpdate
        else coreUpdate client (.process timeDifference true answers))
      (clientProcessCall client timeDifference true answers) := by
  rw [clientProcessCall_eq hinitialized hindex]
  by_cases hpending : client.pendingUpdateValid = true
  · rw [if_pos hpending, if_pos hpending]
    exact handed_retry hpending _ timeDifference answers
  rw [if_neg hpending, if_neg hpending]
  rw [Bool.not_eq_true] at hpending
  rw [coreUpdate, coreRun_process]
  by_cases hrefused : (statuswordRead client answers).call.status ≠ .ok
  · rw [if_pos hrefused, if_pos (by simp [hrefused])]
    obtain ⟨deferred, hdeferred, -⟩ :=
      exists_saturatingAddU32 client.deferredElapsed timeDifference
    rw [hdeferred]
    exact .nothing _ rfl rfl hpending
  · rw [if_neg hrefused, if_neg (by simpa [hinitialized, hpending] using hrefused)]
    exact handed_processStatusword hpending _ timeDifference _ answers

/-! ## The fates of the updates -/

/-- The update that waits for its acceptance. -/
def Client.waitingUpdate (client : Client) : Option ControlwordUpdate :=
  if client.pendingUpdateValid then some client.pendingUpdate else none

theorem waitingUpdate_of_pending {client : Client} (h : client.pendingUpdateValid = true) :
    client.waitingUpdate = some client.pendingUpdate := if_pos h

theorem waitingUpdate_of_idle {client : Client} (h : client.pendingUpdateValid = false) :
    client.waitingUpdate = none := if_neg (by simp [h])

/-- The Controlword was made from the update, and from a Controlword that was read. -/
def MadeFrom (update : ControlwordUpdate) (word : Word) : Prop :=
  ∃ read, word = applyControlwordUpdate read update

/-- What the entries say, with the update that waits. -/
structure Sound (entries : List (Entry ControlwordUpdate Word))
    (waiting : Option ControlwordUpdate) : Prop where
  ahead : OneAhead entries waiting
  owned : ∀ entry ∈ entries, entry.item.Owned
  made : ∀ entry ∈ entries, ∀ word, entry.fate = .accepted word → MadeFrom entry.item word

namespace Sound

variable {entries : List (Entry ControlwordUpdate Word)} {waiting : Option ControlwordUpdate}
  {update : ControlwordUpdate}

theorem retire (h : Sound entries waiting) : Sound (settle .retired entries) none where
  ahead := h.ahead.settle (by simp)
  owned := h.ahead.forall_settle h.owned fun _ _ howned => howned
  made := h.ahead.forall_settle h.made fun _ _ _ word hfate => absurd hfate (by simp)

theorem accept (h : Sound entries (some update)) {word : Word} (hmade : MadeFrom update word) :
    Sound (settle (.accepted word) entries) none where
  ahead := h.ahead.settle (by simp)
  owned := h.ahead.forall_settle h.owned fun _ _ howned => howned
  made := by
    apply h.ahead.forall_settle h.made
    intro item hitem _ other hother
    obtain rfl := Option.some.inj hitem
    obtain rfl := Fate.accepted.inj hother
    exact hmade

theorem put (h : Sound entries none) (howned : update.Owned) :
    Sound (put entries update) (some update) where
  ahead := h.ahead.put update
  owned := by
    intro entry hentry
    rcases List.mem_append.mp hentry with hold | hlast
    · exact h.owned entry hold
    · rw [List.mem_singleton.mp hlast]
      exact howned
  made := by
    intro entry hentry word hfate
    rcases List.mem_append.mp hentry with hold | hlast
    · exact h.made entry hold word hfate
    · rw [List.mem_singleton.mp hlast] at hfate
      exact absurd hfate (by simp)

end Sound

/-- The journal agrees with the client. -/
structure Kept (journal : Journal) : Prop where
  initialized : journal.client.initialized = true
  index_valid : profileIndex journal.client.logicalDevice indexStatusword ≠ indexInvalid
  sound : Sound journal.entries journal.client.waitingUpdate

/-! ## One call on the journal -/

theorem owned_coreUpdate {client : Client} {call : ClientCall} {update : ControlwordUpdate}
    (h : coreUpdate client call = some update) : update.Owned := by
  unfold coreUpdate at h
  obtain ⟨⟨feedback, elapsed⟩, -, hemitted⟩ := Option.bind_eq_some_iff.mp h
  rw [emitted_eq] at hemitted
  split_ifs at hemitted with hvalid
  obtain rfl := Option.some.inj hemitted
  exact owned_process hvalid

/-- The entries after a call that emits nothing and has nothing accepted. -/
theorem entries_journalStep {journal : Journal} {call : ClientCall}
    (hcore : coreUpdate journal.client call = none)
    (hwritten : written journal.client call = none) :
    (journalStep journal call).entries =
      if retires journal.client call then settle .retired journal.entries
      else journal.entries := by
  unfold journalStep
  rw [hcore, hwritten]
  rfl

theorem sound_setTarget {journal : Journal} (h : Kept journal) (code : Int) :
    Sound (journalStep journal (.setTarget code)).entries
      (clientSetTarget journal.client code).1.waitingUpdate := by
  rw [entries_journalStep rfl rfl, retires]
  rcases client_setTarget_cases journal.client code with ⟨hsame, hrefused⟩ | ⟨haccepted, -, hset⟩
  · rw [hrefused, hsame, if_neg Bool.false_ne_true]
    exact h.sound
  · rw [haccepted, if_pos rfl, hset]
    exact h.sound.retire

theorem client_clearTarget_cases {client : Client} (hinitialized : client.initialized = true) :
    ∃ age, clientClearTarget client =
      if client.pendingFaultResetEdge then
        { client with controller := (clearTarget client.controller).aged age, deferredElapsed := 0 }
      else
        clearPendingUpdate
          { client with
            controller := (clearTarget client.controller).aged age
            deferredElapsed := 0 } := by
  obtain ⟨age, haged⟩ := commit_aged { client with controller := clearTarget client.controller }
  refine ⟨age, ?_⟩
  unfold clientClearTarget
  rw [if_neg (by simp [hinitialized])]
  dsimp only
  rw [haged]
  dsimp only
  by_cases hedge : client.pendingFaultResetEdge = true
  · rw [if_pos hedge, if_neg (by simp [hedge])]
  · rw [if_neg hedge, if_pos (by simpa using hedge)]

theorem client_requestFaultReset_cases (client : Client) :
    (clientRequestFaultReset client).2 = false ∧ (clientRequestFaultReset client).1 = client ∨
      (clientRequestFaultReset client).2 = true ∧
        (clientRequestFaultReset client).1 =
          clearPendingUpdate
            { client with controller := (requestFaultReset client.controller).1 } := by
  unfold clientRequestFaultReset
  by_cases hreject : (!client.initialized || client.pendingFaultResetEdge) = true
  · rw [if_pos hreject]
    exact Or.inl ⟨rfl, rfl⟩
  rw [if_neg hreject]
  dsimp only
  rcases requestFaultReset_cases client.controller with ⟨hsame, hrefused⟩ | ⟨-, haccepted, -⟩
  · rw [hrefused, hsame, if_neg Bool.false_ne_true]
    exact Or.inl ⟨rfl, rfl⟩
  · rw [haccepted, if_pos rfl]
    exact Or.inr ⟨rfl, rfl⟩

theorem sound_clearTarget {journal : Journal} (h : Kept journal) :
    Sound (journalStep journal .clearTarget).entries
      (clientClearTarget journal.client).waitingUpdate := by
  obtain ⟨age, hclient⟩ := client_clearTarget_cases h.initialized
  rw [entries_journalStep rfl rfl, retires, h.initialized, Bool.true_and, hclient]
  cases journal.client.pendingFaultResetEdge with
  | true => exact h.sound
  | false => exact h.sound.retire

theorem sound_requestFaultReset {journal : Journal} (h : Kept journal) :
    Sound (journalStep journal .requestFaultReset).entries
      (clientRequestFaultReset journal.client).1.waitingUpdate := by
  rw [entries_journalStep rfl rfl, retires]
  rcases client_requestFaultReset_cases journal.client with
    ⟨hrefused, hsame⟩ | ⟨haccepted, hset⟩
  · rw [hrefused, hsame, if_neg Bool.false_ne_true]
    exact h.sound
  · rw [haccepted, hset, if_pos rfl]
    exact h.sound.retire

/-- The entries after a process call: what the core emits is put in, and what the remote
axis accepts is taken out. -/
theorem entries_process (journal : Journal) (timeDifference : UInt32) (answers : Answers) :
    (journalStep journal (.process timeDifference true answers)).entries =
      ((clientProcessCall journal.client timeDifference true answers).written).elim
        ((coreUpdate journal.client (.process timeDifference true answers)).elim journal.entries
          (put journal.entries))
        fun word => settle (.accepted word)
          ((coreUpdate journal.client (.process timeDifference true answers)).elim journal.entries
            (put journal.entries)) := rfl

theorem coreRun_of_pending {client : Client} (h : client.pendingUpdateValid = true)
    (call : ClientCall) : coreRun client call = none := by
  unfold coreRun
  split
  · rw [if_pos (by simp [h])]
  · rfl

/-- The entries with the update a process call hands to the transport. -/
theorem sound_handed {journal : Journal} (h : Kept journal) (call : ClientCall) :
    Sound ((coreUpdate journal.client call).elim journal.entries (put journal.entries))
      (if journal.client.pendingUpdateValid then some journal.client.pendingUpdate
        else coreUpdate journal.client call) := by
  by_cases hpending : journal.client.pendingUpdateValid = true
  · rw [if_pos hpending, coreUpdate, coreRun_of_pending hpending,
      ← waitingUpdate_of_pending hpending]
    exact h.sound
  · rw [if_neg hpending]
    have hempty := h.sound
    rw [waitingUpdate_of_idle (by simpa using hpending)] at hempty
    cases hcore : coreUpdate journal.client call with
    | none => exact hempty
    | some update => exact hempty.put (owned_coreUpdate hcore)

theorem sound_process {journal : Journal} (h : Kept journal) (timeDifference : UInt32)
    (answers : Answers) :
    Sound (journalStep journal (.process timeDifference true answers)).entries
      (clientProcessCall journal.client timeDifference true answers).client.waitingUpdate := by
  have hhanded := handed_clientProcessCall h.initialized h.index_valid timeDifference answers
  rw [entries_process]
  have hput := sound_handed h (.process timeDifference true answers)
  generalize (if journal.client.pendingUpdateValid then some journal.client.pendingUpdate
    else coreUpdate journal.client (.process timeDifference true answers)) = handed
    at hhanded hput
  cases hhanded with
  | nothing _ hdownload hwritten hnext =>
      rw [hwritten, waitingUpdate_of_idle hnext]
      exact hput
  | kept update _ hmerges hwritten hnext hupdate =>
      rw [hwritten, waitingUpdate_of_pending hnext, hupdate]
      exact hput
  | accepted update _ hmerges hwritten hnext =>
      rw [hwritten, waitingUpdate_of_idle hnext]
      exact hput.accept ⟨_, rfl⟩

theorem ClientMove.frame {client next : Client} {call : ClientCall} {seen accepted : Option Word}
    (h : ClientMove client call next seen accepted) :
    next.initialized = client.initialized ∧ next.logicalDevice = client.logicalDevice := by
  cases h <;> exact ⟨rfl, rfl⟩

theorem frame_clientStep {client : Client} (hinitialized : client.initialized = true)
    (hindex : profileIndex client.logicalDevice indexStatusword ≠ indexInvalid)
    (call : ClientCall) :
    (clientStep client call).initialized = true ∧
      profileIndex (clientStep client call).logicalDevice indexStatusword ≠ indexInvalid := by
  obtain ⟨hkept, hdevice⟩ := (clientMove_clientStep client call).frame
  rw [hkept, hdevice]
  exact ⟨hinitialized, hindex⟩

theorem kept_journalStep {journal : Journal} (h : Kept journal) (call : ClientCall) :
    Kept (journalStep journal call) := by
  obtain ⟨hinitialized, hindex⟩ := frame_clientStep h.initialized h.index_valid call
  refine ⟨hinitialized, hindex, ?_⟩
  cases call with
  | setTarget code => exact sound_setTarget h code
  | clearTarget => exact sound_clearTarget h
  | requestFaultReset => exact sound_requestFaultReset h
  | process timeDifference resultGiven answers =>
      cases resultGiven with
      | false => exact h.sound
      | true => exact sound_process h timeDifference answers

theorem kept_clientInit {transport : Transport} {opsGiven : Bool} {config : ClientConfig}
    {client : Client} (hinit : clientInit transport opsGiven config = some client) :
    Kept { client := client } := by
  have hbalanced := balanced_clientInit hinit
  refine ⟨hbalanced.initialized, hbalanced.index_valid, ?_⟩
  have hidle : client.pendingUpdateValid = false := by
    unfold clientInit at hinit
    split_ifs at hinit
    obtain rfl := Option.some.inj hinit
    rfl
  rw [waitingUpdate_of_idle hidle]
  exact ⟨.empty [] (by simp), by simp, by simp⟩

/-! ## The laws of one call -/

/-- Outside the PDS bits the Controlword is the one that was read, inside them it is the
update. -/
structure Masked (update : ControlwordUpdate) (read word : Word) : Prop where
  outside : word &&& ~~~pdsControlwordMask = read &&& ~~~pdsControlwordMask
  inside : word &&& pdsControlwordMask = update.value &&& pdsControlwordMask

theorem masked_apply {update : ControlwordUpdate} (h : update.Owned) (read : Word) :
    Masked update read (applyControlwordUpdate read update) := by
  have hclear : ~~~pdsControlwordMask &&& pdsControlwordMask = 0 := by decide
  have hclear' : pdsControlwordMask &&& ~~~pdsControlwordMask = 0 := by decide
  unfold applyControlwordUpdate
  rw [h.valid, h.mask]
  refine ⟨?_, ?_⟩
  · rw [Bool.not_true, if_neg Bool.false_ne_true, BitVec.and_or_distrib_right, BitVec.and_assoc,
      BitVec.and_assoc, BitVec.and_self, hclear']
    simp
  · rw [Bool.not_true, if_neg Bool.false_ne_true, BitVec.and_or_distrib_right, BitVec.and_assoc,
      BitVec.and_assoc, BitVec.and_self, hclear]
    simp

/-- A write to the remote Controlword, whether it is accepted or not. -/
structure Issues (journal : Journal) (call : ClientCall) (answers : Answers)
    (download : Download) : Prop where
  index_eq : download.index = profileIndex journal.client.logicalDevice indexControlword
  read : (controlwordRead journal.client answers).accepted = true
  masked : ∃ update ∈ (journalStep journal call).entries.map Entry.item,
    Masked update (decodeU16 (controlwordRead journal.client answers).transfer)
      (wordOfBytes download.data)

/-- What a process call does to the core, and to the remote axis. -/
structure Disciplined (journal : Journal) (call : ClientCall) : Prop where
  issues : ∀ timeDifference resultGiven answers download,
    call = .process timeDifference resultGiven answers →
      (clientProcessCall journal.client timeDifference resultGiven answers).download =
          some download → Issues journal call answers download
  runs : ∀ feedback elapsed, coreRun journal.client call = some (feedback, elapsed) →
    (clientStep journal.client call).controller =
      (process journal.client.controller feedback elapsed).1
  rests : call.intent = none → coreRun journal.client call = none →
    ∃ age, (clientStep journal.client call).controller = journal.client.controller.aged age
  waits : journal.client.pendingUpdateValid = true → coreRun journal.client call = none ∧
    ∀ timeDifference resultGiven answers, call = .process timeDifference resultGiven answers →
      (clientProcessCall journal.client timeDifference resultGiven
          answers).step.statuswordTransfer = clearedTransfer ∧
        ∀ other, clientProcessCall journal.client timeDifference resultGiven
            { answers with statuswordUpload := other } =
          clientProcessCall journal.client timeDifference resultGiven answers

theorem items_journalStep (journal : Journal) (call : ClientCall) :
    (journalStep journal call).entries.map Entry.item =
      journal.entries.map Entry.item ++ (coreUpdate journal.client call).toList := by
  unfold journalStep
  dsimp only
  cases written journal.client call <;> cases coreUpdate journal.client call <;>
    cases retires journal.client call <;> simp

theorem issues_process {journal : Journal} (h : Kept journal) {timeDifference : UInt32}
    {answers : Answers} {download : Download}
    (hdownload : (clientProcessCall journal.client timeDifference true answers).download =
      some download) :
    Issues journal (.process timeDifference true answers) answers download := by
  have hhanded := handed_clientProcessCall h.initialized h.index_valid timeDifference answers
  have hput := sound_handed h (.process timeDifference true answers)
  have hitems : ((coreUpdate journal.client (.process timeDifference true answers)).elim
      journal.entries (put journal.entries)).map Entry.item =
        (journalStep journal (.process timeDifference true answers)).entries.map Entry.item := by
    rw [items_journalStep]
    cases coreUpdate journal.client (.process timeDifference true answers) with
    | none => exact (List.append_nil _).symm
    | some update => exact items_put _ _
  generalize (if journal.client.pendingUpdateValid then some journal.client.pendingUpdate
    else coreUpdate journal.client (.process timeDifference true answers)) = handed
    at hhanded hput
  have hmerges : ∃ update, handed = some update ∧
      Merges journal.client answers update download := by
    cases hhanded with
    | nothing _ hnone => exact absurd (hnone.symm.trans hdownload) (Option.some_ne_none _).symm
    | kept update _ hmerges => exact ⟨update, rfl, hmerges download hdownload⟩
    | accepted update _ hmerges => exact ⟨update, rfl, hmerges download hdownload⟩
  obtain ⟨update, rfl, hindex, hread, hdata⟩ := hmerges
  have hmem := hput.ahead.mem
  refine ⟨hindex, hread, update, ?_, ?_⟩
  · rw [← hitems]
    exact List.mem_map_of_mem hmem
  · rw [hdata, wordOfBytes_encodeU16]
    exact masked_apply (hput.owned _ hmem) _

/-- A core run is the one the client makes. -/
theorem controller_of_coreRun {client : Client}
    (hindex : profileIndex client.logicalDevice indexStatusword ≠ indexInvalid)
    {call : ClientCall} {feedback : Feedback} {elapsed : UInt32}
    (hrun : coreRun client call = some (feedback, elapsed)) :
    (clientStep client call).controller = (process client.controller feedback elapsed).1 := by
  unfold coreRun at hrun
  split at hrun
  · rename_i timeDifference answers
    split_ifs at hrun with hidle
    obtain ⟨rfl, rfl⟩ := Prod.mk.inj (Option.some.inj hrun)
    simp only [Bool.or_eq_true, not_or, Bool.not_eq_true, decide_eq_true_eq] at hidle
    obtain ⟨⟨hinitialized, hpending⟩, hadmitted⟩ := hidle
    unfold clientStep
    dsimp only
    rw [client_clientProcessCall (by simpa using hinitialized) hindex, if_neg (by simp [hpending]),
      if_neg hadmitted]
    obtain ⟨_, _, _, hclient, -⟩ := @client_processStatusword client
      { controllerResult := getResult client.controller } timeDifference
      (statuswordRead client answers).transfer answers rfl
    rw [hclient]
  · contradiction

theorem controller_of_rest {client : Client} (hinitialized : client.initialized = true)
    (hindex : profileIndex client.logicalDevice indexStatusword ≠ indexInvalid)
    (timeDifference : UInt32) (answers : Answers)
    (hrest : coreRun client (.process timeDifference true answers) = none) :
    ∃ age, (clientProcessCall client timeDifference true answers).client.controller =
      client.controller.aged age := by
  rw [client_clientProcessCall hinitialized hindex]
  rw [coreRun_process] at hrest
  by_cases hpending : client.pendingUpdateValid = true
  · rw [if_pos hpending]
    obtain ⟨deferred, -, hkept | haccepted⟩ := @client_retryPendingUpdate client
      { controllerResult := getResult client.controller } timeDifference answers rfl
    · rw [hkept]
      exact ⟨client.controller.feedbackElapsed, rfl⟩
    · obtain ⟨age, haged⟩ := commit_aged
        { clearPendingUpdate { client with deferredElapsed := deferred } with
          pendingFaultResetEdge := false }
      rw [haccepted, haged]
      exact ⟨age, rfl⟩
  rw [if_neg hpending]
  by_cases hrefused : (statuswordRead client answers).call.status ≠ .ok
  · obtain ⟨deferred, hdeferred, -⟩ :=
      exists_saturatingAddU32 client.deferredElapsed timeDifference
    rw [if_pos hrefused, hdeferred]
    exact ⟨client.controller.feedbackElapsed, rfl⟩
  · rw [if_neg (by simpa [hinitialized, hpending] using hrefused)] at hrest
    contradiction

theorem statuswordTransfer_flush (client : Client) (step : StepResult) (answers : Answers) :
    (flushPendingUpdate client step answers).step.statuswordTransfer =
      step.statuswordTransfer := by
  unfold flushPendingUpdate
  dsimp only
  split_ifs <;> rfl

/-- With an update pending, the answer to a Statusword upload makes no difference. -/
theorem clientProcessCall_waits {client : Client} (hpending : client.pendingUpdateValid = true)
    (timeDifference : UInt32) (resultGiven : Bool) (answers : Answers) :
    (clientProcessCall client timeDifference resultGiven answers).step.statuswordTransfer =
        clearedTransfer ∧
      ∀ other, clientProcessCall client timeDifference resultGiven
          { answers with statuswordUpload := other } =
        clientProcessCall client timeDifference resultGiven answers := by
  unfold clientProcessCall clientProcess
  dsimp only
  rw [if_pos hpending]
  refine ⟨?_, fun other => ?_⟩
  · by_cases hrefused : (!resultGiven || !client.initialized) = true
    · rw [if_pos hrefused]
    · rw [if_neg hrefused]
      unfold retryPendingUpdate
      dsimp only
      split_ifs
      · exact statuswordTransfer_flush _ _ answers
      · exact statuswordTransfer_flush _ _ answers
  · rw [if_pos hpending]
    rfl

theorem disciplined_of_kept {journal : Journal} (h : Kept journal) (call : ClientCall) :
    Disciplined journal call where
  issues := by
    rintro timeDifference resultGiven answers download rfl hdownload
    cases resultGiven with
    | false => exact absurd hdownload (Option.some_ne_none _).symm
    | true => exact issues_process h hdownload
  runs := fun feedback elapsed hrun => controller_of_coreRun h.index_valid hrun
  rests := by
    intro hintent hrest
    cases call with
    | process timeDifference resultGiven answers =>
        cases resultGiven with
        | false => exact ⟨journal.client.controller.feedbackElapsed, rfl⟩
        | true => exact controller_of_rest h.initialized h.index_valid timeDifference answers hrest
    | _ => exact absurd hintent (Option.some_ne_none _)
  waits := by
    intro hpending
    refine ⟨coreRun_of_pending hpending call, ?_⟩
    rintro timeDifference resultGiven answers -
    exact clientProcessCall_waits hpending timeDifference resultGiven answers

/-! ## The discipline of a run -/

/-- What the remote axis gets from the updates of the core, over a list of calls. -/
structure UpdateDiscipline (client : Client) (calls : List ClientCall) (journal : Journal) :
    Prop where
  client_eq : journal.client = clientAfter client calls
  emitted : journal.entries.map Entry.item = outputs clientStep coreUpdate client calls
  accepted : results journal.entries = writes client calls
  made : ∀ entry ∈ journal.entries, ∀ word, entry.fate = .accepted word →
    MadeFrom entry.item word
  inOrder : ∃ updates, updates.Sublist (outputs clientStep coreUpdate client calls) ∧
    List.Forall₂ MadeFrom updates (writes client calls)
  waiting : ∀ before entry after, journal.entries = before ++ entry :: after →
    entry.fate = .waiting → after = [] ∧ journal.client.waitingUpdate = some entry.item
  disciplined : EveryStep journalStep Disciplined { client := client } calls

theorem items_run (journal : Journal) (calls : List ClientCall) :
    (run journalStep journal calls).entries.map Entry.item =
      journal.entries.map Entry.item ++ outputs clientStep coreUpdate journal.client calls := by
  induction calls generalizing journal with
  | nil => exact (List.append_nil _).symm
  | cons call calls ih =>
      rw [run_cons, ih, items_journalStep, outputs_cons, List.append_assoc]
      rfl

/-- The accepted words, and those of one more call. -/
theorem results_journalStep {journal : Journal} (h : Kept journal) (call : ClientCall) :
    results (journalStep journal call).entries =
      results journal.entries ++ (written journal.client call).toList := by
  cases call with
  | process timeDifference resultGiven answers =>
      cases resultGiven with
      | false => exact (List.append_nil _).symm
      | true =>
          have hhanded := handed_clientProcessCall h.initialized h.index_valid timeDifference
            answers
          have hput := sound_handed h (.process timeDifference true answers)
          have hresults : results ((coreUpdate journal.client
              (.process timeDifference true answers)).elim journal.entries
                (put journal.entries)) = results journal.entries := by
            cases coreUpdate journal.client (.process timeDifference true answers) with
            | none => rfl
            | some update => exact results_put _ _
          rw [entries_process, written]
          generalize (if journal.client.pendingUpdateValid then some journal.client.pendingUpdate
            else coreUpdate journal.client (.process timeDifference true answers)) = handed
            at hhanded hput
          cases hhanded with
          | nothing _ hdownload hwritten =>
              rw [hwritten]
              exact hresults.trans (List.append_nil _).symm
          | kept update _ hmerges hwritten =>
              rw [hwritten]
              exact hresults.trans (List.append_nil _).symm
          | accepted update _ hmerges hwritten =>
              rw [hwritten]
              exact (hput.ahead.results_accepted _).trans (congrArg (· ++ _) hresults)
  | _ =>
      rw [entries_journalStep rfl rfl]
      refine Eq.trans ?_ (List.append_nil _).symm
      split_ifs
      · exact h.sound.ahead.results_retired
      · rfl

theorem results_run {journal : Journal} (h : Kept journal) (calls : List ClientCall) :
    results (run journalStep journal calls).entries =
      results journal.entries ++ writes journal.client calls := by
  induction calls generalizing journal with
  | nil => exact (List.append_nil _).symm
  | cons call calls ih =>
      rw [run_cons, ih (kept_journalStep h call), results_journalStep h, List.append_assoc]
      rfl

/-- Every write to the remote Controlword merges one emitted update into the Controlword
read in the same call, nothing is read and no core runs before the update is settled, and
each update is accepted at most once, in order, and is missing only when it was retired. -/
theorem updateDiscipline_of_calls {transport : Transport} {opsGiven : Bool}
    {config : ClientConfig} {client : Client}
    (hinit : clientInit transport opsGiven config = some client) (calls : List ClientCall) :
    UpdateDiscipline client calls (run journalStep { client := client } calls) := by
  have hstart := kept_clientInit hinit
  have hstep : ∀ journal call, Kept journal → Kept (journalStep journal call) :=
    fun journal call h => kept_journalStep h call
  have hkept : Kept (run journalStep { client := client } calls) :=
    run_invariant hstep hstart calls
  have hitems : (run journalStep { client := client } calls).entries.map Entry.item =
      outputs clientStep coreUpdate client calls := items_run { client := client } calls
  have hresults : results (run journalStep { client := client } calls).entries =
      writes client calls := results_run hstart calls
  obtain ⟨updates, hsublist, hmade⟩ := results_sublist hkept.sound.made
  rw [hitems] at hsublist
  rw [hresults] at hmade
  exact {
    client_eq := run_hom Journal.client (fun _ _ => rfl) { client := client } calls
    emitted := hitems
    accepted := hresults
    made := hkept.sound.made
    inOrder := ⟨updates, hsublist, hmade⟩
    waiting := fun _ _ _ hsplit hfate => hkept.sound.ahead.waiting_last hsplit hfate
    disciplined := everyStep_of_run_invariant hstep
      (fun journal call h => disciplined_of_kept h call) hstart calls }

/-- A command that waits, a new target that retires it, and the command towards the new
target, accepted at the second attempt. -/
def retargetedCalls : List ClientCall :=
  [ .setTarget 3,
    .process 10 true ⟨wordAnswer 0x21 0, wordAnswer 0x50 0x01, busyAnswer⟩,
    .setTarget 0,
    .process 10 true ⟨wordAnswer 0x21 0, wordAnswer 0x50 0x01, busyAnswer⟩,
    .process 10 true ⟨busyAnswer, wordAnswer 0x57 0x02, wordAnswer 0 0⟩ ]

theorem updateDiscipline_retargeted :
    ∃ client, clientInit ⟨true, true⟩ true ⟨1, 0, patientConfig⟩ = some client ∧
      UpdateDiscipline client retargetedCalls
        (run journalStep { client := client } retargetedCalls) ∧
      (run journalStep { client := client } retargetedCalls).entries =
        [⟨⟨0x0007, 0x008F, true⟩, .retired⟩, ⟨⟨0x0000, 0x008F, true⟩, .accepted 0x0250⟩] := by
  have hinit : clientInit ⟨true, true⟩ true ⟨1, 0, patientConfig⟩ = some
      { transport := ⟨true, true⟩, controller := init patientConfig, nodeId := 1,
        logicalDevice := 0, initialized := true } := rfl
  refine ⟨_, hinit, updateDiscipline_of_calls hinit retargetedCalls, ?_⟩
  decide +kernel

end CanopenRtt.Cia402.Controller
