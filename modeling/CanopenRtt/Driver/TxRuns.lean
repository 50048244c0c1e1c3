import CanopenRtt.Driver.TxPath
import CanopenRtt.Support.Monitor
import CanopenRtt.Support.Run
/-!
# Transmission in any interleaving

Any number of threads are inside `CO_CANsend`, while others configure buffers, open and close the
transmit gate, exchange the observer, clear pending PDOs and poll the status. A section that holds
`canSendMutex` is one step; everything between two sections interleaves.
-/

namespace CanopenRtt.Driver

open Support

/-- The next step of one `CO_CANsend`. -/
inductive SendAt where
  | gate (buffer : Nat)
  | check (buffer : Nat)
  | submit (buffer : Nat)
  | commit (buffer : Nat) (ret : CanError)
  | notify (buffer : Nat) (observer : Observer)
  | returned (ret : CanError)

/-- What has happened; `call` numbers the calls of `CO_CANsend`. -/
inductive TxEvent where
  | gate (call : Nat) (enabled : Bool)
  | refused (call : Nat)
  | submitted (call : Nat) (frame : TxFrame) (ret : CanError)
  | committed (call : Nat) (ret : CanError) (observer : Option Observer)
  | notified (call : Nat) (observer : Observer)
  | setTxEnabled (enabled : Bool)
  | setObserver (observer : Option Observer)
  | cleared (any : Bool)
  | polled (status : CanStatus) (report : ErrorStatus)

/-- One step of a call: the module, where the call goes on, and what happened. -/
def SendAt.advance (msgSize call : Nat) (answer : WriteAnswer) (m : TxModule) :
    SendAt → TxModule × SendAt × List TxEvent
  | .gate buffer =>
      (m, if m.txEnabled then .check buffer else .returned .no, [.gate call m.txEnabled])
  | .check buffer =>
      let (m, overflow) := m.sendCheck buffer
      if overflow then (m, .returned .txOverflow, [.refused call]) else (m, .submit buffer, [])
  | .submit buffer =>
      let frame := (m.txArray.getD buffer {}).message
      let ret := writeResultToError msgSize answer
      (m, .commit buffer ret, [.submitted call frame ret])
  | .commit buffer ret =>
      let (m, observer) := m.sendCommit ret
      (m, observer.elim (.returned ret) (.notify buffer), [.committed call ret observer])
  | .notify _ observer => (m, .returned .no, [.notified call observer])
  | .returned ret => (m, .returned ret, [])

structure TxSystem where
  canModule : TxModule
  calls : List SendAt := []
  history : List TxEvent := []

inductive TxAction where
  /-- A thread enters `CO_CANsend` with a buffer of the array. -/
  | send (buffer : Nat)
  | advance (call : Nat) (answer : WriteAnswer)
  | bufferInit (index : Nat) (args : TxArgs)
  /-- CANopenNode writes the payload of a buffer. -/
  | fill (buffer : Nat) (data : Vector (BitVec 8) 8)
  /-- Code outside this port leaves a frame pending. -/
  | pend (buffer : Nat)
  | setTxEnabled (enabled : Bool)
  | setTxSuccessCallback (observer : Option Observer)
  | clearPendingSyncPDOs
  | process (reply : Option CanStatus)

namespace TxSystem

/-- After `CO_CANmodule_init` with that many transmit buffers. -/
def start (size : Nat) : TxSystem where
  canModule := .initialized size

def log (s : TxSystem) (events : List TxEvent) : TxSystem :=
  { s with history := s.history ++ events }

def step (msgSize : Nat) (s : TxSystem) : TxAction → TxSystem
  | .send buffer =>
      if buffer < s.canModule.txArray.length then { s with calls := s.calls ++ [.gate buffer] }
      else s
  | .advance call answer =>
      match s.calls[call]? with
      | none => s
      | some pc =>
          let (m, pc, events) := pc.advance msgSize call answer s.canModule
          { s with canModule := m, calls := s.calls.set call pc }.log events
  | .bufferInit index args => { s with canModule := (s.canModule.canTxBufferInit index args).1 }
  | .fill buffer data =>
      { s with
        canModule := { s.canModule with
          txArray := s.canModule.txArray.modify buffer fun tx => { tx with data := data } } }
  | .pend buffer =>
      { s with
        canModule := { s.canModule with
          txArray := s.canModule.txArray.modify buffer fun tx => { tx with bufferFull := true }
          canTxCount := s.canModule.canTxCount + 1 } }
  | .setTxEnabled enabled =>
      { s with canModule := { s.canModule with txEnabled := enabled } }.log [.setTxEnabled enabled]
  | .setTxSuccessCallback observer =>
      { s with canModule := s.canModule.setTxSuccessCallback observer }.log [.setObserver observer]
  | .clearPendingSyncPDOs =>
      let (m, cleared) := s.canModule.clearPendingSyncPDOs
      { s with canModule := m }.log [.cleared cleared]
  | .process reply =>
      { s with canModule := s.canModule.poll reply }.log
        (reply.map fun status => TxEvent.polled status (s.canModule.errors status)).toList

end TxSystem

/-! ## What the history says -/

namespace TxEvent

def ofCall (call : Nat) : TxEvent → Bool
  | .gate other _ | .refused other | .submitted other _ _ | .committed other _ _
  | .notified other _ => other = call
  | _ => false

/-- A frame was refused, or the device did not take it. -/
def isLoss : TxEvent → Bool
  | .refused _ => true
  | .committed _ ret _ => ret ≠ .no
  | _ => false

/-- Synchronous PDOs were cleared. -/
def isLate : TxEvent → Bool
  | .cleared any => any
  | _ => false

def isPoll : TxEvent → Bool
  | .polled _ _ => true
  | _ => false

end TxEvent

/-- Something of that kind has happened since the last status was read. -/
def sincePoll (kind : TxEvent → Bool) (events : List TxEvent) : Bool :=
  (events.reverse.takeWhile fun event => !event.isPoll).any kind

/-- What the last event of a kind has set. -/
def lastOf {α : Type} (read : TxEvent → Option α) (default : α) (events : List TxEvent) : α :=
  (events.reverse.findSome? read).getD default

def TxEvent.enabled : TxEvent → Option Bool
  | .setTxEnabled enabled => some enabled
  | _ => none

def TxEvent.observer : TxEvent → Option (Option Observer)
  | .setObserver observer => some observer
  | _ => none

def TxEvent.drops : TxEvent → Option (BitVec 32)
  | .polled status _ => some status.dropedsndpkg
  | _ => none

@[simp] theorem sincePoll_nil (kind : TxEvent → Bool) : sincePoll kind [] = false := rfl

@[simp] theorem sincePoll_concat (kind : TxEvent → Bool) (events : List TxEvent)
    (event : TxEvent) :
    sincePoll kind (events ++ [event]) =
      (!event.isPoll && (kind event || sincePoll kind events)) := by
  cases hpoll : event.isPoll <;> simp [sincePoll, hpoll]

@[simp] theorem lastOf_nil {α : Type} (read : TxEvent → Option α) (default : α) :
    lastOf read default [] = default := rfl

@[simp] theorem lastOf_concat {α : Type} (read : TxEvent → Option α) (default : α)
    (events : List TxEvent) (event : TxEvent) :
    lastOf read default (events ++ [event]) = (read event).getD (lastOf read default events) := by
  cases hread : read event <;> simp [lastOf, hread]

/-- What one call has done when it is at `pc`. -/
inductive SendWord (call : Nat) : SendAt → List TxEvent → Prop where
  | gate (buffer : Nat) : SendWord call (.gate buffer) []
  | suppressed : SendWord call (.returned .no) [.gate call false]
  | check (buffer : Nat) : SendWord call (.check buffer) [.gate call true]
  | refused : SendWord call (.returned .txOverflow) [.gate call true, .refused call]
  | submit (buffer : Nat) : SendWord call (.submit buffer) [.gate call true]
  | commit (buffer : Nat) (frame : TxFrame) (ret : CanError) :
      SendWord call (.commit buffer ret) [.gate call true, .submitted call frame ret]
  | failed (frame : TxFrame) (ret : CanError) (hret : ret ≠ .no) :
      SendWord call (.returned ret)
        [.gate call true, .submitted call frame ret, .committed call ret none]
  | unobserved (frame : TxFrame) :
      SendWord call (.returned .no)
        [.gate call true, .submitted call frame .no, .committed call .no none]
  | notify (buffer : Nat) (frame : TxFrame) (observer : Observer) :
      SendWord call (.notify buffer observer)
        [.gate call true, .submitted call frame .no, .committed call .no (some observer)]
  | notified (frame : TxFrame) (observer : Observer) :
      SendWord call (.returned .no)
        [.gate call true, .submitted call frame .no, .committed call .no (some observer),
          .notified call observer]

/-- What holds of the history before an event and the event. -/
def TxEvent.Lawful (before : List TxEvent) : TxEvent → Prop
  | .gate _ enabled => enabled = lastOf TxEvent.enabled true before
  | .submitted _ frame _ => frame.Standard
  | .committed _ ret observer =>
      observer = if ret = .no then lastOf TxEvent.observer none before else none
  | .polled status report =>
      report.pdoLate = sincePoll TxEvent.isLate before ∧
        ∀ t t', lastOf TxEvent.drops 0#32 before = tick 32 t →
          status.dropedsndpkg = tick 32 t' → t ≤ t' → t' < t + 2 ^ 31 →
          (report.txOverflow = true ↔ sincePoll TxEvent.isLoss before = true ∨ t < t')
  | _ => True

/-- The law of every interleaving. -/
structure TxSystem.Law (s : TxSystem) : Prop where
  events : EachAfter TxEvent.Lawful s.history
  calls : ∀ call pc, s.calls[call]? = some pc →
    SendWord call pc (s.history.filter (TxEvent.ofCall call))
  /-- What is still to be reported. -/
  pending : s.canModule.txEvents =
    { overflow := sincePoll TxEvent.isLoss s.history
      pdoLate := sincePoll TxEvent.isLate s.history }

/-! ## The words of the calls -/

theorem SendWord.advance {msgSize call : Nat} {answer : WriteAnswer} {m : TxModule} {pc : SendAt}
    {events : List TxEvent} (h : SendWord call pc events) :
    SendWord call (pc.advance msgSize call answer m).2.1
      (events ++ (pc.advance msgSize call answer m).2.2) := by
  cases h with
  | gate buffer =>
      cases henabled : m.txEnabled with
      | true => simpa [SendAt.advance, henabled] using SendWord.check buffer
      | false => simpa [SendAt.advance, henabled] using SendWord.suppressed
  | check buffer =>
      cases hfull : (m.sendCheck buffer).2 with
      | true => simpa [SendAt.advance, hfull] using SendWord.refused
      | false => simpa [SendAt.advance, hfull] using SendWord.submit buffer
  | submit buffer => exact SendWord.commit buffer _ _
  | commit buffer frame ret =>
      by_cases hret : ret = .no
      · subst hret
        cases hobserver : m.txSuccess with
        | none =>
            simpa [SendAt.advance, TxModule.sendCommit, hobserver] using SendWord.unobserved frame
        | some observer =>
            simpa [SendAt.advance, TxModule.sendCommit, hobserver] using
              SendWord.notify buffer frame observer
      · simpa [SendAt.advance, TxModule.sendCommit, hret] using SendWord.failed frame ret hret
  | notify buffer frame observer => exact SendWord.notified frame observer
  | suppressed => simpa [SendAt.advance] using SendWord.suppressed
  | refused => simpa [SendAt.advance] using SendWord.refused
  | failed frame ret hret => simpa [SendAt.advance] using SendWord.failed frame ret hret
  | unobserved frame => simpa [SendAt.advance] using SendWord.unobserved frame
  | notified frame observer => simpa [SendAt.advance] using SendWord.notified frame observer

theorem ofCall_advance {msgSize call other : Nat} {answer : WriteAnswer} {m : TxModule}
    {pc : SendAt} : ∀ event ∈ (pc.advance msgSize call answer m).2.2,
      event.ofCall other = decide (call = other) := by
  cases pc with
  | check buffer =>
      cases hfull : (m.sendCheck buffer).2 <;> simp [SendAt.advance, hfull, TxEvent.ofCall]
  | _ => simp [SendAt.advance, TxEvent.ofCall]

/-- Every call has done what its place says. -/
def Words (calls : List SendAt) (history : List TxEvent) : Prop :=
  ∀ call pc, calls[call]? = some pc → SendWord call pc (history.filter (TxEvent.ofCall call))

section

variable {calls : List SendAt} {history events : List TxEvent}

theorem Words.other (h : Words calls history)
    (hother : ∀ event ∈ events, ∀ call, event.ofCall call = false) :
    Words calls (history ++ events) := by
  intro call pc hpc
  have hnone : events.filter (TxEvent.ofCall call) = [] := by
    rw [List.filter_eq_nil_iff]
    intro event hevent
    simp [hother event hevent call]
  rw [List.filter_append, hnone, List.append_nil]
  exact h call pc hpc

theorem Words.enter (h : Words calls history) (buffer : Nat)
    (hknown : ∀ event ∈ history, ∀ call, event.ofCall call = true → call < calls.length) :
    Words (calls ++ [.gate buffer]) history := by
  intro call pc hpc
  by_cases hold : call < calls.length
  · rw [List.getElem?_append_left hold] at hpc
    exact h call pc hpc
  · have hnew : call = calls.length ∧ SendAt.gate buffer = pc := by
      rw [List.getElem?_append_right (Nat.le_of_not_lt hold)] at hpc
      have hlast := (List.getElem?_eq_some_iff.mp hpc).1
      simp only [List.length_singleton] at hlast
      have hzero : call - calls.length = 0 := by omega
      rw [hzero] at hpc
      exact ⟨by omega, Option.some.inj hpc⟩
    obtain ⟨rfl, rfl⟩ := hnew
    have hnone : history.filter (TxEvent.ofCall calls.length) = [] := by
      rw [List.filter_eq_nil_iff]
      intro event hevent hown
      exact absurd (hknown event hevent _ hown) (Nat.lt_irrefl _)
    rw [hnone]
    exact .gate buffer

theorem Words.advance (h : Words calls history) {msgSize call : Nat} {answer : WriteAnswer}
    {m : TxModule} {pc : SendAt} (hpc : calls[call]? = some pc) :
    Words (calls.set call (pc.advance msgSize call answer m).2.1)
      (history ++ (pc.advance msgSize call answer m).2.2) := by
  intro other pc' hpc'
  rw [List.filter_append]
  by_cases hsame : call = other
  · subst hsame
    have hall : (pc.advance msgSize call answer m).2.2.filter (TxEvent.ofCall call) =
        (pc.advance msgSize call answer m).2.2 := by
      rw [List.filter_eq_self]
      intro event hevent
      simp [ofCall_advance event hevent]
    rw [List.getElem?_set_self (List.getElem?_eq_some_iff.mp hpc).1] at hpc'
    rw [hall, ← Option.some.inj hpc']
    exact (h call pc hpc).advance
  · have hnone : (pc.advance msgSize call answer m).2.2.filter (TxEvent.ofCall other) = [] := by
      rw [List.filter_eq_nil_iff]
      intro event hevent
      simp [ofCall_advance event hevent, hsame]
    rw [List.getElem?_set_ne hsame] at hpc'
    rw [hnone, List.append_nil]
    exact h other pc' hpc'

end

/-! ## The module follows the history -/

/-- The fields that a later step reads are what the history says. -/
structure Follows (m : TxModule) (history : List TxEvent) : Prop where
  pending : m.txEvents =
    { overflow := sincePoll TxEvent.isLoss history, pdoLate := sincePoll TxEvent.isLate history }
  enabled : m.txEnabled = lastOf TxEvent.enabled true history
  observer : m.txSuccess = lastOf TxEvent.observer none history
  drops : m.txDropOld = lastOf TxEvent.drops 0#32 history
  buffers : ∀ tx ∈ m.txArray, tx.dlc.toNat ≤ 8

section

variable {m : TxModule} {history : List TxEvent}

theorem Follows.array (h : Follows m history) {txArray : List CanTx} {count : Nat}
    (hbuffers : ∀ tx ∈ txArray, tx.dlc.toNat ≤ 8) :
    Follows { m with txArray := txArray, canTxCount := count } history :=
  ⟨h.pending, h.enabled, h.observer, h.drops, hbuffers⟩

theorem mem_modify {buffers : List CanTx} {index : Nat} {change : CanTx → CanTx}
    (hkept : ∀ tx, (change tx).dlc = tx.dlc) (h : ∀ tx ∈ buffers, tx.dlc.toNat ≤ 8) :
    ∀ tx ∈ buffers.modify index change, tx.dlc.toNat ≤ 8 := by
  intro tx htx
  obtain ⟨i, hi, rfl⟩ := List.getElem_of_mem htx
  rw [List.length_modify] at hi
  rw [List.getElem_modify]
  split
  · rw [hkept]
    exact h _ (List.getElem_mem hi)
  · exact h _ (List.getElem_mem hi)

theorem Follows.bufferInit (h : Follows m history) (index : Nat) (args : TxArgs) :
    Follows (m.canTxBufferInit index args).1 history := by
  unfold TxModule.canTxBufferInit
  split
  · exact h
  case isFalse hvalid =>
      apply h.array
      intro tx htx
      rcases List.mem_or_eq_of_mem_set htx with hold | rfl
      · exact h.buffers tx hold
      · rw [not_or, BitVec.not_lt] at hvalid
        exact BitVec.le_def.mp hvalid.2

theorem Follows.concat (h : Follows m history) {after : TxModule} {event : TxEvent}
    (hpending : after.txEvents =
      { overflow := !event.isPoll && (event.isLoss || m.txEvents.overflow)
        pdoLate := !event.isPoll && (event.isLate || m.txEvents.pdoLate) })
    (henabled : after.txEnabled = event.enabled.getD m.txEnabled)
    (hobserver : after.txSuccess = event.observer.getD m.txSuccess)
    (hdrops : after.txDropOld = event.drops.getD m.txDropOld)
    (hbuffers : ∀ tx ∈ after.txArray, tx.dlc.toNat ≤ 8) :
    Follows after (history ++ [event]) := by
  refine ⟨?_, ?_, ?_, ?_, hbuffers⟩
  · rw [hpending, h.pending, sincePoll_concat, sincePoll_concat]
  · rw [henabled, h.enabled, lastOf_concat]
  · rw [hobserver, h.observer, lastOf_concat]
  · rw [hdrops, h.drops, lastOf_concat]

/-- The step of a call. -/
theorem Follows.advance (h : Follows m history) (msgSize call : Nat) (answer : WriteAnswer)
    (pc : SendAt) :
    Follows (pc.advance msgSize call answer m).1
      (history ++ (pc.advance msgSize call answer m).2.2) := by
  cases pc with
  | gate buffer => exact h.concat rfl rfl rfl rfl h.buffers
  | check buffer =>
      cases hfull : m.txArray[buffer]?.any (·.bufferFull) with
      | true =>
          simp only [SendAt.advance, TxModule.sendCheck, hfull, if_true]
          exact h.concat rfl rfl rfl rfl h.buffers
      | false =>
          simpa [SendAt.advance, TxModule.sendCheck, hfull] using h
  | submit buffer => exact h.concat rfl rfl rfl rfl h.buffers
  | commit buffer ret =>
      refine h.concat ?_ rfl rfl rfl h.buffers
      change (m.sendCommit ret).1.txEvents = _
      simp [TxModule.sendCommit, TxEvent.isPoll, TxEvent.isLoss, TxEvent.isLate, Bool.or_comm]
  | notify buffer observer => exact h.concat rfl rfl rfl rfl h.buffers
  | returned ret => simpa [SendAt.advance] using h

theorem Follows.lawful_advance (h : Follows m history) (hlawful : EachAfter TxEvent.Lawful history)
    (msgSize call : Nat) (answer : WriteAnswer) (pc : SendAt) :
    EachAfter TxEvent.Lawful (history ++ (pc.advance msgSize call answer m).2.2) := by
  cases pc with
  | gate buffer => exact hlawful.concat h.enabled
  | check buffer =>
      cases hfull : (m.sendCheck buffer).2 with
      | true =>
          simp only [SendAt.advance, hfull, if_true]
          exact hlawful.concat trivial
      | false => simpa [SendAt.advance, hfull] using hlawful
  | submit buffer =>
      apply hlawful.concat
      apply message_standard
      rw [List.getD_eq_getElem?_getD]
      cases htx : m.txArray[buffer]? with
      | none => simp
      | some tx => exact h.buffers tx (List.mem_of_getElem? htx)
  | commit buffer ret =>
      apply hlawful.concat
      change (m.sendCommit ret).2 = _
      rw [TxModule.sendCommit, h.observer]
  | notify buffer observer => exact hlawful.concat trivial
  | returned ret => simpa [SendAt.advance] using hlawful

theorem Follows.clear (h : Follows m history) :
    Follows m.clearPendingSyncPDOs.1 (history ++ [.cleared m.clearPendingSyncPDOs.2]) := by
  refine h.concat ?_ rfl rfl rfl ?_
  · simp [TxModule.clearPendingSyncPDOs, TxEvent.isPoll, TxEvent.isLoss, TxEvent.isLate,
      Bool.or_comm]
  · intro tx htx
    simp only [TxModule.clearPendingSyncPDOs, clearPending_spec, List.mem_map] at htx
    obtain ⟨before, hbefore, rfl⟩ := htx
    split
    · exact h.buffers before hbefore
    · exact h.buffers before hbefore

theorem Follows.lawful_poll (h : Follows m history) (status : CanStatus) :
    (TxEvent.polled status (m.errors status)).Lawful history := by
  refine ⟨?_, fun t t' hold hnow hle hclose => ?_⟩
  · simp [TxModule.errors, h.pending]
  · have hdrops := dropped_iff hle hclose
    simp only [TxModule.errors, h.pending, h.drops, hold, hnow, Bool.or_eq_true, hdrops]

end

/-! ## Whole runs -/

structure TxSystem.Inv (s : TxSystem) : Prop where
  follows : Follows s.canModule s.history
  lawful : EachAfter TxEvent.Lawful s.history
  words : Words s.calls s.history
  known : ∀ event ∈ s.history, ∀ call, event.ofCall call = true → call < s.calls.length

namespace TxSystem

theorem start_inv (size : Nat) : (start size).Inv := by
  refine ⟨⟨rfl, rfl, rfl, rfl, ?_⟩, eachAfter_nil, ?_, ?_⟩
  · intro tx htx
    rw [List.eq_of_mem_replicate htx]
    simp
  · intro call pc hpc
    simp [start] at hpc
  · simp [start]

variable {s : TxSystem}

/-- A step outside the calls. -/
theorem Inv.other (h : s.Inv) {m : TxModule} {event : TxEvent}
    (hfollows : Follows m (s.history ++ [event])) (hlawful : event.Lawful s.history)
    (hother : ∀ call, event.ofCall call = false) :
    ({ s with canModule := m }.log [event]).Inv where
  follows := hfollows
  lawful := h.lawful.concat hlawful
  words := h.words.other (by simpa using hother)
  known := by
    intro other hmem call hown
    rcases List.mem_append.mp hmem with hold | hnew
    · exact h.known other hold call hown
    · rw [List.mem_singleton.mp hnew, hother call] at hown
      cases hown

theorem Inv.silent (h : s.Inv) {m : TxModule} (hfollows : Follows m s.history) :
    ({ s with canModule := m } : TxSystem).Inv :=
  ⟨hfollows, h.lawful, h.words, h.known⟩

theorem Inv.advance (h : s.Inv) {msgSize call : Nat} {answer : WriteAnswer} {pc : SendAt}
    (hpc : s.calls[call]? = some pc) :
    ({ s with
        canModule := (pc.advance msgSize call answer s.canModule).1
        calls := s.calls.set call (pc.advance msgSize call answer s.canModule).2.1 }.log
      (pc.advance msgSize call answer s.canModule).2.2).Inv where
  follows := h.follows.advance msgSize call answer pc
  lawful := h.follows.lawful_advance h.lawful msgSize call answer pc
  words := h.words.advance hpc
  known := by
    intro event hmem other hown
    change other < (s.calls.set call _).length
    rw [List.length_set]
    rcases List.mem_append.mp hmem with hold | hnew
    · exact h.known event hold other hown
    · rw [ofCall_advance event hnew, decide_eq_true_eq] at hown
      rw [← hown]
      exact (List.getElem?_eq_some_iff.mp hpc).1

theorem Inv.step (h : s.Inv) (msgSize : Nat) (action : TxAction) : (s.step msgSize action).Inv := by
  cases action with
  | send buffer =>
      simp only [TxSystem.step]
      split
      · refine ⟨h.follows, h.lawful, h.words.enter buffer h.known, ?_⟩
        intro event hmem call hown
        have hbelow := h.known event hmem call hown
        simp only [List.length_append, List.length_singleton]
        omega
      · exact h
  | advance call answer =>
      simp only [TxSystem.step]
      cases hpc : s.calls[call]? with
      | none => exact h
      | some pc => exact h.advance hpc
  | bufferInit index args => exact h.silent (h.follows.bufferInit index args)
  | fill buffer data =>
      exact h.silent (h.follows.array (mem_modify (fun _ => rfl) h.follows.buffers))
  | pend buffer =>
      exact h.silent (h.follows.array (mem_modify (fun _ => rfl) h.follows.buffers))
  | setTxEnabled enabled =>
      exact h.other (h.follows.concat rfl rfl rfl rfl h.follows.buffers) trivial fun _ => rfl
  | setTxSuccessCallback observer =>
      exact h.other (h.follows.concat rfl rfl rfl rfl h.follows.buffers) trivial fun _ => rfl
  | clearPendingSyncPDOs => exact h.other h.follows.clear trivial fun _ => rfl
  | process reply =>
      cases reply with
      | none =>
          have hsame : s.step msgSize (.process none) = s := by
            simp [TxSystem.step, TxSystem.log, TxModule.poll]
          rw [hsame]
          exact h
      | some status =>
          exact h.other (h.follows.concat rfl rfl rfl rfl h.follows.buffers)
            (h.follows.lawful_poll status) fun _ => rfl

theorem Inv.law (h : s.Inv) : s.Law :=
  ⟨h.lawful, h.words, h.follows.pending⟩

/-- Every interleaving of any number of calls reports each lost frame and each cleared PDO once,
and calls the observer once for each frame that the device took. -/
theorem reports_of_run (size msgSize : Nat) (actions : List TxAction) :
    (run (step msgSize) (start size) actions).Law :=
  (run_invariant (fun _ action hinv => hinv.step msgSize action) (start_inv size) actions).law

end TxSystem

end CanopenRtt.Driver
