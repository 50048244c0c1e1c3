import CanopenRtt.Profile.MasterRuns
import Mathlib.Data.List.Induction
/-!
# Every admitted request is completed once

One caller at most is between its submission and its copy of the result. The invariant says
where its request stands: worked on, ended with a token on its way, or taken.
-/

namespace CanopenRtt.Profile

open Support

/-- `request` was admitted, and no generation was stopped since. -/
def LiveSince (trace : List MasterEvent) (request : Nat) : Prop :=
  ∃ before after, trace = before ++ .admitted request :: after ∧ ∀ e ∈ after, e.isStop = false

/-- Objects of a generation are used for a request only as long as no generation was stopped
since its admission. -/
def UsesLive (trace : List MasterEvent) : Prop :=
  ∀ before request generation after, trace = before ++ .used request generation :: after →
    LiveSince before request

theorem LiveSince.append {trace : List MasterEvent} {request : Nat} (h : LiveSince trace request)
    {more : List MasterEvent} (hmore : ∀ e ∈ more, e.isStop = false) :
    LiveSince (trace ++ more) request := by
  obtain ⟨before, after, rfl, hafter⟩ := h
  refine ⟨before, after ++ more, by rw [List.append_assoc, List.cons_append], ?_⟩
  intro e he
  rcases List.mem_append.mp he with hold | hnew
  · exact hafter e hold
  · exact hmore e hnew

theorem UsesLive.concat {trace : List MasterEvent} (h : UsesLive trace) {e : MasterEvent}
    (he : ∀ request generation, e = .used request generation → LiveSince trace request) :
    UsesLive (trace ++ [e]) := by
  intro before request generation after hsplit
  induction after using List.reverseRecOn with
  | nil =>
      obtain ⟨hbefore, hlast⟩ := List.append_inj' hsplit rfl
      rw [← hbefore]
      exact he request generation (List.singleton_inj.mp hlast)
  | append_singleton after last _ =>
      have hregroup : trace ++ [e] = (before ++ .used request generation :: after) ++ [last] := by
        rw [hsplit, List.append_assoc, List.cons_append]
      exact h before request generation after (List.append_inj' hregroup rfl).1

theorem UsesLive.uses {trace : List MasterEvent} {request : Nat} (h : UsesLive trace)
    {used : List Nat} (hlive : used ≠ [] → LiveSince trace request) :
    UsesLive (trace ++ used.map (.used request)) := by
  induction used generalizing trace with
  | nil => rwa [List.map_nil, List.append_nil]
  | cons generation used ih =>
      have hnow : LiveSince trace request := hlive (List.cons_ne_nil _ _)
      have hnext : UsesLive (trace ++ [.used request generation]) :=
        h.concat fun other _ heq => by
          cases heq
          exact hnow
      rw [List.map_cons, List.append_cons]
      refine ih hnext fun _ => hnow.append fun e he => ?_
      rw [List.mem_singleton.mp he]
      rfl

theorem modify_concat (older : List Request) (request : Request) (f : Request → Request) :
    (older ++ [request]).modify older.length f = older ++ [f request] := by
  induction older with
  | nil => rfl
  | cons head older ih =>
      rw [List.cons_append, List.length_cons, List.modify_succ_cons, ih, List.cons_append]

theorem request_of_concat {requests older : List Request} {last request : Request} {i : Nat}
    (h : requests = older ++ [last]) (hat : requests[i]? = some request) :
    request ∈ older ∨ request = last ∧ i = older.length := by
  rw [h] at hat
  rcases Nat.lt_or_ge i older.length with hlt | hge
  · rw [List.getElem?_append_left hlt] at hat
    exact .inl (List.mem_of_getElem? hat)
  · rw [List.getElem?_append_right hge] at hat
    obtain ⟨hzero, heq⟩ := List.getElem?_eq_some_iff.mp hat
    rw [List.length_singleton] at hzero
    have hfirst : i - older.length = 0 := by omega
    simp only [hfirst, List.getElem_cons_zero] at heq
    exact .inr ⟨heq.symm, by omega⟩

namespace MasterRuntime

/-- The runtimes differ in the generation and its readiness only. -/
structure SameRequest (r r' : MasterRuntime) : Prop where
  phase : r'.phase = r.phase
  request : r'.request = r.request
  uploadData : r'.uploadData = r.uploadData
  uploadOverflow : r'.uploadOverflow = r.uploadOverflow
  result : r'.result = r.result

theorem Staged.congr {call : MasterCall} {received : List (BitVec 8)} {r r' : MasterRuntime}
    (h : r.Staged call received) (hsame : r.SameRequest r') : r'.Staged call received where
  active := by
    rw [hsame.phase]
    exact h.active
  request := hsame.request.trans h.request
  pending hphase := h.pending (hsame.phase.symm.trans hphase)
  upload hphase := by
    rw [hsame.uploadData, hsame.uploadOverflow]
    exact h.upload (hsame.phase.symm.trans hphase)
  download hphase := h.download (hsame.phase.symm.trans hphase)

theorem publish_sameRequest (r : MasterRuntime) (co : Option CoObject) (client : Option Nat)
    (ready : Bool) : r.SameRequest (r.publish co client ready) := ⟨rfl, rfl, rfl, rfl, rfl⟩

theorem cancelOutcome_active {r : MasterRuntime} (h : r.phase ≠ .idle) :
    Master.cancelOutcome r = { runtime := r.finish .canceled 0 0, signal := true } := by
  unfold Master.cancelOutcome cancelActive
  rw [if_pos h]

theorem cancelActive_progress {call : MasterCall} {received : List (BitVec 8)} {r : MasterRuntime}
    (h : r.Staged call received) : Progress call received r (Master.cancelOutcome r) := by
  rw [cancelOutcome_active h.active]
  exact .failed .canceled nofun 0 0 nofun

theorem communicationBind_sameRequest {build : MasterBuild} {r r' : MasterRuntime} {co : CoObject}
    (h : r.communicationBind build co = some r') : r.SameRequest r' := by
  unfold communicationBind at h
  split at h
  · contradiction
  · split at h
    · contradiction
    · cases h
      exact publish_sameRequest ..

theorem communicationReadyAt_sameRequest (r : MasterRuntime) :
    r.SameRequest r.communicationReadyAt := by
  unfold communicationReadyAt
  split
  · exact publish_sameRequest ..
  · exact ⟨rfl, rfl, rfl, rfl, rfl⟩

end MasterRuntime

namespace Request

/-- The request has its one result, its one token, and its caller has the result. -/
structure Settled (request : Request) : Prop where
  results : ∃ result, request.results = [result] ∧ request.copied = some result
  tokens : request.tokens = 1
  exact : ∀ result ∈ request.results, MasterRuntime.UploadExact request.call request.received result

/-- Nothing has come of the request yet. -/
structure Open (request : Request) : Prop where
  results : request.results = []
  tokens : request.tokens = 0
  copied : request.copied = none

end Request

/-- What a caller that owns `callMutex` is doing. -/
inductive Held where
  | quiet
  | blocked (request : Nat)
  | copying (request : Nat)
  deriving DecidableEq

def CallerAt.held : CallerAt → Option Held
  | .holding _ _ | .releasing _ => some .quiet
  | .blocked request _ => some (.blocked request)
  | .copying request _ => some (.copying request)
  | _ => none

namespace Desk

/-- No request is active. -/
structure Resting (d : Desk) (signals : List Nat) : Prop where
  idle : d.runtime.phase = .idle
  tokens : d.completionTokens = 0
  signals : signals = []
  settled : ∀ request ∈ d.requests, request.Settled

/-- The last request is being worked on. A stop that came after its admission is about to
cancel it. -/
structure Working (d : Desk) (signals : List Nat) (canceling : Bool) (older : List Request)
    (request : Request) : Prop where
  requests : d.requests = older ++ [request]
  settled : ∀ other ∈ older, other.Settled
  fresh : request.Open
  staged : d.runtime.Staged request.call request.received
  tokens : d.completionTokens = 0
  signals : signals = []
  live : LiveSince d.trace older.length ∨ d.runtime.communicationReady = false ∧ canceling = true

/-- The last request has its result, and its token is on the way or there. -/
structure Ended (d : Desk) (signals : List Nat) (older : List Request) (request : Request) :
    Prop where
  requests : d.requests = older ++ [request]
  settled : ∀ other ∈ older, other.Settled
  idle : d.runtime.phase = .idle
  result : request.results = [d.runtime.result]
  exact : MasterRuntime.UploadExact request.call request.received d.runtime.result
  copied : request.copied = none
  token : signals = [older.length] ∧ d.completionTokens = 0 ∧ request.tokens = 0 ∨
    signals = [] ∧ d.completionTokens = 1 ∧ request.tokens = 1

/-- The caller of the last request has taken its token. -/
structure Taken (d : Desk) (signals : List Nat) (older : List Request) (request : Request) :
    Prop where
  requests : d.requests = older ++ [request]
  settled : ∀ other ∈ older, other.Settled
  idle : d.runtime.phase = .idle
  result : request.results = [d.runtime.result]
  exact : MasterRuntime.UploadExact request.call request.received d.runtime.result
  copied : request.copied = none
  tokens : request.tokens = 1
  taken : d.completionTokens = 0
  signals : signals = []

/-- The desk fits to what the owners of `callMutex` are doing. -/
inductive Stage (d : Desk) (signals : List Nat) (canceling : Bool) : List Held → Prop where
  | free (h : d.Resting signals) : Stage d signals canceling []
  | quiet (h : d.Resting signals) : Stage d signals canceling [.quiet]
  | working (older : List Request) (request : Request)
      (h : d.Working signals canceling older request) :
      Stage d signals canceling [.blocked older.length]
  | ended (older : List Request) (request : Request) (h : d.Ended signals older request) :
      Stage d signals canceling [.blocked older.length]
  | taken (older : List Request) (request : Request) (h : d.Taken signals older request) :
      Stage d signals canceling [.copying older.length]

variable {d : Desk} {signals : List Nat} {canceling : Bool} {held : List Held}

theorem Stage.length_le_one (h : d.Stage signals canceling held) : held.length ≤ 1 := by
  cases h with
  | free => exact Nat.zero_le 1
  | _ => exact Nat.le_refl 1

/-! ### Sections that may end the request -/

theorem current_of_requests {older : List Request} {request : Request}
    (h : d.requests = older ++ [request]) : d.current = older.length := by
  unfold current
  rw [h, List.length_append, List.length_singleton]
  exact Nat.add_sub_cancel ..

/-- A section that finds no request leaves everything as it is, the readiness of the
mainline apart. -/
theorem absorb_idle (d : Desk) (ready : Bool) :
    d.absorb { runtime := { d.runtime with mainlineReady := ready }, signal := false } =
      { d with runtime := { d.runtime with mainlineReady := ready } } := by
  have hrecord : Request.record
      { runtime := { d.runtime with mainlineReady := ready }, signal := false } = id := by
    funext request
    simp only [Request.record, List.append_nil, Bool.false_eq_true, if_false, id]
  unfold absorb
  rw [hrecord, List.modify_id, List.map_nil, List.append_nil]

theorem absorb_requests {older : List Request} {request : Request}
    (h : d.requests = older ++ [request]) (outcome : PassOutcome) :
    (d.absorb outcome).requests = older ++ [request.record outcome] := by
  unfold absorb
  dsimp only
  rw [current_of_requests h, h, modify_concat]

/-- A section of the mainline or a cancellation on the active request keeps it active, -/
theorem Working.absorb_active {older : List Request} {request : Request} {outcome : PassOutcome}
    (h : d.Working signals canceling older request)
    (hprogress : MasterRuntime.Progress request.call request.received d.runtime outcome)
    (hsignal : outcome.signal = false) :
    (d.absorb outcome).Working signals canceling older (request.record outcome) := by
  have hrequests := absorb_requests h.requests outcome
  cases hprogress with
  | active r' used more hstaged hsame hused =>
      have hresults := h.fresh.results
      refine ⟨hrequests, h.settled, ⟨hresults, h.fresh.tokens, h.fresh.copied⟩, hstaged, h.tokens,
        h.signals, ?_⟩
      rcases h.live with hlive | ⟨hready, hcanceling⟩
      · left
        refine hlive.append fun e he => ?_
        obtain ⟨generation, -, rfl⟩ := List.mem_map.mp he
        rfl
      · exact .inr ⟨hsame.communicationReady.trans hready, hcanceling⟩
  | ended => contradiction

theorem Working.absorb_ended {older : List Request} {request : Request} {outcome : PassOutcome}
    (h : d.Working signals canceling older request)
    (hprogress : MasterRuntime.Progress request.call request.received d.runtime outcome)
    (hsignal : outcome.signal = true) :
    (d.absorb outcome).Ended [older.length] older (request.record outcome) := by
  have hrequests := absorb_requests h.requests outcome
  cases hprogress with
  | active => contradiction
  | ended r' used more hidle hexact hsame hused =>
      have hresults : request.results ++ [r'.result] = [r'.result] := by
        rw [h.fresh.results, List.nil_append]
      exact ⟨hrequests, h.settled, hidle, hresults, hexact, h.fresh.copied,
        .inl ⟨rfl, h.tokens, h.fresh.tokens⟩⟩

/-- The objects that a section uses belong to a generation that no stop has ended. -/
theorem Working.uses {older : List Request} {request : Request} {outcome : PassOutcome}
    (h : d.Working signals canceling older request)
    (hprogress : MasterRuntime.Progress request.call request.received d.runtime outcome)
    (huses : UsesLive d.trace) : UsesLive (d.absorb outcome).trace := by
  have hused : outcome.used ≠ [] → d.runtime.communicationReady = true := by
    cases hprogress with
    | active r' used more hstaged hsame hused => exact hused
    | ended r' used more hidle hexact hsame hused => exact hused
  unfold absorb
  rw [current_of_requests h.requests]
  refine huses.uses fun hsome => ?_
  rcases h.live with hlive | ⟨hready, -⟩
  · exact hlive
  · rw [hused hsome] at hready
    contradiction

/-- Without a request it does not matter whether a cancellation is due. -/
theorem Stage.of_idle (h : d.Stage signals canceling held) (hidle : d.runtime.phase = .idle)
    (canceling' : Bool) : d.Stage signals canceling' held := by
  cases h with
  | free h => exact .free h
  | quiet h => exact .quiet h
  | working older request h => exact absurd hidle h.staged.active
  | ended older request h => exact .ended older request h
  | taken older request h => exact .taken older request h

theorem Stage.sameRequest (h : d.Stage signals canceling held) {r : MasterRuntime}
    (hsame : d.runtime.SameRequest r)
    (hready : canceling = true → r.communicationReady = d.runtime.communicationReady) :
    ({ d with runtime := r } : Desk).Stage signals canceling held := by
  have hidle (h : d.runtime.phase = .idle) : r.phase = .idle := hsame.phase.trans h
  cases h with
  | free h => exact .free ⟨hidle h.idle, h.tokens, h.signals, h.settled⟩
  | quiet h => exact .quiet ⟨hidle h.idle, h.tokens, h.signals, h.settled⟩
  | working older request h =>
      refine .working older request ⟨h.requests, h.settled, h.fresh, h.staged.congr hsame, h.tokens,
        h.signals, ?_⟩
      rcases h.live with hlive | ⟨hstopped, hcanceling⟩
      · exact .inl hlive
      · exact .inr ⟨(hready hcanceling).trans hstopped, hcanceling⟩
  | ended older request h =>
      refine .ended older request ⟨h.requests, h.settled, hidle h.idle, ?_, ?_, h.copied, h.token⟩
      · rw [hsame.result]
        exact h.result
      · rw [hsame.result]
        exact h.exact
  | taken older request h =>
      refine .taken older request ⟨h.requests, h.settled, hidle h.idle, ?_, ?_, h.copied, h.tokens,
        h.taken, h.signals⟩
      · rw [hsame.result]
        exact h.result
      · rw [hsame.result]
        exact h.exact

/-- A stop leaves an active request to the cancellation that follows. -/
theorem Stage.stop (h : d.Stage signals canceling held) : d.stop.Stage signals true held := by
  cases h with
  | free h => exact .free ⟨h.idle, h.tokens, h.signals, h.settled⟩
  | quiet h => exact .quiet ⟨h.idle, h.tokens, h.signals, h.settled⟩
  | working older request h =>
      have hstaged := h.staged.congr
        (MasterRuntime.publish_sameRequest d.runtime d.runtime.co d.runtime.client false)
      exact .working older request ⟨h.requests, h.settled, h.fresh, hstaged, h.tokens, h.signals,
        .inr ⟨rfl, rfl⟩⟩
  | ended older request h =>
      exact .ended older request
        ⟨h.requests, h.settled, h.idle, h.result, h.exact, h.copied, h.token⟩
  | taken older request h =>
      exact .taken older request ⟨h.requests, h.settled, h.idle, h.result, h.exact, h.copied,
        h.tokens, h.taken, h.signals⟩

/-- The requests whose token is due after a section. -/
def due (d : Desk) (outcome : PassOutcome) : Option Nat :=
  if outcome.signal then some d.current else none

theorem Stage.absorb_working {older : List Request} {request : Request} {outcome : PassOutcome}
    (h : d.Working signals canceling older request)
    (hprogress : MasterRuntime.Progress request.call request.received d.runtime outcome) :
    (d.absorb outcome).Stage (d.due outcome).toList canceling [.blocked older.length] := by
  unfold due
  rw [current_of_requests h.requests]
  by_cases hsignal : outcome.signal = true
  · rw [if_pos hsignal]
    exact .ended older _ (h.absorb_ended hprogress hsignal)
  · rw [if_neg hsignal]
    have hactive := h.absorb_active hprogress (Bool.eq_false_iff.mpr hsignal)
    rw [h.signals] at hactive
    exact .working older _ hactive

theorem Stage.mainline (h : d.Stage signals canceling held) (huses : UsesLive d.trace)
    (build : MasterBuild) (answers : PassAnswers) :
    (d.absorb (d.runtime.mainlineProcess build answers)).Stage
        ((d.due (d.runtime.mainlineProcess build answers)).toList ++ signals) canceling held ∧
      UsesLive (d.absorb (d.runtime.mainlineProcess build answers)).trace := by
  by_cases hidle : d.runtime.phase = .idle
  · obtain ⟨ready, houtcome⟩ := MasterRuntime.mainlineProcess_idle hidle build answers
    rw [houtcome, absorb_idle]
    exact ⟨h.sameRequest ⟨rfl, rfl, rfl, rfl, rfl⟩ fun _ => rfl, huses⟩
  · cases h with
    | free h => exact absurd h.idle hidle
    | quiet h => exact absurd h.idle hidle
    | working older request h =>
        have hprogress := MasterRuntime.mainlineProcess_progress h.staged build answers
        rw [h.signals, List.append_nil]
        exact ⟨.absorb_working h hprogress, h.uses hprogress huses⟩
    | ended older request h => exact absurd h.idle hidle
    | taken older request h => exact absurd h.idle hidle

theorem Stage.cancel (h : d.Stage signals canceling held) (huses : UsesLive d.trace) :
    (d.absorb (Master.cancelOutcome d.runtime)).Stage
        (signals ++ (d.due (Master.cancelOutcome d.runtime)).toList) false held ∧
      UsesLive (d.absorb (Master.cancelOutcome d.runtime)).trace := by
  by_cases hidle : d.runtime.phase = .idle
  · have houtcome : Master.cancelOutcome d.runtime =
        { runtime := { d.runtime with mainlineReady := d.runtime.mainlineReady }
          signal := false } := by
      unfold Master.cancelOutcome MasterRuntime.cancelActive
      rw [if_neg (not_not_intro hidle)]
    rw [houtcome, absorb_idle]
    refine ⟨?_, huses⟩
    have hstage := h.of_idle hidle false
    rwa [← List.append_nil signals] at hstage
  · cases h with
    | free h => exact absurd h.idle hidle
    | quiet h => exact absurd h.idle hidle
    | working older request h =>
        have hprogress := MasterRuntime.cancelActive_progress h.staged
        have hended : (Master.cancelOutcome d.runtime).runtime.phase = .idle := by
          rw [MasterRuntime.cancelOutcome_active hidle]
          rfl
        rw [h.signals, List.nil_append]
        exact ⟨(Stage.absorb_working h hprogress).of_idle hended false, h.uses hprogress huses⟩
    | ended older request h => exact absurd h.idle hidle
    | taken older request h => exact absurd h.idle hidle

theorem Stage.forall_requests (h : d.Stage signals canceling held) {P : Request → Prop}
    (hsettled : ∀ request, request.Settled → P request)
    (hopen : ∀ request, request.Open → P request)
    (hended : ∀ request result, request.results = [result] → request.tokens ≤ 1 →
      request.copied = none →
      MasterRuntime.UploadExact request.call request.received result → P request) :
    ∀ request ∈ d.requests, P request := by
  have hlast {older : List Request} {last : Request} (hrequests : d.requests = older ++ [last])
      (holder : ∀ other ∈ older, other.Settled) (hp : P last) :
      ∀ request ∈ d.requests, P request := by
    rw [hrequests]
    exact forall_mem_concat (fun other hmem => hsettled other (holder other hmem)) hp
  cases h with
  | free h => exact fun request hmem => hsettled request (h.settled request hmem)
  | quiet h => exact fun request hmem => hsettled request (h.settled request hmem)
  | working older last h => exact hlast h.requests h.settled (hopen last h.fresh)
  | ended older last h =>
      have htokens : last.tokens ≤ 1 := by
        rcases h.token with ⟨-, -, hnone⟩ | ⟨-, -, hone⟩
        · omega
        · omega
      exact hlast h.requests h.settled (hended last _ h.result htokens h.copied h.exact)
  | taken older last h =>
      exact hlast h.requests h.settled
        (hended last _ h.result (Nat.le_of_eq h.tokens) h.copied h.exact)

/-- An active request is the last one. -/
theorem Stage.active (h : d.Stage signals canceling held) (hactive : d.runtime.phase ≠ .idle) :
    ∃ older request, d.requests = older ++ [request] ∧ request.results = [] ∧
      d.runtime.request = request.call ∧ ∀ other ∈ older, other.Settled := by
  cases h with
  | free h => exact absurd h.idle hactive
  | quiet h => exact absurd h.idle hactive
  | working older request h =>
      exact ⟨older, request, h.requests, h.fresh.results, h.staged.request, h.settled⟩
  | ended older request h => exact absurd h.idle hactive
  | taken older request h => exact absurd h.idle hactive

theorem answered_of_settled {request : Request} (h : request.Settled) : request.results ≠ [] := by
  obtain ⟨result, hresults, -⟩ := h.results
  rw [hresults]
  exact List.cons_ne_nil _ _

/-- An idle runtime has answered every request. -/
theorem Stage.answered (h : d.Stage signals canceling held) (hidle : d.runtime.phase = .idle) :
    ∀ request ∈ d.requests, request.results ≠ [] := by
  have hlast {older : List Request} {last : Request} (hrequests : d.requests = older ++ [last])
      (holder : ∀ other ∈ older, other.Settled) (hresult : last.results = [d.runtime.result]) :
      ∀ request ∈ d.requests, request.results ≠ [] := by
    rw [hrequests]
    refine forall_mem_concat (fun other hmem => answered_of_settled (holder other hmem)) ?_
    rw [hresult]
    exact List.cons_ne_nil _ _
  cases h with
  | free h => exact fun request hmem => answered_of_settled (h.settled request hmem)
  | quiet h => exact fun request hmem => answered_of_settled (h.settled request hmem)
  | working older last h => exact absurd hidle h.staged.active
  | ended older last h => exact hlast h.requests h.settled h.result
  | taken older last h => exact hlast h.requests h.settled h.result

theorem Stage.waited (h : d.Stage signals canceling held) {i : Nat} {request : Request}
    (hat : d.requests[i]? = some request) :
    request.Settled ∨ .blocked i ∈ held ∨ .copying i ∈ held := by
  have hmem := List.mem_of_getElem? hat
  cases h with
  | free h => exact .inl (h.settled request hmem)
  | quiet h => exact .inl (h.settled request hmem)
  | working older last h =>
      rcases request_of_concat h.requests hat with hold | ⟨-, rfl⟩
      · exact .inl (h.settled request hold)
      · exact .inr (.inl (List.mem_singleton.mpr rfl))
  | ended older last h =>
      rcases request_of_concat h.requests hat with hold | ⟨-, rfl⟩
      · exact .inl (h.settled request hold)
      · exact .inr (.inl (List.mem_singleton.mpr rfl))
  | taken older last h =>
      rcases request_of_concat h.requests hat with hold | ⟨-, rfl⟩
      · exact .inl (h.settled request hold)
      · exact .inr (.inr (List.mem_singleton.mpr rfl))

/-- A blocked caller does not wait for nothing. -/
theorem Stage.blocked (h : d.Stage signals canceling held) {i : Nat} (hmem : .blocked i ∈ held) :
    d.runtime.phase ≠ .idle ∧ i + 1 = d.requests.length ∨ d.completionTokens = 1 ∨ i ∈ signals := by
  cases h with
  | free => contradiction
  | quiet => exact absurd (List.mem_singleton.mp hmem) nofun
  | taken => exact absurd (List.mem_singleton.mp hmem) nofun
  | working older last h =>
      cases List.mem_singleton.mp hmem
      left
      refine ⟨h.staged.active, ?_⟩
      rw [h.requests, List.length_append, List.length_singleton]
  | ended older last h =>
      cases List.mem_singleton.mp hmem
      rcases h.token with ⟨hsignals, -⟩ | ⟨-, hone, -⟩
      · rw [hsignals]
        exact .inr (.inr (List.mem_singleton.mpr rfl))
      · exact .inr (.inl hone)

/-- Without an owner of `callMutex` nothing is on its way. -/
theorem Stage.signals_of_free (h : d.Stage signals canceling []) : signals = [] := by
  cases h with
  | free h => exact h.signals

/-! ### Operations outside the sections, and those of the caller -/

theorem Stage.release {front back : List Nat} {request : Nat}
    (h : d.Stage (front ++ request :: back) canceling held) :
    (d.release request).Stage (front ++ back) canceling held := by
  have hsome : front ++ request :: back ≠ [] := by simp
  cases h with
  | free h => exact absurd h.signals hsome
  | quiet h => exact absurd h.signals hsome
  | working older last h => exact absurd h.signals hsome
  | taken older last h => exact absurd h.signals hsome
  | ended older last h =>
      rcases h.token with ⟨hsignal, htokens, hlast⟩ | ⟨hnone, -⟩
      · obtain ⟨rfl, heq⟩ : front = [] ∧ request :: back = [older.length] := by
          cases front with
          | nil => exact ⟨rfl, hsignal⟩
          | cons head front =>
              rw [List.cons_append] at hsignal
              exact absurd (List.cons.inj hsignal).2 (by simp)
        obtain ⟨rfl, rfl⟩ := List.cons.inj heq
        have hrequests : (d.release older.length).requests =
            older ++ [{ last with tokens := last.tokens + 1 }] := by
          unfold Desk.release
          dsimp only
          rw [h.requests, modify_concat]
        have htoken : (d.release older.length).completionTokens = 1 := congrArg (· + 1) htokens
        exact .ended older _ ⟨hrequests, h.settled, h.idle, h.result, h.exact, h.copied,
          .inr ⟨rfl, htoken, congrArg (· + 1) hlast⟩⟩
      · exact absurd hnone hsome

theorem Stage.submit {call : MasterCall} {d' : Desk} (h : d.Stage signals canceling [.quiet])
    (hsubmit : d.submit call = some d') :
    d'.Stage signals canceling [.blocked d.requests.length] := by
  unfold Desk.submit at hsubmit
  obtain ⟨r, hr, rfl⟩ := Option.map_eq_some_iff.mp hsubmit
  obtain ⟨-, -, hstaged, -⟩ := MasterRuntime.submit_some hr
  cases h with
  | quiet h =>
      exact .working d.requests { call := call } ⟨rfl, h.settled, ⟨rfl, rfl, rfl⟩, hstaged, rfl,
        h.signals, .inl ⟨d.trace, [], rfl, nofun⟩⟩

theorem usesLive_submit {call : MasterCall} {d' : Desk} (h : UsesLive d.trace)
    (hsubmit : d.submit call = some d') : UsesLive d'.trace := by
  unfold Desk.submit at hsubmit
  obtain ⟨r, -, rfl⟩ := Option.map_eq_some_iff.mp hsubmit
  exact h.concat nofun

theorem usesLive_stop (h : UsesLive d.trace) : UsesLive d.stop.trace := h.concat nofun

theorem Stage.takeToken {request : Nat} (h : d.Stage signals canceling [.blocked request])
    (htoken : 0 < d.completionTokens) : d.takeToken.Stage signals canceling [.copying request] := by
  cases h with
  | working older last h =>
      rw [h.tokens] at htoken
      contradiction
  | ended older last h =>
      rcases h.token with ⟨-, hnone, -⟩ | ⟨hsignals, hone, htokens⟩
      · rw [hnone] at htoken
        contradiction
      · have htaken : d.takeToken.completionTokens = 0 := by
          unfold Desk.takeToken
          dsimp only
          rw [hone]
        exact .taken older last
          ⟨h.requests, h.settled, h.idle, h.result, h.exact, h.copied, htokens,
          htaken, hsignals⟩

theorem Stage.copyResult {request : Nat} (h : d.Stage signals canceling [.copying request]) :
    (d.copyResult request).Stage signals canceling [.quiet] := by
  cases h with
  | taken older last h =>
      refine .quiet ⟨h.idle, h.taken, h.signals, ?_⟩
      have hrequests : (d.copyResult older.length).requests =
          older ++ [{ last with copied := some d.runtime.result }] := by
        unfold Desk.copyResult
        dsimp only
        rw [h.requests, modify_concat]
      rw [hrequests]
      refine forall_mem_concat h.settled ⟨⟨_, h.result, rfl⟩, h.tokens, ?_⟩
      intro result hresult
      have heq : result = d.runtime.result := by
        rw [h.result] at hresult
        exact List.mem_singleton.mp hresult
      rw [heq]
      exact h.exact

end Desk

namespace Master

/-! ## Every run -/

/-- The desk fits to the owner of `callMutex`, and objects are used for live requests only. -/
structure Inv (s : Master) : Prop where
  stage : s.desk.Stage s.signals s.lifecycle.isCanceling (s.callers.filterMap CallerAt.held)
  free : s.callMutex = false → s.callers.filterMap CallerAt.held = []
  uses : UsesLive s.desk.trace

variable {build : MasterBuild} {s t : Master} {i : Nat} {before after : CallerAt} {held : Held}

/-- The caller that owns `callMutex` is the only one. -/
theorem Inv.owner (h : Inv s) (hat : s.callers[i]? = some before)
    (hheld : before.held = some held) :
    s.desk.Stage s.signals s.lifecycle.isCanceling [held] ∧ s.callMutex = true ∧
      ∀ after, (s.callers.set i after).filterMap CallerAt.held = after.held.toList := by
  obtain ⟨hsole, hafter⟩ := filterMap_set_of_sole hat hheld h.stage.length_le_one
  have hstage := h.stage
  rw [hsole] at hstage
  refine ⟨hstage, ?_, hafter⟩
  cases hmutex : s.callMutex with
  | true => rfl
  | false =>
      rw [h.free hmutex] at hsole
      contradiction

/-- A caller steps without taking or giving back `callMutex`, or a result. -/
theorem inv_apart (h : Inv s) (state : Int) (tokens : Nat) (hat : s.callers[i]? = some before)
    (hsame : after.held = before.held) :
    Inv { s with admissionState := state
                 drainTokens := tokens
                 callers := s.callers.set i after } := by
  have hheld := filterMap_set_of_eq hat hsame
  refine ⟨?_, fun hfree => hheld.trans (h.free hfree), h.uses⟩
  have hstage := h.stage
  rwa [← hheld] at hstage

/-- The owner of `callMutex` steps and keeps it. -/
theorem inv_owner {desk : Desk} {next : Held} (h : Inv s) (hat : s.callers[i]? = some before)
    (hbefore : before.held = some held) (hafter : after.held = some next)
    (hstage : desk.Stage s.signals s.lifecycle.isCanceling [next]) (huses : UsesLive desk.trace) :
    Inv { s with desk := desk, callers := s.callers.set i after } := by
  obtain ⟨-, hmutex, hset⟩ := h.owner hat hbefore
  have hheld : (s.callers.set i after).filterMap CallerAt.held = [next] := by
    rw [hset, hafter]
    rfl
  refine ⟨?_, ?_, huses⟩
  · dsimp only
    rw [hheld]
    exact hstage
  · intro hfree
    rw [hmutex] at hfree
    contradiction

theorem inv_takeCall {call : MasterCall} {counted : Bool} (h : Inv s)
    (hat : s.callers[i]? = some (.entering call counted)) (hfree : s.callMutex = false) :
    Inv { s with callMutex := true, callers := s.callers.set i (.holding call counted) } := by
  have hnone := h.free hfree
  have hheld := filterMap_set_of_none hat hnone (.holding call counted)
  have hstage := h.stage
  rw [hnone] at hstage
  refine ⟨?_, nofun, h.uses⟩
  dsimp only
  rw [hheld]
  cases hstage with
  | free hresting => exact .quiet hresting

theorem inv_releaseCall {counted : Bool} (h : Inv s)
    (hat : s.callers[i]? = some (.releasing counted)) :
    Inv { s with callMutex := false, callers := s.callers.set i (.leaving counted) } := by
  obtain ⟨hstage, -, hset⟩ := h.owner hat rfl
  refine ⟨?_, fun _ => hset _, h.uses⟩
  dsimp only
  rw [hset]
  cases hstage with
  | quiet hresting => exact .free hresting

/-- A lifecycle step that publishes another generation while no cancellation is due. -/
theorem inv_publish {r : MasterRuntime} (h : Inv s) (hserving : s.lifecycle.isCanceling = false)
    (hsame : s.desk.runtime.SameRequest r) :
    Inv { s with desk := { s.desk with runtime := r } } where
  stage := h.stage.sameRequest hsame fun hcanceling => by
    rw [hserving] at hcanceling
    contradiction
  free := h.free
  uses := h.uses

theorem held_count (caller : CallerAt) : caller.count.held = caller.held := by
  cases caller <;> rfl

theorem inv_lifecycle (h : Inv s) (lifecycle : LifecycleAt) (state : Int) (tokens : Nat)
    (hsignal : lifecycle.signal = s.lifecycle.signal)
    (hcanceling : lifecycle.isCanceling = s.lifecycle.isCanceling) :
    Inv { s with admissionState := state, drainTokens := tokens, lifecycle := lifecycle } := by
  refine ⟨?_, h.free, h.uses⟩
  have hstage := h.stage
  unfold signals at hstage ⊢
  dsimp only
  rwa [hsignal, hcanceling]

theorem inv_stop (h : Inv s) (hsignal : s.lifecycle.signal = none) (drain : Option Int) :
    Inv { s with desk := s.desk.stop, lifecycle := .canceling drain } := by
  refine ⟨?_, h.free, Desk.usesLive_stop h.uses⟩
  have hstage := h.stage.stop
  unfold signals at hstage ⊢
  dsimp only
  rw [hsignal] at hstage
  exact hstage

theorem inv_mainline (h : Inv s) (answers : PassAnswers) (hmain : s.main = none) :
    Inv { s with desk := s.desk.absorb (s.desk.runtime.mainlineProcess build answers)
                 main := s.desk.due (s.desk.runtime.mainlineProcess build answers) } := by
  obtain ⟨hstage, huses⟩ := h.stage.mainline h.uses build answers
  refine ⟨?_, h.free, huses⟩
  unfold signals at hstage ⊢
  rw [hmain] at hstage
  exact hstage

theorem afterCancel_quiet (drain : Option Int) :
    (LifecycleAt.afterCancel drain).signal = none ∧
      (LifecycleAt.afterCancel drain).isCanceling = false := by
  cases drain with
  | none => exact ⟨rfl, rfl⟩
  | some admitted => exact ⟨rfl, rfl⟩

theorem inv_cancel (h : Inv s) {drain : Option Int} (hcanceling : s.lifecycle = .canceling drain) :
    Inv { s with desk := s.desk.absorb (cancelOutcome s.desk.runtime)
                 lifecycle :=
                   if (cancelOutcome s.desk.runtime).signal then .signaling s.desk.current drain
                   else .afterCancel drain } := by
  obtain ⟨hstage, huses⟩ := h.stage.cancel h.uses
  refine ⟨?_, h.free, huses⟩
  unfold signals at hstage ⊢
  rw [hcanceling] at hstage
  unfold Desk.due at hstage
  dsimp only
  by_cases hsignal : (cancelOutcome s.desk.runtime).signal = true
  · rw [if_pos hsignal] at hstage ⊢
    have hnone : (LifecycleAt.canceling drain).signal.toList = [] := rfl
    rw [hnone, List.append_nil] at hstage
    exact hstage
  · rw [if_neg hsignal] at hstage ⊢
    obtain ⟨hafter, hquiet⟩ := afterCancel_quiet drain
    rw [hafter, hquiet]
    rw [Option.toList_none, List.append_nil] at hstage
    exact hstage

theorem inv_mainSignal (h : Inv s) {request : Nat} (hmain : s.main = some request) :
    Inv { s with desk := s.desk.release request, main := none } := by
  refine ⟨?_, h.free, h.uses⟩
  have hstage := h.stage
  unfold signals at hstage ⊢
  rw [hmain] at hstage
  exact @Desk.Stage.release _ _ _ [] _ _ hstage

theorem inv_cancelSignal (h : Inv s) {request : Nat} {drain : Option Int}
    (hsignaling : s.lifecycle = .signaling request drain) :
    Inv { s with desk := s.desk.release request, lifecycle := .afterCancel drain } := by
  refine ⟨?_, h.free, h.uses⟩
  obtain ⟨hafter, hquiet⟩ := afterCancel_quiet drain
  have hstage := h.stage
  unfold signals at hstage ⊢
  rw [hsignaling] at hstage
  dsimp only
  rw [hafter, hquiet]
  exact hstage.release

theorem inv_step (h : Inv s) (hstep : Step build s t) : Inv t := by
  cases hstep with
  | arrive =>
      have hheld : (s.callers ++ [CallerAt.outside]).filterMap CallerAt.held =
          s.callers.filterMap CallerAt.held := by
        rw [List.filterMap_append]
        exact List.append_nil _
      refine ⟨?_, fun hfree => hheld.trans (h.free hfree), h.uses⟩
      have hstage := h.stage
      rwa [← hheld] at hstage
  | check i call houtside hvalid hinitialized => exact inv_apart h _ _ houtside rfl
  | enter i call hchecked hopen => exact inv_apart h _ _ hchecked rfl
  | enterClosed i call hchecked hclosed => exact inv_apart h _ _ hchecked rfl
  | undo i hrejected => exact inv_apart h _ _ hrejected rfl
  | takeCall i call counted hentering hfree => exact inv_takeCall h hentering hfree
  | refuse i call counted hholding hrefused =>
      exact inv_owner h hholding rfl rfl (h.owner hholding rfl).1 h.uses
  | submit i call counted desk hholding hadmitted =>
      exact inv_owner h hholding rfl rfl ((h.owner hholding rfl).1.submit hadmitted)
        (Desk.usesLive_submit h.uses hadmitted)
  | takeToken i request counted hblocked htoken =>
      exact inv_owner h hblocked rfl rfl ((h.owner hblocked rfl).1.takeToken htoken) h.uses
  | copy i request counted hcopying =>
      exact inv_owner h hcopying rfl rfl (h.owner hcopying rfl).1.copyResult h.uses
  | releaseCall i counted hreleasing => exact inv_releaseCall h hreleasing
  | leave i counted hleaving hopen => exact inv_apart h _ _ hleaving rfl
  | leaveClosed i counted hleaving hclosed => exact inv_apart h _ _ hleaving rfl
  | releaseDrain i counted hdue => exact inv_apart h _ _ hdue rfl
  | mainline answers hmain hattached => exact inv_mainline h answers hmain
  | mainSignal request hmain => exact inv_mainSignal h hmain
  | stop hserving => exact inv_stop h (by rw [hserving]; rfl) none
  | cancel drain hcanceling => exact inv_cancel h hcanceling
  | cancelSignal request drain hsignaling => exact inv_cancelSignal h hsignaling
  | quiesced hserving =>
      exact inv_publish h (by rw [hserving]; rfl) (MasterRuntime.publish_sameRequest ..)
  | bind co r hserving hbind =>
      exact inv_publish h (by rw [hserving]; rfl)
        (MasterRuntime.communicationBind_sameRequest hbind)
  | ready hserving =>
      exact inv_publish h (by rw [hserving]; rfl) (MasterRuntime.communicationReadyAt_sameRequest _)
  | close hserving =>
      have hclosed := inv_lifecycle h (.closed s.admissionState)
        (s.admissionState + admissionClosedBias) s.drainTokens (by rw [hserving]; rfl)
        (by rw [hserving]; rfl)
      have hheld : (s.callers.map CallerAt.count).filterMap CallerAt.held =
          s.callers.filterMap CallerAt.held := by
        rw [List.filterMap_map]
        exact congrArg (s.callers.filterMap ·) (funext held_count)
      refine ⟨?_, fun hfree => hheld.trans (h.free hfree), h.uses⟩
      have hstage := hclosed.stage
      dsimp only at hstage ⊢
      rwa [hheld]
  | deinitStop admitted hclosed => exact inv_stop h (by rw [hclosed]; rfl) (some admitted)
  | drainTake remaining hdraining hmore htoken =>
      exact inv_lifecycle h _ s.admissionState (s.drainTokens - 1) (by rw [hdraining]; rfl)
        (by rw [hdraining]; rfl)
  | detach remaining hdraining hdone =>
      exact inv_lifecycle h _ s.admissionState s.drainTokens (by rw [hdraining]; rfl)
        (by rw [hdraining]; rfl)
  | clearInitialized hdetached =>
      have hstopped := inv_lifecycle h .stopped s.admissionState s.drainTokens
        (by rw [hdetached]; rfl) (by rw [hdetached]; rfl)
      exact inv_publish hstopped rfl ⟨rfl, rfl, rfl, rfl, rfl⟩

theorem inv_initialized {r : MasterRuntime} (hidle : r.phase = .idle) : Inv (initialized r) where
  stage := .free ⟨hidle, rfl, rfl, nofun⟩
  free _ := rfl
  uses before request generation after hsplit := absurd hsplit (by simp [initialized])

/-! ## What callers and the teardown rely on -/

/-- Every request is served once, with objects of a live generation. -/
structure Serves (s : Master) : Prop where
  /-- The runtime is idle unless the last request has no result yet, -/
  active : s.desk.runtime.phase ≠ .idle → ∃ older request,
    s.desk.requests = older ++ [request] ∧ request.results = [] ∧
      s.desk.runtime.request = request.call
  /-- and no other request is without one. -/
  single : ∀ i request, s.desk.requests[i]? = some request → request.results = [] →
    s.desk.runtime.phase ≠ .idle ∧ i + 1 = s.desk.requests.length
  once : ∀ request ∈ s.desk.requests,
    request.results.length ≤ 1 ∧ request.tokens ≤ request.results.length
  copies : ∀ request ∈ s.desk.requests, ∀ result, request.copied = some result →
    request.results = [result]
  /-- A request whose caller is neither blocked nor copying was completed. -/
  returned : ∀ i request, s.desk.requests[i]? = some request →
    (∀ counted, .blocked i counted ∉ s.callers ∧ .copying i counted ∉ s.callers) →
    ∃ result, request.results = [result] ∧ request.tokens = 1 ∧ request.copied = some result
  /-- A blocked caller has an active request, a token, or somebody about to release one. -/
  blocked : ∀ i counted, .blocked i counted ∈ s.callers →
    s.desk.runtime.phase ≠ .idle ∧ i + 1 = s.desk.requests.length ∨
      s.desk.completionTokens = 1 ∨ i ∈ s.signals
  live : UsesLive s.desk.trace
  exact : ∀ request ∈ s.desk.requests, ∀ result ∈ request.results,
    MasterRuntime.UploadExact request.call request.received result

/-- Nobody may still touch the IPC objects. -/
structure Vacant (s : Master) : Prop where
  callers : ∀ caller ∈ s.callers,
    caller.admission.isAdmitted = false ∧ caller.admission.isDue = false
  signals : s.signals = []
  tokens : s.drainTokens = 0

theorem mem_held {caller : CallerAt} (hmem : caller ∈ s.callers) (hheld : caller.held = some held) :
    held ∈ s.callers.filterMap CallerAt.held :=
  List.mem_filterMap.mpr ⟨caller, hmem, hheld⟩

theorem exists_blocked {request : Nat}
    (h : .blocked request ∈ s.callers.filterMap CallerAt.held) :
    ∃ counted, .blocked request counted ∈ s.callers := by
  obtain ⟨caller, hmem, hheld⟩ := List.mem_filterMap.mp h
  cases caller with
  | blocked other counted =>
      cases hheld
      exact ⟨counted, hmem⟩
  | _ => simp [CallerAt.held] at hheld

theorem exists_copying {request : Nat}
    (h : .copying request ∈ s.callers.filterMap CallerAt.held) :
    ∃ counted, .copying request counted ∈ s.callers := by
  obtain ⟨caller, hmem, hheld⟩ := List.mem_filterMap.mp h
  cases caller with
  | copying other counted =>
      cases hheld
      exact ⟨counted, hmem⟩
  | _ => simp [CallerAt.held] at hheld

theorem serves_of_inv (h : Inv s) : Serves s where
  active hactive := by
    obtain ⟨older, request, hrequests, hresults, hcall, -⟩ := h.stage.active hactive
    exact ⟨older, request, hrequests, hresults, hcall⟩
  single i request hat hresults := by
    have hmem := List.mem_of_getElem? hat
    have hactive : s.desk.runtime.phase ≠ .idle := fun hidle =>
      h.stage.answered hidle request hmem hresults
    obtain ⟨older, last, hrequests, -, -, hsettled⟩ := h.stage.active hactive
    refine ⟨hactive, ?_⟩
    rcases request_of_concat hrequests hat with hold | ⟨-, rfl⟩
    · exact absurd hresults (Desk.answered_of_settled (hsettled request hold))
    · rw [hrequests, List.length_append, List.length_singleton]
  once := by
    refine h.stage.forall_requests ?_ ?_ ?_
    · intro request hsettled
      obtain ⟨result, hresults, -⟩ := hsettled.results
      rw [hresults, hsettled.tokens]
      exact ⟨Nat.le_refl 1, Nat.le_refl 1⟩
    · intro request hopen
      rw [hopen.results, hopen.tokens]
      exact ⟨Nat.zero_le 1, Nat.le_refl 0⟩
    · intro request result hresults htokens _ _
      rw [hresults]
      exact ⟨Nat.le_refl 1, htokens⟩
  copies := by
    refine h.stage.forall_requests ?_ ?_ ?_
    · intro request hsettled result hcopied
      obtain ⟨result', hresults, hcopied'⟩ := hsettled.results
      rw [hresults, Option.some.inj (hcopied'.symm.trans hcopied)]
    · intro request hopen result hcopied
      rw [hopen.copied] at hcopied
      contradiction
    · intro request _ _ _ hnone _ result hcopied
      rw [hnone] at hcopied
      contradiction
  returned i request hat hleft := by
    rcases h.stage.waited hat with hsettled | hblocked | hcopying
    · obtain ⟨result, hresults, hcopied⟩ := hsettled.results
      exact ⟨result, hresults, hsettled.tokens, hcopied⟩
    · obtain ⟨counted, hmem⟩ := exists_blocked hblocked
      exact absurd hmem (hleft counted).1
    · obtain ⟨counted, hmem⟩ := exists_copying hcopying
      exact absurd hmem (hleft counted).2
  blocked i counted hmem := h.stage.blocked (mem_held hmem rfl)
  live := h.uses
  exact := by
    refine h.stage.forall_requests ?_ ?_ ?_
    · exact fun request hsettled => hsettled.exact
    · intro request hopen result hmem
      rw [hopen.results] at hmem
      contradiction
    · intro request result hresults _ _ hexact other hmem
      rw [hresults] at hmem
      rw [List.mem_singleton.mp hmem]
      exact hexact

/-! ## The teardown -/

theorem admission_at (hat : s.callers[i]? = some before) :
    s.admission.callers[i]? = some before.admission := by
  unfold admission
  rw [List.getElem?_map, hat]
  rfl

theorem admission_count (caller : CallerAt) : caller.count.admission = caller.admission.count := by
  cases caller <;> rfl

theorem phase_cancel (drain : Option Int) (request : Nat) :
    (LifecycleAt.signaling request drain).phase = (LifecycleAt.canceling drain).phase ∧
      (LifecycleAt.afterCancel drain).phase = (LifecycleAt.canceling drain).phase := by
  cases drain with
  | none => exact ⟨rfl, rfl⟩
  | some admitted => exact ⟨rfl, rfl⟩

theorem admission_set (s : Master) (desk : Desk) (state : Int) (tokens : Nat) (mutex : Bool)
    (i : Nat)
    (after : CallerAt) :
    ({ s with desk := desk, admissionState := state, drainTokens := tokens, callMutex := mutex,
              callers := s.callers.set i after } : Master).admission =
      { s.admission with admissionState := state
                         drainTokens := tokens
                         callers := s.admission.callers.set i after.admission } := by
  unfold admission
  rw [List.map_set]

theorem admission_stay (desk : Desk) (mutex : Bool) (hat : s.callers[i]? = some before)
    (hsame : after.admission = before.admission) :
    ({ s with desk := desk, callMutex := mutex, callers := s.callers.set i after } :
      Master).admission = s.admission := by
  obtain ⟨hlt, hbefore⟩ := List.getElem?_eq_some_iff.mp (admission_at hat)
  rw [admission_set s desk s.admissionState s.drainTokens mutex i after, hsame, ← hbefore,
    List.set_getElem_self]
  rfl

theorem admission_lifecycle (desk : Desk) (main : Option Nat) {lifecycle : LifecycleAt}
    (hphase : lifecycle.phase = s.lifecycle.phase) :
    ({ s with desk := desk, main := main, lifecycle := lifecycle } : Master).admission =
      s.admission := by
  unfold admission
  rw [hphase]

/-- A step of the master is a step of its admission counter, or does not concern it. -/
theorem admission_step (hstep : Step build s t) :
    Admission.Step s.admission t.admission ∨ t.admission = s.admission := by
  cases hstep with
  | arrive =>
      left
      unfold admission
      rw [List.map_append]
      exact .arrive _
  | check i call houtside hvalid hinitialized =>
      have hphase : s.lifecycle.phase.ipcInitialized = true := by
        cases hat : s.lifecycle with
        | canceling drain => cases drain <;> rfl
        | signaling request drain => cases drain <;> rfl
        | stopped =>
            rw [hat] at hinitialized
            contradiction
        | _ => rfl
      left
      rw [admission_set]
      exact .check s.admission i (admission_at houtside) hphase
  | enter i call hchecked hopen =>
      left
      rw [admission_set]
      exact .enter s.admission i (admission_at hchecked) hopen
  | enterClosed i call hchecked hclosed =>
      left
      rw [admission_set]
      exact .enterClosed s.admission i (admission_at hchecked) hclosed
  | undo i hrejected =>
      left
      rw [admission_set]
      exact .undo s.admission i (admission_at hrejected)
  | takeCall i call counted hentering hfree => exact .inr (admission_stay _ _ hentering rfl)
  | refuse i call counted hholding hrefused => exact .inr (admission_stay _ _ hholding rfl)
  | submit i call counted desk hholding hadmitted => exact .inr (admission_stay _ _ hholding rfl)
  | takeToken i request counted hblocked htoken => exact .inr (admission_stay _ _ hblocked rfl)
  | copy i request counted hcopying => exact .inr (admission_stay _ _ hcopying rfl)
  | releaseCall i counted hreleasing => exact .inr (admission_stay _ _ hreleasing rfl)
  | leave i counted hleaving hopen =>
      left
      rw [admission_set]
      exact .leave s.admission i counted (admission_at hleaving) hopen
  | leaveClosed i counted hleaving hclosed =>
      left
      rw [admission_set]
      exact .leaveClosed s.admission i counted (admission_at hleaving) hclosed
  | releaseDrain i counted hdue =>
      left
      rw [admission_set]
      exact .releaseToken s.admission i counted (admission_at hdue)
  | mainline answers hmain hattached => exact .inr rfl
  | mainSignal request hmain => exact .inr rfl
  | stop hserving =>
      right
      apply admission_lifecycle
      rw [hserving]
      rfl
  | cancel drain hcanceling =>
      right
      apply admission_lifecycle
      obtain ⟨hsignal, hafter⟩ := phase_cancel drain s.desk.current
      rw [hcanceling]
      split
      · exact hsignal
      · exact hafter
  | cancelSignal request drain hsignaling =>
      right
      apply admission_lifecycle
      obtain ⟨hsignal, hafter⟩ := phase_cancel drain request
      rw [hsignaling, hafter, hsignal]
  | quiesced hserving => exact .inr rfl
  | bind co r hserving hbind => exact .inr rfl
  | ready hserving => exact .inr rfl
  | close hserving =>
      have hrunning : s.admission.phase = .running := congrArg LifecycleAt.phase hserving
      have hcount : (s.callers.map CallerAt.count).map CallerAt.admission =
          s.admission.callers.map Caller.count := by
        unfold admission
        rw [List.map_map, List.map_map]
        exact congrArg (s.callers.map ·) (funext admission_count)
      left
      have hstep := Admission.Step.close s.admission hrunning
      rw [← hcount] at hstep
      exact hstep
  | deinitStop admitted hclosed =>
      right
      apply admission_lifecycle
      rw [hclosed]
      rfl
  | drainTake remaining hdraining hmore htoken =>
      have hphase : s.admission.phase = .draining remaining := congrArg LifecycleAt.phase hdraining
      exact .inl (.drainTake s.admission remaining hphase hmore htoken)
  | detach remaining hdraining hdone =>
      have hphase : s.admission.phase = .draining remaining := congrArg LifecycleAt.phase hdraining
      exact .inl (.detach s.admission remaining hphase hdone)
  | clearInitialized hdetached =>
      have hphase : s.admission.phase = .detached := congrArg LifecycleAt.phase hdetached
      exact .inl (.clearInitialized s.admission hphase)

/-- A step between states in which fewer callers are inside than the closing bias stands
for. -/
def FewStep (build : MasterBuild) (s t : Master) : Prop :=
  Step build s t ∧ s.admission.Few ∧ t.admission.Few

theorem admission_inv_step (h : Admission.Inv s.admission) (hstep : FewStep build s t) :
    Admission.Inv t.admission := by
  obtain ⟨hstep, hfew, hfew'⟩ := hstep
  rcases admission_step hstep with hadmission | hsame
  · have hinitialized : s.lifecycle.phase ≠ .semReady := by
      cases s.lifecycle with
      | canceling drain => cases drain <;> nofun
      | signaling request drain => cases drain <;> nofun
      | _ => nofun
    exact Admission.inv_step h ⟨hadmission, hfew, hfew', fun _ hready => absurd hready hinitialized⟩
  · rw [hsame]
    exact h

/-- The IPC objects are detached when no caller and no finisher can touch them any more. -/
theorem vacant_of_detached {r : MasterRuntime} (hidle : r.phase = .idle)
    (h : Reachable (FewStep build) (initialized r) s) (hdetached : s.lifecycle = .detached) :
    Vacant s := by
  have hstart : Admission.Inv (initialized r).admission := ⟨.inr ⟨rfl, rfl, rfl, rfl⟩, nofun⟩
  have hcounter : Admission.Inv s.admission :=
    @Reachable.invariant _ _ _ _ (fun m => Admission.Inv m.admission) hstart admission_inv_step h
  have hinv : Inv s :=
    Reachable.invariant (inv_initialized hidle) (fun hinv hstep => inv_step hinv hstep.1) h
  have hphase : s.admission.phase = .detached := congrArg LifecycleAt.phase hdetached
  have hbalance := Admission.balanced_of_phase hcounter (by rw [hphase]; nofun)
    (by rw [hphase]; nofun)
  rw [hphase] at hbalance
  obtain ⟨-, hadmitted, hdue, htokens⟩ := hbalance
  have hcallers : ∀ caller ∈ s.callers,
      caller.admission.isAdmitted = false ∧ caller.admission.isDue = false := by
    intro caller hmem
    have hmem' : caller.admission ∈ s.admission.callers := List.mem_map_of_mem hmem
    exact ⟨Bool.eq_false_iff.mpr (List.countP_eq_zero.mp hadmitted _ hmem'),
      Bool.eq_false_iff.mpr (List.countP_eq_zero.mp hdue _ hmem')⟩
  refine ⟨hcallers, ?_, htokens⟩
  have hnone : s.callers.filterMap CallerAt.held = [] := by
    rw [List.filterMap_eq_nil_iff]
    intro caller hmem
    have hout := (hcallers caller hmem).1
    cases caller with
    | holding call counted => contradiction
    | releasing counted => contradiction
    | blocked request counted => contradiction
    | copying request counted => contradiction
    | _ => rfl
  have hstage := hinv.stage
  rw [hnone] at hstage
  exact hstage.signals_of_free

/-- In every interleaving each request is completed once, and with few callers inside the
teardown detaches what nobody uses. -/
theorem completion_of_reachable (build : MasterBuild) {r : MasterRuntime} {s : Master}
    (hidle : r.phase = .idle) (h : Reachable (Step build) (initialized r) s) :
    Serves s ∧
      (Reachable (FewStep build) (initialized r) s → s.lifecycle = .detached → Vacant s) :=
  ⟨serves_of_inv (h.invariant (inv_initialized hidle) inv_step), vacant_of_detached hidle⟩

/-- A runtime bound to a generation with one SDO client, -/
def exampleCo : CoObject := { generation := 1, nmt := true, sdoClient := true, sdoClientCount := 1 }

/-- the upload of a statusword, -/
def exampleCall : MasterCall where
  kind := .upload
  remoteNodeId := 5
  index := 0x6041
  subIndex := 0
  size := 2
  data := []
  nmtCommand := 0

/-- and the answers of a pass in which the SDO client returns `transfer`. -/
def exampleAnswers (reset : Bool) (transfer : Int) : PassAnswers where
  reset := reset
  nmtSend := 0
  setup := 0
  initiate := 0
  bufWrite := 0
  transfer := transfer
  abortCode := 0
  sizeIndicated := 2
  sizeTransferred := 2
  chunks := [[0x37#8, 0x02#8]]

def exampleBuild : MasterBuild where
  nmtMaster := true
  gatewaySdo := false
  rtEfull := 3
  rtEnosys := 6
  rtEinval := 10

/-- A caller waits for an upload that it has just submitted. -/
def submitted : Master where
  desk :=
    { runtime :=
        { MasterRuntime.attached 0 with
          co := some exampleCo
          client := some 1
          request := exampleCall
          phase := .pending
          result := MasterRuntime.clearedResult
          communicationReady := true
          mainlineReady := true }
      completionTokens := 0
      requests := [{ call := exampleCall }]
      trace := [.admitted 0] }
  admissionState := 1
  drainTokens := 0
  callMutex := true
  callers := [.blocked 0 false]
  main := none
  lifecycle := .serving

theorem reachable_submitted :
    Reachable (FewStep exampleBuild) (initialized (.attached 0)) submitted := by
  have h₁ : Reachable (FewStep exampleBuild) (initialized (.attached 0)) _ :=
    Relation.ReflTransGen.refl.tail ⟨.bind _ exampleCo _ rfl rfl, by decide, by decide⟩
  have h₂ := h₁.tail ⟨.ready _ rfl, by decide, by decide⟩
  have h₃ := h₂.tail ⟨.mainline _ (exampleAnswers false 1) rfl rfl, by decide, by decide⟩
  have h₄ := h₃.tail ⟨.arrive _, by decide, by decide⟩
  have h₅ := h₄.tail ⟨.check _ 0 exampleCall rfl rfl rfl, by decide, by decide⟩
  have h₆ := h₅.tail ⟨.enter _ 0 exampleCall rfl (by decide), by decide, by decide⟩
  have h₇ := h₆.tail ⟨.takeCall _ 0 exampleCall false rfl rfl, by decide, by decide⟩
  exact h₇.tail ⟨.submit _ 0 exampleCall false _ rfl rfl, by decide, by decide⟩

theorem reachable_of_few {r : MasterRuntime} (h : Reachable (FewStep build) (initialized r) s) :
    Reachable (Step build) (initialized r) s :=
  Relation.ReflTransGen.mono (fun _ _ hstep => hstep.1) _ _ h

/-- The teardown of a runtime without callers is closed, and `n` callers come late. -/
def manyRejected (n : Nat) : Master :=
  { initialized (.attached 0) with
    desk := (initialized (.attached 0)).desk.stop
    admissionState := admissionClosedBias + n
    callers := List.replicate n .rejected
    lifecycle := .draining 0 }

theorem getElem?_late (n : Nat) (caller : CallerAt) :
    (List.replicate n CallerAt.rejected ++ [caller])[n]? = some caller := by
  rw [List.getElem?_append_right (Nat.le_of_eq List.length_replicate), List.length_replicate,
    Nat.sub_self]
  rfl

theorem set_late (n : Nat) (before after : CallerAt) :
    (List.replicate n CallerAt.rejected ++ [before]).set n after =
      List.replicate n .rejected ++ [after] := by
  rw [List.set_append_right n _ (Nat.le_of_eq List.length_replicate), List.length_replicate,
    Nat.sub_self]
  rfl

theorem reachable_late {n : Nat}
    (h : Reachable (Step build) (initialized (.attached 0)) (manyRejected n)) :
    Reachable (Step build) (initialized (.attached 0))
      { manyRejected n with callers := List.replicate n .rejected ++ [.checked exampleCall] } := by
  have harrived := h.tail (.arrive _)
  have hchecked := harrived.tail (.check _ n exampleCall (getElem?_late n _) rfl rfl)
  dsimp only [manyRejected] at hchecked ⊢
  rw [set_late] at hchecked
  exact hchecked

theorem reachable_manyRejected (n : Nat) (hn : n ≤ 0x40000000) :
    Reachable (Step build) (initialized (.attached 0)) (manyRejected n) := by
  induction n with
  | zero =>
      have hclosed : Reachable (Step build) (initialized (.attached 0)) _ :=
        Relation.ReflTransGen.refl.tail (.close _ rfl)
      have hstopped := hclosed.tail (.deinitStop _ 0 rfl)
      exact hstopped.tail (.cancel _ (some 0) rfl)
  | succ n ih =>
      have hlate := reachable_late (ih (by omega))
      have hclosed : admissionClosedBias + (n : Int) < 0 := by
        unfold admissionClosedBias
        omega
      have hrejected := hlate.tail (.enterClosed _ n exampleCall (getElem?_late n _) hclosed)
      dsimp only [manyRejected] at hrejected ⊢
      rw [set_late, ← List.replicate_succ', Int.add_assoc] at hrejected
      exact hrejected

/-- Between the section that cancels a request and the release of its token, its caller is
blocked with neither; and after as many late callers as the closing bias stands for, the next
one is admitted and the teardown detaches under it. -/
theorem completion_gaps :
    (∃ s, Reachable (Step exampleBuild) (initialized (.attached 0)) s ∧
      .blocked 0 false ∈ s.callers ∧ s.desk.runtime.phase = .idle ∧ s.desk.completionTokens = 0) ∧
    ∃ s, Reachable (Step exampleBuild) (initialized (.attached 0)) s ∧
      s.lifecycle = .detached ∧ .entering exampleCall false ∈ s.callers := by
  constructor
  · have hcanceled := (reachable_of_few reachable_submitted).tail
      (.mainline _ (exampleAnswers true 1) rfl rfl)
    exact ⟨_, hcanceled, List.mem_singleton.mpr rfl, rfl, rfl⟩
  · have hmany : Reachable (Step exampleBuild) _ _ :=
      reachable_manyRejected 0x40000000 (Nat.le_refl _)
    have hlate := reachable_late hmany
    have hopen : 0 ≤ admissionClosedBias + ((0x40000000 : Nat) : Int) := by decide
    have hentered := hlate.tail (.enter _ 0x40000000 exampleCall (getElem?_late 0x40000000 _) hopen)
    refine ⟨_, hentered.tail (.detach _ 0 rfl (Int.le_refl 0)), rfl, ?_⟩
    dsimp only
    rw [set_late]
    exact List.mem_append_right _ (List.mem_singleton.mpr rfl)

/-- The upload ends, its caller returns, and the runtime is torn down. -/
theorem completion_of_reachable_torndown :
    ∃ s, Serves s ∧ Vacant s ∧ s.desk.requests.map Request.tokens = [1] := by
  have h₁ := reachable_submitted.tail
    ⟨.mainline _ (exampleAnswers false 0) rfl rfl, by decide, by decide⟩
  have h₂ := h₁.tail ⟨.mainSignal _ 0 rfl, by decide, by decide⟩
  have h₃ := h₂.tail ⟨.takeToken _ 0 0 false rfl (by decide), by decide, by decide⟩
  have h₄ := h₃.tail ⟨.copy _ 0 0 false rfl, by decide, by decide⟩
  have h₅ := h₄.tail ⟨.releaseCall _ 0 false rfl, by decide, by decide⟩
  have h₆ := h₅.tail ⟨.leave _ 0 false rfl (by decide), by decide, by decide⟩
  have h₇ := h₆.tail ⟨.close _ rfl, by decide, by decide⟩
  have h₈ := h₇.tail ⟨.deinitStop _ 0 rfl, by decide, by decide⟩
  have h₉ := h₈.tail ⟨.cancel _ (some 0) rfl, by decide, by decide⟩
  have htorndown := h₉.tail ⟨.detach _ 0 rfl (by decide), by decide, by decide⟩
  obtain ⟨hserves, hvacant⟩ :=
    completion_of_reachable exampleBuild rfl (reachable_of_few htorndown)
  exact ⟨_, hserves, hvacant htorndown rfl, rfl⟩

end Master

end CanopenRtt.Profile
