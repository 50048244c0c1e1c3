import CanopenRtt.Profile.MasterAdmission
import CanopenRtt.Profile.MasterTransport
/-!
# The profile master under interleaving

Callers of `submitAndWait`, passes of the mainline and the lifecycle callbacks, in any
interleaving of their critical sections and of the semaphore operations outside them.
The list of requests and the trace are history: no section reads them.
-/

namespace CanopenRtt.Profile

open Support

/-- What has become of an admitted request: the results published and the tokens released
for it, the upload bytes read for it, and the result its caller has copied. -/
structure Request where
  call : MasterCall
  results : List TransferResult := []
  tokens : Nat := 0
  received : List (BitVec 8) := []
  copied : Option TransferResult := none
  deriving DecidableEq

/-- A section ends with `outcome` for the request. -/
def Request.record (outcome : PassOutcome) (request : Request) : Request :=
  { request with
    received := request.received ++ outcome.received
    results :=
      if outcome.signal then request.results ++ [outcome.runtime.result] else request.results }

/-- A request is admitted, a communication generation is stopped, or objects of a
generation are used for a request. -/
inductive MasterEvent where
  | admitted (request : Nat)
  | stopped (generation : Option Nat)
  | used (request generation : Nat)
  deriving DecidableEq

def MasterEvent.isStop : MasterEvent → Bool
  | .stopped _ => true
  | _ => false

/-- What `requestMutex` and `completionSem` are for, with its history. -/
structure Desk where
  runtime : MasterRuntime
  completionTokens : Nat
  requests : List Request
  trace : List MasterEvent
  deriving DecidableEq

namespace Desk

def current (d : Desk) : Nat := d.requests.length - 1

/-- A section of the mainline or a cancellation ends with `outcome`. -/
def absorb (d : Desk) (outcome : PassOutcome) : Desk :=
  { d with
    runtime := outcome.runtime
    requests := d.requests.modify d.current (Request.record outcome)
    trace := d.trace ++ outcome.used.map (.used d.current) }

/-- `rt_sem_release` of the completion semaphore, after the section that ended `request`. -/
def release (d : Desk) (request : Nat) : Desk :=
  { d with
    completionTokens := d.completionTokens + 1
    requests := d.requests.modify request fun r => { r with tokens := r.tokens + 1 } }

/-- The section of `submitAndWait` that publishes a request and resets the semaphore. -/
def submit (d : Desk) (call : MasterCall) : Option Desk :=
  (d.runtime.submit call).map fun runtime =>
    { runtime := runtime
      completionTokens := 0
      requests := d.requests ++ [{ call := call }]
      trace := d.trace ++ [.admitted d.requests.length] }

def takeToken (d : Desk) : Desk := { d with completionTokens := d.completionTokens - 1 }

/-- The section of `submitAndWait` that copies the result. -/
def copyResult (d : Desk) (request : Nat) : Desk :=
  { d with
    requests := d.requests.modify request fun r => { r with copied := some d.runtime.result } }

/-- Publish generation pointers and readiness. -/
def publish (d : Desk) (co : Option CoObject) (client : Option Nat) (ready : Bool) : Desk :=
  { d with runtime := d.runtime.publish co client ready }

/-- `onCommunicationStop` and `onRuntimeDeinit` before they cancel. -/
def stop (d : Desk) : Desk :=
  { d with
    runtime := d.runtime.publish d.runtime.co d.runtime.client false
    trace := d.trace ++ [.stopped (d.runtime.co.map CoObject.generation)] }

end Desk

/-- Where a caller of `submitAndWait` stands. `entering` waits for `callMutex`, `holding` to
`releasing` own it; `counted` marks the callers that the snapshot of a teardown includes. -/
inductive CallerAt where
  | outside
  | checked (call : MasterCall)
  | rejected
  | entering (call : MasterCall) (counted : Bool)
  | holding (call : MasterCall) (counted : Bool)
  | blocked (request : Nat) (counted : Bool)
  | copying (request : Nat) (counted : Bool)
  | releasing (counted : Bool)
  | leaving (counted : Bool)
  | tokenDue (counted : Bool)
  deriving DecidableEq

/-- Where the lifecycle callbacks stand. A cancellation is followed by the drain of a
teardown when it carries the number of callers to wait for. -/
inductive LifecycleAt where
  | serving
  | closed (admitted : Int)
  | canceling (drain : Option Int)
  | signaling (request : Nat) (drain : Option Int)
  | draining (remaining : Int)
  | detached
  | stopped
  deriving DecidableEq

namespace LifecycleAt

def afterCancel : Option Int → LifecycleAt
  | none => .serving
  | some admitted => .draining admitted

/-- `ipcInitialized` -/
def ipcInitialized : LifecycleAt → Bool
  | .stopped => false
  | _ => true

def attached : LifecycleAt → Bool
  | .detached | .stopped => false
  | _ => true

def isCanceling : LifecycleAt → Bool
  | .canceling _ => true
  | _ => false

/-- The request whose completion token is about to be released. -/
def signal : LifecycleAt → Option Nat
  | .signaling request _ => some request
  | _ => none

/-- The part that concerns the admission counter. -/
def phase : LifecycleAt → RuntimePhase
  | .serving | .canceling none | .signaling _ none => .running
  | .closed admitted | .canceling (some admitted) | .signaling _ (some admitted)
  | .draining admitted => .draining admitted
  | .detached => .detached
  | .stopped => .stopped

end LifecycleAt

namespace CallerAt

/-- The part that concerns the admission counter. -/
def admission : CallerAt → Caller
  | .outside => .outside
  | .checked _ => .checked
  | .rejected => .rejected
  | .entering _ counted | .holding _ counted | .blocked _ counted | .copying _ counted
  | .releasing counted | .leaving counted => .admitted counted
  | .tokenDue counted => .tokenDue counted

def count : CallerAt → CallerAt
  | .entering call _ => .entering call true
  | .holding call _ => .holding call true
  | .blocked request _ => .blocked request true
  | .copying request _ => .copying request true
  | .releasing _ => .releasing true
  | .leaving _ => .leaving true
  | caller => caller

end CallerAt

/-- The profile master with everything that runs in it. `main` is the request whose token
the mainline is about to release. -/
structure Master where
  desk : Desk
  admissionState : Int
  drainTokens : Nat
  callMutex : Bool
  callers : List CallerAt
  main : Option Nat
  lifecycle : LifecycleAt
  deriving DecidableEq

namespace Master

/-- After `onRuntimeInit`. -/
def initialized (r : MasterRuntime) : Master where
  desk := { runtime := r, completionTokens := 0, requests := [], trace := [] }
  admissionState := 0
  drainTokens := 0
  callMutex := false
  callers := []
  main := none
  lifecycle := .serving

/-- The requests whose completion token somebody is about to release. -/
def signals (s : Master) : List Nat := s.main.toList ++ s.lifecycle.signal.toList

/-- The part that concerns the admission counter. -/
def admission (s : Master) : Admission where
  admissionState := s.admissionState
  drainTokens := s.drainTokens
  phase := s.lifecycle.phase
  callers := s.callers.map CallerAt.admission

/-- The section of `cancelActive`. -/
def cancelOutcome (r : MasterRuntime) : PassOutcome :=
  { runtime := r.cancelActive.1, signal := r.cancelActive.2 }

/-- One section, or one operation outside the sections. -/
inductive Step (build : MasterBuild) : Master → Master → Prop where
  | arrive (s : Master) : Step build s { s with callers := s.callers ++ [.outside] }
  /-- The checks of the public functions and of `submitAndWait`. -/
  | check (s : Master) (i : Nat) (call : MasterCall) (houtside : s.callers[i]? = some .outside)
      (hvalid : call.valid = true) (hinitialized : s.lifecycle.ipcInitialized = true) :
      Step build s { s with callers := s.callers.set i (.checked call) }
  | enter (s : Master) (i : Nat) (call : MasterCall)
      (hchecked : s.callers[i]? = some (.checked call)) (hopen : 0 ≤ s.admissionState) :
      Step build s { s with admissionState := s.admissionState + 1
                            callers := s.callers.set i (.entering call false) }
  | enterClosed (s : Master) (i : Nat) (call : MasterCall)
      (hchecked : s.callers[i]? = some (.checked call)) (hclosed : s.admissionState < 0) :
      Step build s { s with admissionState := s.admissionState + 1
                            callers := s.callers.set i .rejected }
  | undo (s : Master) (i : Nat) (hrejected : s.callers[i]? = some .rejected) :
      Step build s { s with admissionState := s.admissionState - 1
                            callers := s.callers.set i .outside }
  | takeCall (s : Master) (i : Nat) (call : MasterCall) (counted : Bool)
      (hentering : s.callers[i]? = some (.entering call counted)) (hfree : s.callMutex = false) :
      Step build s { s with callMutex := true
                            callers := s.callers.set i (.holding call counted) }
  | refuse (s : Master) (i : Nat) (call : MasterCall) (counted : Bool)
      (hholding : s.callers[i]? = some (.holding call counted))
      (hrefused : s.desk.submit call = none) :
      Step build s { s with callers := s.callers.set i (.releasing counted) }
  | submit (s : Master) (i : Nat) (call : MasterCall) (counted : Bool) (desk : Desk)
      (hholding : s.callers[i]? = some (.holding call counted))
      (hadmitted : s.desk.submit call = some desk) :
      Step build s { s with desk := desk
                            callers := s.callers.set i
                              (.blocked s.desk.requests.length counted) }
  | takeToken (s : Master) (i request : Nat) (counted : Bool)
      (hblocked : s.callers[i]? = some (.blocked request counted))
      (htoken : 0 < s.desk.completionTokens) :
      Step build s { s with desk := s.desk.takeToken
                            callers := s.callers.set i (.copying request counted) }
  | copy (s : Master) (i request : Nat) (counted : Bool)
      (hcopying : s.callers[i]? = some (.copying request counted)) :
      Step build s { s with desk := s.desk.copyResult request
                            callers := s.callers.set i (.releasing counted) }
  | releaseCall (s : Master) (i : Nat) (counted : Bool)
      (hreleasing : s.callers[i]? = some (.releasing counted)) :
      Step build s { s with callMutex := false
                            callers := s.callers.set i (.leaving counted) }
  | leave (s : Master) (i : Nat) (counted : Bool)
      (hleaving : s.callers[i]? = some (.leaving counted)) (hopen : 0 ≤ s.admissionState) :
      Step build s { s with admissionState := s.admissionState - 1
                            callers := s.callers.set i .outside }
  | leaveClosed (s : Master) (i : Nat) (counted : Bool)
      (hleaving : s.callers[i]? = some (.leaving counted)) (hclosed : s.admissionState < 0) :
      Step build s { s with admissionState := s.admissionState - 1
                            callers := s.callers.set i (.tokenDue counted) }
  | releaseDrain (s : Master) (i : Nat) (counted : Bool)
      (hdue : s.callers[i]? = some (.tokenDue counted)) :
      Step build s { s with drainTokens := s.drainTokens + 1
                            callers := s.callers.set i .outside }
  /-- A pass of `co_main` that gets `requestMutex`, -/
  | mainline (s : Master) (answers : PassAnswers) (hmain : s.main = none)
      (hattached : s.lifecycle.attached = true) :
      Step build s
        { s with desk := s.desk.absorb (s.desk.runtime.mainlineProcess build answers)
                 main :=
                   if (s.desk.runtime.mainlineProcess build answers).signal then
                     some s.desk.current
                   else none }
  /-- and what it does after that section. -/
  | mainSignal (s : Master) (request : Nat) (hmain : s.main = some request) :
      Step build s { s with desk := s.desk.release request, main := none }
  | stop (s : Master) (hserving : s.lifecycle = .serving) :
      Step build s { s with desk := s.desk.stop, lifecycle := .canceling none }
  | cancel (s : Master) (drain : Option Int) (hcanceling : s.lifecycle = .canceling drain) :
      Step build s
        { s with desk := s.desk.absorb (cancelOutcome s.desk.runtime)
                 lifecycle :=
                   if (cancelOutcome s.desk.runtime).signal then .signaling s.desk.current drain
                   else .afterCancel drain }
  | cancelSignal (s : Master) (request : Nat) (drain : Option Int)
      (hsignaling : s.lifecycle = .signaling request drain) :
      Step build s { s with desk := s.desk.release request, lifecycle := .afterCancel drain }
  | quiesced (s : Master) (hserving : s.lifecycle = .serving) :
      Step build s { s with desk := s.desk.publish none none false }
  | bind (s : Master) (co : CoObject) (r : MasterRuntime) (hserving : s.lifecycle = .serving)
      (hbind : s.desk.runtime.communicationBind build co = some r) :
      Step build s { s with desk := { s.desk with runtime := r } }
  | ready (s : Master) (hserving : s.lifecycle = .serving) :
      Step build s { s with desk := { s.desk with runtime := s.desk.runtime.communicationReadyAt } }
  /-- `admissionClose` of `onRuntimeDeinit`. -/
  | close (s : Master) (hserving : s.lifecycle = .serving) :
      Step build s { s with admissionState := s.admissionState + admissionClosedBias
                            lifecycle := .closed s.admissionState
                            callers := s.callers.map CallerAt.count }
  | deinitStop (s : Master) (admitted : Int) (hclosed : s.lifecycle = .closed admitted) :
      Step build s { s with desk := s.desk.stop, lifecycle := .canceling (some admitted) }
  | drainTake (s : Master) (remaining : Int) (hdraining : s.lifecycle = .draining remaining)
      (hmore : 0 < remaining) (htoken : 0 < s.drainTokens) :
      Step build s { s with drainTokens := s.drainTokens - 1
                            lifecycle := .draining (remaining - 1) }
  | detach (s : Master) (remaining : Int) (hdraining : s.lifecycle = .draining remaining)
      (hdone : remaining ≤ 0) : Step build s { s with lifecycle := .detached }
  | clearInitialized (s : Master) (hdetached : s.lifecycle = .detached) :
      Step build s
        { s with
          desk := { s.desk with
            runtime := { s.desk.runtime with
              co := none
              client := none } }
          lifecycle := .stopped }

end Master

end CanopenRtt.Profile
