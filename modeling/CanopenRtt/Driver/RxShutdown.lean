import CanopenRtt.Support.Threads
/-!
# Starting and stopping the RX thread

`co_rtt_rx_thread_entry`, `co_rtt_rx_start`, `co_rtt_rx_stop` and
`CO_CANmodule_disable` of `port/rtthread/CO_driver_rtthread.c`, one statement at a
time. The controlling thread and the `co_rx` threads run in any interleaving.
-/

namespace CanopenRtt.Driver

open Support

/-- The next statement of a `co_rx` thread. `left` frames of a batch remain. -/
inductive RxPc where
  | created
  | entered
  | loopTest
  | semTake
  | innerTest
  | reading
  | dispatchTest (left count : Nat)
  | dispatching (left count : Nat)
  | batchTest (count : Nat)
  | clearRunning
  | clearThread
  | releaseExit
  | finished
  deriving DecidableEq

def RxPc.isLive (pc : RxPc) : Bool := pc ≠ .finished

/-- The fields of `CO_CANmodule_t` that both sides use. `bound` is the device
binding with its RX indication, `rxThread` tells whether `rx_thread` is set. -/
structure RxModule where
  rxStop : Bool
  rxRunning : Bool
  rxThread : Bool
  rxSem : Nat
  rxExitSem : Nat
  bound : Bool
  deriving DecidableEq

/-- One statement of `co_rtt_rx_thread_entry`; `batchSize` is
`CO_RTT_CAN_RX_BATCH_SIZE`. -/
inductive ThreadStep (batchSize : Nat) : RxModule → RxPc → RxModule → RxPc → Prop where
  | readDev (m : RxModule) : ThreadStep batchSize m .created m .entered
  | setRunning (m : RxModule) :
      ThreadStep batchSize m .entered { m with rxRunning := true } .loopTest
  | loopTest (m : RxModule) :
      ThreadStep batchSize m .loopTest m (if m.rxStop then .clearRunning else .semTake)
  | semTake (m : RxModule) (htoken : 0 < m.rxSem) :
      ThreadStep batchSize m .semTake { m with rxSem := m.rxSem - 1 } .innerTest
  /-- `rt_sem_take` reports an error. -/
  | semTakeFails (m : RxModule) : ThreadStep batchSize m .semTake m .loopTest
  | innerTest (m : RxModule) :
      ThreadStep batchSize m .innerTest m (if m.rxStop then .loopTest else .reading)
  /-- The read fails, or yields nothing or a partial frame. -/
  | readNothing (m : RxModule) : ThreadStep batchSize m .reading m .loopTest
  | readFrames (m : RxModule) (count : Nat) (hcount : 0 < count ∧ count ≤ batchSize) :
      ThreadStep batchSize m .reading m (.dispatchTest count count)
  | dispatchTest (m : RxModule) (left count : Nat) :
      ThreadStep batchSize m (.dispatchTest (left + 1) count) m
        (if m.rxStop then .batchTest count else .dispatching left count)
  | dispatchEnd (m : RxModule) (count : Nat) :
      ThreadStep batchSize m (.dispatchTest 0 count) m (.batchTest count)
  | dispatch (m : RxModule) (left count : Nat) :
      ThreadStep batchSize m (.dispatching left count) m (.dispatchTest left count)
  | batchTest (m : RxModule) (count : Nat) :
      ThreadStep batchSize m (.batchTest count) m
        (if m.rxStop || count ≠ batchSize then .loopTest else .innerTest)
  | clearRunning (m : RxModule) :
      ThreadStep batchSize m .clearRunning { m with rxRunning := false } .clearThread
  | clearThread (m : RxModule) :
      ThreadStep batchSize m .clearThread { m with rxThread := false } .releaseExit
  | releaseExit (m : RxModule) :
      ThreadStep batchSize m .releaseExit { m with rxExitSem := m.rxExitSem + 1 } .finished

/-- The next statement of the controlling thread. A stop inside
`CO_CANmodule_disable` goes on to `detach`. -/
inductive Control where
  | idle
  | startTestThread
  | startTestRunning
  | startClearStop
  | startClearRunning
  | startResetSem
  | startResetExitSem
  | startBind
  | startCreate
  | startup
  | stopSetFlag (disabling : Bool)
  | stopUnbind (disabling : Bool)
  | stopTestThread (disabling : Bool)
  | stopTestRunning (disabling : Bool)
  | stopRelease (disabling : Bool)
  | stopTake (disabling : Bool)
  | detach
  deriving DecidableEq

/-- Where a stop returns to. -/
def Control.afterStop (disabling : Bool) : Control := if disabling then .detach else .idle

/-- A module, its controlling thread and the `co_rx` threads it has started.
`detached` modules have lost their semaphores and may be freed. -/
structure RxSystem where
  canModule : RxModule
  detached : Bool
  control : Control
  threads : List RxPc
  deriving DecidableEq

namespace RxSystem

/-- After `CO_CANmodule_init`. -/
def initialized : RxModule where
  rxStop := false
  rxRunning := false
  rxThread := false
  rxSem := 0
  rxExitSem := 0
  bound := false

def start : RxSystem where
  canModule := initialized
  detached := false
  control := .idle
  threads := []

/-- One statement of any side. -/
inductive Step (batchSize : Nat) : RxSystem → RxSystem → Prop where
  | thread (s : RxSystem) (i : Nat) (pc pc' : RxPc) (m : RxModule)
      (hat : s.threads[i]? = some pc) (hstep : ThreadStep batchSize s.canModule pc m pc') :
      Step batchSize s { s with canModule := m, threads := s.threads.set i pc' }
  /-- `co_rtt_can_rx_indicate` in the receive interrupt. -/
  | indicate (s : RxSystem) (hbound : s.canModule.bound = true)
      (hrunning : s.canModule.rxStop = false) :
      Step batchSize s { s with canModule := { s.canModule with rxSem := s.canModule.rxSem + 1 } }
  -- `co_rtt_rx_start`
  | startCalled (s : RxSystem) (hidle : s.control = .idle) (hattached : s.detached = false) :
      Step batchSize s { s with control := .startTestThread }
  | startTestThread (s : RxSystem) (hat : s.control = .startTestThread) :
      Step batchSize s { s with
        control := if s.canModule.rxThread then .idle else .startTestRunning }
  | startTestRunning (s : RxSystem) (hat : s.control = .startTestRunning) :
      Step batchSize s { s with
        control := if s.canModule.rxRunning then .idle else .startClearStop }
  | startClearStop (s : RxSystem) (hat : s.control = .startClearStop) :
      Step batchSize s { s with control := .startClearRunning
                                canModule := { s.canModule with rxStop := false } }
  | startClearRunning (s : RxSystem) (hat : s.control = .startClearRunning) :
      Step batchSize s { s with control := .startResetSem
                                canModule := { s.canModule with rxRunning := false } }
  | startResetSem (s : RxSystem) (hat : s.control = .startResetSem) :
      Step batchSize s { s with control := .startResetExitSem
                                canModule := { s.canModule with rxSem := 0 } }
  | startResetExitSem (s : RxSystem) (hat : s.control = .startResetExitSem) :
      Step batchSize s { s with control := .startBind
                                canModule := { s.canModule with rxExitSem := 0 } }
  | startBind (s : RxSystem) (hat : s.control = .startBind) :
      Step batchSize s { s with control := .startCreate
                                canModule := { s.canModule with bound := true } }
  | startBindFails (s : RxSystem) (hat : s.control = .startBind) :
      Step batchSize s { s with control := .idle }
  | startCreate (s : RxSystem) (hat : s.control = .startCreate) :
      Step batchSize s { s with control := .startup
                                canModule := { s.canModule with rxThread := true } }
  | startCreateFails (s : RxSystem) (hat : s.control = .startCreate) :
      Step batchSize s { s with
        control := .idle
        canModule := { s.canModule with rxThread := false, bound := false } }
  | startup (s : RxSystem) (hat : s.control = .startup) :
      Step batchSize s { s with control := .idle, threads := s.threads ++ [.created] }
  | startupFails (s : RxSystem) (hat : s.control = .startup) :
      Step batchSize s { s with
        control := .idle
        canModule := { s.canModule with rxThread := false, bound := false } }
  -- `co_rtt_rx_stop`, on its own or in `CO_CANmodule_disable`
  | stopCalled (s : RxSystem) (disabling : Bool) (hidle : s.control = .idle)
      (hattached : s.detached = false) :
      Step batchSize s { s with control := .stopSetFlag disabling }
  | stopSetFlag (s : RxSystem) (disabling : Bool) (hat : s.control = .stopSetFlag disabling) :
      Step batchSize s { s with control := .stopUnbind disabling
                                canModule := { s.canModule with rxStop := true } }
  | stopUnbind (s : RxSystem) (disabling : Bool) (hat : s.control = .stopUnbind disabling) :
      Step batchSize s { s with control := .stopTestThread disabling
                                canModule := { s.canModule with bound := false } }
  | stopTestThread (s : RxSystem) (disabling : Bool) (hat : s.control = .stopTestThread disabling) :
      Step batchSize s { s with
        control := if s.canModule.rxThread then .stopRelease disabling
          else .stopTestRunning disabling }
  | stopTestRunning (s : RxSystem) (disabling : Bool)
      (hat : s.control = .stopTestRunning disabling) :
      Step batchSize s { s with
        control := if s.canModule.rxRunning then .stopRelease disabling
          else Control.afterStop disabling }
  | stopRelease (s : RxSystem) (disabling : Bool) (hat : s.control = .stopRelease disabling) :
      Step batchSize s { s with control := .stopTake disabling
                                canModule := { s.canModule with rxSem := s.canModule.rxSem + 1 } }
  | stopTake (s : RxSystem) (disabling : Bool) (hat : s.control = .stopTake disabling)
      (htoken : 0 < s.canModule.rxExitSem) :
      Step batchSize s { s with
        control := Control.afterStop disabling
        canModule := { s.canModule with rxExitSem := s.canModule.rxExitSem - 1 } }
  | detach (s : RxSystem) (hat : s.control = .detach) :
      Step batchSize s { s with control := .idle, detached := true }
  /-- `CO_CANmodule_init` of the next communication. -/
  | reinit (s : RxSystem) (hidle : s.control = .idle) (hdetached : s.detached = true) :
      Step batchSize s { s with detached := false, canModule := initialized }

def liveCount (s : RxSystem) : Nat := s.threads.countP RxPc.isLive

/-- What the handshake owes. -/
structure Handshake (s : RxSystem) : Prop where
  /-- A stop has returned and no start has been made since. -/
  stopped : (s.control = .idle ∨ s.control = .detach) → s.canModule.rxStop = true →
    ∀ pc ∈ s.threads, pc = .finished
  /-- The objects of a detached module are not used. -/
  detached : s.detached = true → ∀ pc ∈ s.threads, pc = .finished
  /-- A stop that waits has its token or a live thread that can go on. -/
  waits : ∀ disabling, s.control = .stopTake disabling → 0 < s.canModule.rxExitSem ∨
    ∃ pc ∈ s.threads, pc.isLive = true ∧ (pc = .semTake → 0 < s.canModule.rxSem)
  single : s.liveCount ≤ 1

/-- A stop reads `rx_thread` while no thread stands between clearing it and its last
release. -/
def Undisturbed (s t : RxSystem) : Prop :=
  ∀ disabling, s.control = .stopTestThread disabling → t.control = .stopTestRunning disabling →
    .releaseExit ∉ s.threads

variable {batchSize : Nat}

/-! ## The invariant -/

/-- The flags of a module whose live thread is at `pc`. -/
def Fits (m : RxModule) : RxPc → Prop
  | .created | .entered => m.rxRunning = false ∧ m.rxThread = true
  | .clearRunning => m.rxStop = true ∧ m.rxRunning = true ∧ m.rxThread = true
  | .clearThread => m.rxStop = true ∧ m.rxRunning = false ∧ m.rxThread = true
  | .releaseExit => m.rxStop = true ∧ m.rxRunning = false ∧ m.rxThread = false
  | .finished => True
  | _ => m.rxRunning = true ∧ m.rxThread = true

/-- What the controlling thread relies on at its next statement. -/
def ControlFits (s : RxSystem) : Control → Prop
  | .idle | .startTestThread => s.canModule.rxStop = true → s.liveCount = 0
  | .startTestRunning | .startClearStop | .detach => s.liveCount = 0
  | .startClearRunning | .startResetSem | .startResetExitSem =>
      s.liveCount = 0 ∧ s.canModule.rxStop = false
  | .startBind | .startCreate =>
      s.liveCount = 0 ∧ s.canModule.rxStop = false ∧ s.canModule.rxExitSem = 0
  | .startup => s.liveCount = 0 ∧ s.canModule.rxStop = false ∧ s.canModule.rxExitSem = 0 ∧
      s.canModule.rxThread = true
  | .stopSetFlag _ => True
  | .stopUnbind _ | .stopTestThread _ => s.canModule.rxStop = true
  | .stopTestRunning _ => s.canModule.rxStop = true ∧ s.liveCount = 0
  | .stopRelease _ => s.canModule.rxStop = true ∧ s.liveCount + s.canModule.rxExitSem = 1
  | .stopTake _ => s.canModule.rxStop = true ∧ s.liveCount + s.canModule.rxExitSem = 1 ∧
      (.semTake ∈ s.threads → 0 < s.canModule.rxSem)

structure Inv (s : RxSystem) : Prop where
  fits : ∀ pc ∈ s.threads, Fits s.canModule pc
  single : s.liveCount + s.canModule.rxExitSem ≤ 1
  quiet : s.liveCount = 0 → s.canModule.rxRunning = false ∧
    (s.canModule.rxThread = true → s.control = .startup)
  control : s.ControlFits s.control
  detached : s.detached = true → s.control = .idle ∧ s.liveCount = 0

theorem inv_start : Inv start where
  fits _ hmem := absurd hmem List.not_mem_nil
  single := Nat.zero_le 1
  quiet _ := ⟨rfl, fun h => by contradiction⟩
  control _ := rfl
  detached h := by contradiction

/-! ## A step of a thread -/

/-- What a statement of a thread does to the handshake. -/
structure Moves (m : RxModule) (pc : RxPc) (m' : RxModule) (pc' : RxPc) : Prop where
  live : pc.isLive = true
  stop : m'.rxStop = m.rxStop
  exit : m'.rxExitSem + pc'.isLive.toNat = m.rxExitSem + 1
  fits : Fits m' pc'
  left : pc' = .finished → m'.rxRunning = false ∧ m'.rxThread = false
  /-- Only a thread that is not told to stop goes on to wait for frames. -/
  waits : pc' = .semTake → m.rxStop = false

theorem moves_of_threadStep {m m' : RxModule} {pc pc' : RxPc}
    (h : ThreadStep batchSize m pc m' pc') (hfits : Fits m pc) : Moves m pc m' pc' := by
  cases h with
  | readDev => exact ⟨rfl, rfl, rfl, hfits, nofun, nofun⟩
  | setRunning => exact ⟨rfl, rfl, rfl, ⟨rfl, hfits.2⟩, nofun, nofun⟩
  | loopTest =>
      cases hstop : m.rxStop with
      | true => exact ⟨rfl, rfl, rfl, ⟨hstop, hfits⟩, nofun, nofun⟩
      | false => exact ⟨rfl, rfl, rfl, hfits, nofun, fun _ => hstop⟩
  | semTake htoken => exact ⟨rfl, rfl, rfl, hfits, nofun, nofun⟩
  | semTakeFails => exact ⟨rfl, rfl, rfl, hfits, nofun, nofun⟩
  | innerTest =>
      cases hstop : m.rxStop with
      | true => exact ⟨rfl, rfl, rfl, hfits, nofun, nofun⟩
      | false => exact ⟨rfl, rfl, rfl, hfits, nofun, nofun⟩
  | readNothing => exact ⟨rfl, rfl, rfl, hfits, nofun, nofun⟩
  | readFrames count hcount => exact ⟨rfl, rfl, rfl, hfits, nofun, nofun⟩
  | dispatchTest left count =>
      cases hstop : m.rxStop with
      | true => exact ⟨rfl, rfl, rfl, hfits, nofun, nofun⟩
      | false => exact ⟨rfl, rfl, rfl, hfits, nofun, nofun⟩
  | dispatchEnd count => exact ⟨rfl, rfl, rfl, hfits, nofun, nofun⟩
  | dispatch left count => exact ⟨rfl, rfl, rfl, hfits, nofun, nofun⟩
  | batchTest count =>
      cases hleave : m.rxStop || count ≠ batchSize with
      | true => exact ⟨rfl, rfl, rfl, hfits, nofun, nofun⟩
      | false => exact ⟨rfl, rfl, rfl, hfits, nofun, nofun⟩
  | clearRunning => exact ⟨rfl, rfl, rfl, ⟨hfits.1, rfl, hfits.2.2⟩, nofun, nofun⟩
  | clearThread => exact ⟨rfl, rfl, rfl, ⟨hfits.1, hfits.2.1, rfl⟩, nofun, nofun⟩
  | releaseExit => exact ⟨rfl, rfl, rfl, trivial, fun _ => hfits.2, nofun⟩

theorem eq_finished {pc : RxPc} (h : pc.isLive = false) : pc = .finished := by
  simpa [RxPc.isLive] using h

theorem inv_thread {s : RxSystem} {i : Nat} {pc pc' : RxPc} {m : RxModule} (h : Inv s)
    (hat : s.threads[i]? = some pc) (hstep : ThreadStep batchSize s.canModule pc m pc') :
    Inv { s with canModule := m, threads := s.threads.set i pc' } := by
  have hmoves := moves_of_threadStep hstep (h.fits pc (List.mem_of_getElem? hat))
  have hpositive : 0 < s.liveCount := countP_pos_of_getElem? hat hmoves.live
  have hsingle := h.single
  have hcount : (s.threads.set i pc').countP RxPc.isLive + 1 = s.liveCount + pc'.isLive.toNat := by
    have hadd := countP_set_add RxPc.isLive pc' hat
    rwa [hmoves.live, Bool.toNat_true] at hadd
  have hexit := hmoves.exit
  -- The stepping thread is the only one that is live.
  have honly (other : RxPc) (hmem : other ∈ s.threads.set i pc') (hlive : other.isLive = true) :
      other = pc' :=
    eq_of_mem_set_of_countP hat hmoves.live (Nat.le_of_add_right_le h.single) hmem hlive
  have hzero : (s.threads.set i pc').countP RxPc.isLive = 0 → pc' = .finished := by
    intro hnone
    apply eq_finished
    rw [hnone] at hcount
    cases hlive : pc'.isLive with
    | true =>
        rw [hlive, Bool.toNat_true] at hcount
        omega
    | false => rfl
  refine ⟨?_, ?_, ?_, ?_, ?_⟩
  · intro other hmem
    cases hlive : other.isLive with
    | true =>
        rw [honly other hmem hlive]
        exact hmoves.fits
    | false =>
        rw [eq_finished hlive]
        trivial
  · change (s.threads.set i pc').countP RxPc.isLive + m.rxExitSem ≤ 1
    omega
  · intro hnone
    obtain ⟨hrunning, hthread⟩ := hmoves.left (hzero hnone)
    refine ⟨hrunning, fun hset => ?_⟩
    rw [hthread] at hset
    contradiction
  · have hcontrol := h.control
    unfold ControlFits liveCount at hcontrol ⊢
    unfold liveCount at hpositive hsingle hcount
    dsimp only
    rw [hmoves.stop]
    cases hat : s.control with
    | idle | startTestThread =>
        rw [hat] at hcontrol
        intro hstop
        have hnone := hcontrol hstop
        omega
    | startTestRunning | startClearStop | detach =>
        rw [hat] at hcontrol
        have hnone : s.threads.countP RxPc.isLive = 0 := hcontrol
        omega
    | startClearRunning | startResetSem | startResetExitSem | startBind | startCreate | startup =>
        rw [hat] at hcontrol
        have hnone : s.threads.countP RxPc.isLive = 0 := hcontrol.1
        omega
    | stopSetFlag disabling => trivial
    | stopUnbind disabling | stopTestThread disabling =>
        rw [hat] at hcontrol
        exact hcontrol
    | stopTestRunning disabling =>
        rw [hat] at hcontrol
        exact ⟨hcontrol.1, by omega⟩
    | stopRelease disabling =>
        rw [hat] at hcontrol
        exact ⟨hcontrol.1, by omega⟩
    | stopTake disabling =>
        rw [hat] at hcontrol
        refine ⟨hcontrol.1, by omega, fun hmem => ?_⟩
        have hgoes := hmoves.waits (honly .semTake hmem rfl).symm
        rw [hcontrol.1] at hgoes
        contradiction
  · intro hdetached
    have hnone := (h.detached hdetached).2
    omega

/-! ## A step of the controlling thread -/

theorem liveCount_eq_zero_iff {s : RxSystem} :
    s.liveCount = 0 ↔ ∀ pc ∈ s.threads, pc = .finished := by
  unfold liveCount
  rw [List.countP_eq_zero]
  constructor
  · intro h pc hmem
    exact eq_finished (by simpa using h pc hmem)
  · intro h pc hmem
    rw [h pc hmem]
    decide

theorem fits_of_idle {s : RxSystem} (h : s.liveCount = 0) (m : RxModule) :
    ∀ pc ∈ s.threads, Fits m pc := by
  intro pc hmem
  rw [liveCount_eq_zero_iff.mp h pc hmem]
  trivial

/-- A live thread that has not been told to stop shows in `rx_thread`. -/
theorem rxThread_of_live {s : RxSystem} (h : Inv s) {pc : RxPc} (hmem : pc ∈ s.threads)
    (hlive : pc.isLive = true) (hexit : pc ≠ .releaseExit) : s.canModule.rxThread = true := by
  have hfits := h.fits pc hmem
  cases pc with
  | finished => contradiction
  | releaseExit => contradiction
  | clearRunning => exact hfits.2.2
  | clearThread => exact hfits.2.2
  | _ => exact hfits.2

/-- Without `rx_thread` the only live thread possible is one that has still to release
`rxExitSem`. -/
theorem liveCount_of_no_rxThread {s : RxSystem} (h : Inv s) (hthread : s.canModule.rxThread = false)
    (hexit : .releaseExit ∉ s.threads) : s.liveCount = 0 := by
  rw [liveCount_eq_zero_iff]
  intro pc hmem
  by_contra hunfinished
  have hlive : pc.isLive = true := by simpa [RxPc.isLive] using hunfinished
  have hset := rxThread_of_live h hmem hlive fun heq => hexit (heq ▸ hmem)
  rw [hthread] at hset
  contradiction

/-- A thread has cleared `rx_thread` only because it was told to stop. -/
theorem releaseExit_not_mem {s : RxSystem} (h : Inv s) (hstop : s.canModule.rxStop = false) :
    .releaseExit ∉ s.threads := by
  intro hmem
  have htold : s.canModule.rxStop = true := (h.fits .releaseExit hmem).1
  rw [hstop] at htold
  contradiction

theorem token_of_rxThread {s : RxSystem} (h : Inv s) (hthread : s.canModule.rxThread = true)
    (hnotStartup : s.control ≠ .startup) : s.liveCount + s.canModule.rxExitSem = 1 := by
  have hsingle := h.single
  by_contra hnone
  have hidle : s.liveCount = 0 := by omega
  exact hnotStartup ((h.quiet hidle).2 hthread)

theorem inv_indicate {s : RxSystem} (h : Inv s) :
    Inv { s with canModule := { s.canModule with rxSem := s.canModule.rxSem + 1 } } where
  fits pc hmem := by
    have hfits := h.fits pc hmem
    cases pc <;> exact hfits
  single := h.single
  quiet := h.quiet
  control := by
    have hcontrol := h.control
    unfold ControlFits at hcontrol ⊢
    cases hat : s.control with
    | stopTake disabling =>
        rw [hat] at hcontrol
        exact ⟨hcontrol.1, hcontrol.2.1, fun _ => Nat.succ_pos _⟩
    | _ =>
        rw [hat] at hcontrol
        exact hcontrol
  detached := h.detached

/-- A statement of the controlling thread that leaves the module alone. -/
theorem inv_control {s : RxSystem} (h : Inv s) {control : Control}
    (hcontrol : s.ControlFits control) (hattached : s.detached = false)
    (hnotStartup : s.control ≠ .startup) : Inv { s with control := control } where
  fits := h.fits
  single := h.single
  quiet hnone := by
    refine ⟨(h.quiet hnone).1, fun hthread => ?_⟩
    exact absurd ((h.quiet hnone).2 hthread) hnotStartup
  control := by
    unfold ControlFits liveCount at hcontrol ⊢
    exact hcontrol
  detached hdetached := by
    have htrue : s.detached = true := hdetached
    rw [hattached] at htrue
    contradiction

theorem attached_of_busy {s : RxSystem} (h : Inv s) (hbusy : s.control ≠ .idle) :
    s.detached = false := by
  cases hdetached : s.detached with
  | true => exact absurd (h.detached hdetached).1 hbusy
  | false => rfl

/-- Only a start that has just created its thread shows one that is not live. -/
theorem not_rxThread {s : RxSystem} (h : Inv s) (hidle : s.liveCount = 0)
    (hnotStartup : s.control ≠ .startup) : ¬ s.canModule.rxThread = true :=
  fun hthread => hnotStartup ((h.quiet hidle).2 hthread)

/-- A statement of a start that prepares the module while no thread is live. -/
theorem inv_prepare {s : RxSystem} (h : Inv s) {control : Control} {m : RxModule}
    (hidle : s.liveCount = 0) (hbusy : s.control ≠ .idle)
    (hcontrol : ControlFits { s with canModule := m, control := control } control)
    (hrunning : m.rxRunning = false) (hthread : m.rxThread = true → control = .startup)
    (hexit : m.rxExitSem ≤ 1) : Inv { s with canModule := m, control := control } where
  fits := fits_of_idle hidle m
  single := by
    have hsum : s.liveCount + m.rxExitSem ≤ 1 := by omega
    exact hsum
  quiet _ := ⟨hrunning, hthread⟩
  control := hcontrol
  detached hdetached := by
    have htrue : s.detached = true := hdetached
    rw [attached_of_busy h hbusy] at htrue
    contradiction

theorem inv_update {s : RxSystem} (h : Inv s) {control : Control} {m : RxModule}
    (hfits : ∀ pc ∈ s.threads, Fits s.canModule pc → Fits m pc)
    (hrunning : m.rxRunning = s.canModule.rxRunning) (hthread : m.rxThread = s.canModule.rxThread)
    (hexit : m.rxExitSem ≤ s.canModule.rxExitSem) (hattached : s.detached = false)
    (hnotStartup : s.control ≠ .startup)
    (hcontrol : ControlFits { s with canModule := m, control := control } control) :
    Inv { s with canModule := m, control := control } where
  fits pc hmem := hfits pc hmem (h.fits pc hmem)
  single := by
    have hsingle := h.single
    have hsum : s.liveCount + m.rxExitSem ≤ 1 := by omega
    exact hsum
  quiet hidle := by
    refine ⟨hrunning.trans (h.quiet hidle).1, fun hset => ?_⟩
    exact absurd (hthread.symm.trans hset) (not_rxThread h hidle hnotStartup)
  control := hcontrol
  detached hdetached := by
    have htrue : s.detached = true := hdetached
    rw [hattached] at htrue
    contradiction

theorem fits_stop {m : RxModule} {pc : RxPc} (h : Fits m pc) :
    Fits { m with rxStop := true } pc := by
  cases pc with
  | clearRunning => exact ⟨rfl, h.2⟩
  | clearThread => exact ⟨rfl, h.2⟩
  | releaseExit => exact ⟨rfl, h.2⟩
  | _ => exact h

theorem inv_startup {s : RxSystem} (h : Inv s) (hat : s.control = .startup) :
    Inv { s with control := .idle, threads := s.threads ++ [.created] } := by
  have hcontrol := h.control
  rw [hat] at hcontrol
  obtain ⟨hidle, hstop, hexit, hthread⟩ := hcontrol
  have hcount : (s.threads ++ [RxPc.created]).countP RxPc.isLive = 1 := by
    rw [countP_concat]
    exact congrArg (· + 1) hidle
  refine ⟨?_, ?_, ?_, ?_, ?_⟩
  · exact forall_mem_concat (fits_of_idle hidle _) ⟨(h.quiet hidle).1, hthread⟩
  · change (s.threads ++ [RxPc.created]).countP RxPc.isLive + s.canModule.rxExitSem ≤ 1
    omega
  · intro hnone
    have hzero : (s.threads ++ [RxPc.created]).countP RxPc.isLive = 0 := hnone
    omega
  · intro htold
    have htold : s.canModule.rxStop = true := htold
    rw [hstop] at htold
    contradiction
  · intro hdetached
    have htrue : s.detached = true := hdetached
    rw [attached_of_busy h (by rw [hat]; decide)] at htrue
    contradiction

theorem controlFits_afterStop {s : RxSystem} {disabling : Bool} (hidle : s.liveCount = 0) :
    s.ControlFits (Control.afterStop disabling) := by
  cases disabling with
  | true => exact hidle
  | false => exact fun _ => hidle

/-- A step whose stop does not read `rx_thread` in the last window of a thread. -/
def Orderly (batchSize : Nat) (s t : RxSystem) : Prop :=
  Step batchSize s t ∧ Undisturbed s t

theorem inv_step {s t : RxSystem} (h : Inv s) (hstep : Orderly batchSize s t) : Inv t := by
  obtain ⟨hstep, hundisturbed⟩ := hstep
  have hcontrol := h.control
  cases hstep with
  | thread i pc pc' m hat hthread => exact inv_thread h hat hthread
  | indicate hbound hrunning => exact inv_indicate h
  | startCalled hidle hattached =>
      rw [hidle] at hcontrol
      exact inv_control h hcontrol hattached (by rw [hidle]; decide)
  | startTestThread hat =>
      rw [hat] at hcontrol
      have hattached := attached_of_busy h (by rw [hat]; decide)
      refine inv_control h ?_ hattached (by rw [hat]; decide)
      cases hthread : s.canModule.rxThread with
      | true => exact hcontrol
      | false =>
          -- A stopped module has no live thread, a running one would show it.
          cases hstop : s.canModule.rxStop with
          | true => exact hcontrol hstop
          | false => exact liveCount_of_no_rxThread h hthread (releaseExit_not_mem h hstop)
  | startTestRunning hat =>
      rw [hat] at hcontrol
      have hattached := attached_of_busy h (by rw [hat]; decide)
      refine inv_control h ?_ hattached (by rw [hat]; decide)
      rw [(h.quiet hcontrol).1]
      exact hcontrol
  | startClearStop hat =>
      rw [hat] at hcontrol
      have hnone := not_rxThread h hcontrol (by rw [hat]; decide)
      exact inv_prepare h hcontrol (by rw [hat]; decide) ⟨hcontrol, rfl⟩
        (h.quiet hcontrol).1 (fun hset => absurd hset hnone)
        (Nat.le_trans (Nat.le_add_left _ _) h.single)
  | startClearRunning hat =>
      rw [hat] at hcontrol
      have hnone := not_rxThread h hcontrol.1 (by rw [hat]; decide)
      exact inv_prepare h hcontrol.1 (by rw [hat]; decide)
        hcontrol rfl (fun hset => absurd hset hnone)
        (Nat.le_trans (Nat.le_add_left _ _) h.single)
  | startResetSem hat =>
      rw [hat] at hcontrol
      have hnone := not_rxThread h hcontrol.1 (by rw [hat]; decide)
      exact inv_prepare h hcontrol.1 (by rw [hat]; decide)
        hcontrol (h.quiet hcontrol.1).1 (fun hset => absurd hset hnone)
        (Nat.le_trans (Nat.le_add_left _ _) h.single)
  | startResetExitSem hat =>
      rw [hat] at hcontrol
      have hnone := not_rxThread h hcontrol.1 (by rw [hat]; decide)
      exact inv_prepare h hcontrol.1 (by rw [hat]; decide) ⟨hcontrol.1, hcontrol.2, rfl⟩
        (h.quiet hcontrol.1).1 (fun hset => absurd hset hnone)
        (Nat.zero_le 1)
  | startBind hat =>
      rw [hat] at hcontrol
      have hnone := not_rxThread h hcontrol.1 (by rw [hat]; decide)
      exact inv_prepare h hcontrol.1 (by rw [hat]; decide)
        hcontrol (h.quiet hcontrol.1).1 (fun hset => absurd hset hnone)
        (Nat.le_trans (Nat.le_add_left _ _) h.single)
  | startBindFails hat =>
      rw [hat] at hcontrol
      exact inv_control h (fun _ => hcontrol.1) (attached_of_busy h (by rw [hat]; decide))
        (by rw [hat]; decide)
  | startCreate hat =>
      rw [hat] at hcontrol
      exact inv_prepare h hcontrol.1 (by rw [hat]; decide)
        ⟨hcontrol.1, hcontrol.2.1, hcontrol.2.2, rfl⟩ (h.quiet hcontrol.1).1 (fun _ => rfl)
        (Nat.le_trans (Nat.le_add_left _ _) h.single)
  | startCreateFails hat =>
      rw [hat] at hcontrol
      exact inv_prepare h hcontrol.1 (by rw [hat]; decide) (fun _ => hcontrol.1)
        (h.quiet hcontrol.1).1 nofun (Nat.le_trans (Nat.le_add_left _ _) h.single)
  | startup hat => exact inv_startup h hat
  | startupFails hat =>
      rw [hat] at hcontrol
      exact inv_prepare h hcontrol.1 (by rw [hat]; decide) (fun _ => hcontrol.1)
        (h.quiet hcontrol.1).1 nofun (Nat.le_trans (Nat.le_add_left _ _) h.single)
  | stopCalled disabling hidle hattached =>
      exact inv_control h trivial hattached (by rw [hidle]; decide)
  | stopSetFlag disabling hat =>
      have hattached := attached_of_busy h (by rw [hat]; exact nofun)
      exact inv_update h (fun _ _ hfits => fits_stop hfits) rfl rfl (Nat.le_refl _) hattached
        (by rw [hat]; exact nofun) rfl
  | stopUnbind disabling hat =>
      rw [hat] at hcontrol
      have hattached := attached_of_busy h (by rw [hat]; exact nofun)
      exact inv_update h (fun pc _ hfits => by cases pc <;> exact hfits) rfl rfl (Nat.le_refl _)
        hattached (by rw [hat]; exact nofun) hcontrol
  | stopTestThread disabling hat =>
      rw [hat] at hcontrol
      have hattached := attached_of_busy h (by rw [hat]; exact nofun)
      refine inv_control h ?_ hattached (by rw [hat]; exact nofun)
      cases hthread : s.canModule.rxThread with
      | true => exact ⟨hcontrol, token_of_rxThread h hthread (by rw [hat]; exact nofun)⟩
      | false =>
          have hexit : .releaseExit ∉ s.threads := by
            refine hundisturbed disabling hat ?_
            rw [hthread]
            rfl
          exact ⟨hcontrol, liveCount_of_no_rxThread h hthread hexit⟩
  | stopTestRunning disabling hat =>
      rw [hat] at hcontrol
      have hattached := attached_of_busy h (by rw [hat]; exact nofun)
      refine inv_control h ?_ hattached (by rw [hat]; exact nofun)
      rw [(h.quiet hcontrol.2).1]
      exact controlFits_afterStop hcontrol.2
  | stopRelease disabling hat =>
      rw [hat] at hcontrol
      have hattached := attached_of_busy h (by rw [hat]; exact nofun)
      exact inv_update h (fun pc _ hfits => by cases pc <;> exact hfits) rfl rfl (Nat.le_refl _)
        hattached (by rw [hat]; exact nofun) ⟨hcontrol.1, hcontrol.2, fun _ => Nat.succ_pos _⟩
  | stopTake disabling hat htoken =>
      rw [hat] at hcontrol
      have hattached := attached_of_busy h (by rw [hat]; exact nofun)
      -- The token is that of the thread: nobody is live any more.
      have hidle : s.liveCount = 0 := by
        have hsum := hcontrol.2.1
        omega
      exact inv_update h (fun pc _ hfits => by cases pc <;> exact hfits) rfl rfl (Nat.sub_le _ 1)
        hattached (by rw [hat]; exact nofun) (controlFits_afterStop hidle)
  | detach hat =>
      rw [hat] at hcontrol
      refine ⟨h.fits, h.single, fun hidle => ?_, fun _ => hcontrol, fun _ => ⟨rfl, hcontrol⟩⟩
      have hnone := not_rxThread h hidle (by rw [hat]; decide)
      exact ⟨(h.quiet hidle).1, fun hset => absurd hset hnone⟩
  | reinit hidle hdetached =>
      have hnone := (h.detached hdetached).2
      refine ⟨fits_of_idle hnone _, ?_, fun _ => ⟨rfl, nofun⟩, ?_, nofun⟩
      · change s.liveCount + 0 ≤ 1
        omega
      · change ControlFits _ s.control
        rw [hidle]
        exact fun _ => hnone

/-! ## Every run -/

theorem handshake_of_inv {s : RxSystem} (h : Inv s) : Handshake s where
  stopped hcontrol hstop := by
    have hfits := h.control
    rcases hcontrol with hidle | hdetach
    · rw [hidle] at hfits
      exact liveCount_eq_zero_iff.mp (hfits hstop)
    · rw [hdetach] at hfits
      exact liveCount_eq_zero_iff.mp hfits
  detached hdetached := liveCount_eq_zero_iff.mp (h.detached hdetached).2
  waits disabling hat := by
    have hfits := h.control
    rw [hat] at hfits
    obtain ⟨-, hsum, hsem⟩ := hfits
    by_cases htoken : 0 < s.canModule.rxExitSem
    · exact .inl htoken
    · right
      have hpositive : 0 < s.threads.countP RxPc.isLive := by
        unfold liveCount at hsum
        omega
      obtain ⟨pc, hmem, hlive⟩ := List.countP_pos_iff.mp hpositive
      exact ⟨pc, hmem, hlive, fun heq => hsem (heq ▸ hmem)⟩
  single := Nat.le_trans (Nat.le_add_right _ _) h.single

/-- Every interleaving of the threads with starts, stops, disables and new
initialisations in which no stop hits the last window of a thread. -/
theorem rxHandshake_of_reachable (batchSize : Nat) {s : RxSystem}
    (h : Reachable (Orderly batchSize) start s) : Handshake s :=
  handshake_of_inv (h.invariant inv_start inv_step)

theorem orderly_of_not_testRunning {s t : RxSystem} (hstep : Step batchSize s t)
    (hcontrol : (t.control matches .stopTestRunning _) = false) : Orderly batchSize s t :=
  ⟨hstep, fun disabling _ hnext => by simp [hnext] at hcontrol⟩

/-- A thread that has been started and has not been scheduled yet. -/
def started : RxSystem where
  canModule := { initialized with rxThread := true, bound := true }
  detached := false
  control := .idle
  threads := [.created]

theorem orderly_started : Reachable (Orderly 16) start started :=
  ((((((((((Relation.ReflTransGen.refl
    ).tail (orderly_of_not_testRunning (.startCalled _ rfl rfl) rfl)
    ).tail (orderly_of_not_testRunning (.startTestThread _ rfl) rfl)
    ).tail (orderly_of_not_testRunning (.startTestRunning _ rfl) rfl)
    ).tail (orderly_of_not_testRunning (.startClearStop _ rfl) rfl)
    ).tail (orderly_of_not_testRunning (.startClearRunning _ rfl) rfl)
    ).tail (orderly_of_not_testRunning (.startResetSem _ rfl) rfl)
    ).tail (orderly_of_not_testRunning (.startResetExitSem _ rfl) rfl)
    ).tail (orderly_of_not_testRunning (.startBind _ rfl) rfl)
    ).tail (orderly_of_not_testRunning (.startCreate _ rfl) rfl)
    ).tail (orderly_of_not_testRunning (.startup _ rfl) rfl)

/-- A disable waits for a thread that was waiting for frames. -/
def disabling : RxSystem where
  canModule :=
    { initialized with
      rxStop := true
      rxRunning := true
      rxThread := true
      rxSem := 1 }
  detached := false
  control := .stopTake true
  threads := [.semTake]

theorem orderly_disabling : Reachable (Orderly 16) start disabling :=
  ((((((((orderly_started
    ).tail (orderly_of_not_testRunning (.thread _ 0 _ _ _ rfl (.readDev _)) rfl)
    ).tail (orderly_of_not_testRunning (.thread _ 0 _ _ _ rfl (.setRunning _)) rfl)
    ).tail (orderly_of_not_testRunning (.thread _ 0 _ _ _ rfl (.loopTest _)) rfl)
    ).tail (orderly_of_not_testRunning (.stopCalled _ true rfl rfl) rfl)
    ).tail (orderly_of_not_testRunning (.stopSetFlag _ true rfl) rfl)
    ).tail (orderly_of_not_testRunning (.stopUnbind _ true rfl) rfl)
    ).tail (orderly_of_not_testRunning (.stopTestThread _ true rfl) rfl)
    ).tail (orderly_of_not_testRunning (.stopRelease _ true rfl) rfl)

/-- The thread has gone, and the disable has detached the semaphores. -/
def disabled : RxSystem where
  canModule := { initialized with rxStop := true }
  detached := true
  control := .idle
  threads := [.finished]

theorem orderly_disabled : Reachable (Orderly 16) start disabled :=
  ((((((((orderly_disabling
    ).tail (orderly_of_not_testRunning
      (.thread _ 0 _ _ _ rfl (.semTake _ (by decide))) rfl)
    ).tail (orderly_of_not_testRunning (.thread _ 0 _ _ _ rfl (.innerTest _)) rfl)
    ).tail (orderly_of_not_testRunning (.thread _ 0 _ _ _ rfl (.loopTest _)) rfl)
    ).tail (orderly_of_not_testRunning (.thread _ 0 _ _ _ rfl (.clearRunning _)) rfl)
    ).tail (orderly_of_not_testRunning (.thread _ 0 _ _ _ rfl (.clearThread _)) rfl)
    ).tail (orderly_of_not_testRunning (.thread _ 0 _ _ _ rfl (.releaseExit _)) rfl)
    ).tail (orderly_of_not_testRunning (.stopTake _ true rfl (by decide)) rfl)
    ).tail (orderly_of_not_testRunning (.detach _ rfl) rfl)

/-- A thread that waits for frames is started, stopped and left behind by a disable. -/
theorem rxHandshake_disabled : Handshake disabling ∧ Handshake disabled :=
  ⟨rxHandshake_of_reachable 16 orderly_disabling, rxHandshake_of_reachable 16 orderly_disabled⟩

/-- The thread sees the stop request, clears both flags and is preempted before it
releases `rxExitSem`: the stop returns at once. -/
theorem rxHandshake_lastWindow :
    ∃ s, Reachable (Step 16) start s ∧ s.control = .idle ∧ s.canModule.rxStop = true ∧
      s.threads = [.releaseExit] ∧ ¬ Handshake s := by
  have hstarted : Reachable (Step 16) start started :=
    Relation.ReflTransGen.mono (fun _ _ h => h.1) _ _ orderly_started
  refine ⟨_, (((((((((hstarted
    ).tail (.thread _ 0 _ _ _ rfl (.readDev _))
    ).tail (.thread _ 0 _ _ _ rfl (.setRunning _))
    ).tail (.stopCalled _ false rfl rfl)
    ).tail (.stopSetFlag _ false rfl)
    ).tail (.thread _ 0 _ _ _ rfl (.loopTest _))
    ).tail (.thread _ 0 _ _ _ rfl (.clearRunning _))
    ).tail (.thread _ 0 _ _ _ rfl (.clearThread _))
    ).tail (.stopUnbind _ false rfl)
    ).tail (.stopTestThread _ false rfl) |>.tail (.stopTestRunning _ false rfl), rfl, rfl, rfl, ?_⟩
  intro hhandshake
  have hfinished := hhandshake.stopped (.inl rfl) rfl .releaseExit List.mem_cons_self
  contradiction

end RxSystem

end CanopenRtt.Driver
