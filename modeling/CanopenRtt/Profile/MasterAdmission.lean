import CanopenRtt.Support.Threads
/-!
# Admission to the profile master

`admissionEnter`, `admissionLeave`, `admissionClose` and `admissionDrain` of
`profile/common/port/rtthread/CO_profile_master_RTT.c` with the runtime init and
deinit around them. Callers and the runtime run in any interleaving of their
atomic operations.
-/

namespace CanopenRtt.Profile

open Support

/-- `CO_PROFILE_MASTER_RTT_ADMISSION_CLOSED_BIAS`. -/
def admissionClosedBias : Int := -0x40000000

/-- A caller of `submitAndWait` with respect to the counter. `checked` has seen
`ipcInitialized`, `rejected` has still to undo its increment, `tokenDue` has left
and is about to release a drain token. `counted` marks the callers that the
snapshot of a teardown includes. -/
inductive Caller where
  | outside
  | checked
  | rejected
  | admitted (counted : Bool)
  | tokenDue (counted : Bool)
  deriving DecidableEq

namespace Caller

def isRejected : Caller → Bool
  | .rejected => true
  | _ => false

def isAdmitted : Caller → Bool
  | .admitted _ => true
  | _ => false

def isDue : Caller → Bool
  | .tokenDue _ => true
  | _ => false

/-- A teardown takes its snapshot. -/
def count : Caller → Caller
  | .admitted _ => .admitted true
  | caller => caller

/-- The mark of a caller is right: only a teardown counts, and only counted callers
owe a token. -/
def Marked (draining : Bool) : Caller → Prop
  | .admitted counted => counted = draining
  | .tokenDue counted => counted = true
  | _ => True

end Caller

/-- Where `onRuntimeInit` and `onRuntimeDeinit` stand. `draining` has taken the
snapshot and waits for `remaining` more tokens. -/
inductive RuntimePhase where
  | stopped
  | semReady
  | stored
  | running
  | draining (remaining : Int)
  | detached
  deriving DecidableEq

/-- The runtime reports `ipcInitialized`. -/
def RuntimePhase.ipcInitialized : RuntimePhase → Bool
  | .running | .draining _ | .detached => true
  | _ => false

def RuntimePhase.isDraining : RuntimePhase → Bool
  | .draining _ => true
  | _ => false

/-- The admission part of `CO_profile_master_RTT_t`. A counter of threads does not
get near the range of `rt_atomic_t`, so it is an integer here. -/
structure Admission where
  admissionState : Int
  drainTokens : Nat
  phase : RuntimePhase
  callers : List Caller
  deriving DecidableEq

namespace Admission

/-- After `CO_profileMasterRTT_attach`. -/
def attached : Admission where
  admissionState := 0
  drainTokens := 0
  phase := .stopped
  callers := []

/-- Callers now admitted. -/
def admittedCount (s : Admission) : Nat := s.callers.countP Caller.isAdmitted

/-- Tentative increments not yet undone. -/
def rejectedCount (s : Admission) : Nat := s.callers.countP Caller.isRejected

def dueCount (s : Admission) : Nat := s.callers.countP Caller.isDue

/-- One atomic step of a caller or of the runtime. -/
inductive Step : Admission → Admission → Prop where
  | arrive (s : Admission) : Step s { s with callers := s.callers ++ [.outside] }
  | check (s : Admission) (i : Nat) (houtside : s.callers[i]? = some .outside)
      (hinitialized : s.phase.ipcInitialized = true) :
      Step s { s with callers := s.callers.set i .checked }
  /-- `admissionEnter` finds a count that is not negative. -/
  | enter (s : Admission) (i : Nat) (hchecked : s.callers[i]? = some .checked)
      (hopen : 0 ≤ s.admissionState) :
      Step s { s with admissionState := s.admissionState + 1
                      callers := s.callers.set i (.admitted false) }
  /-- The first operation of a rejected `admissionEnter`, -/
  | enterClosed (s : Admission) (i : Nat) (hchecked : s.callers[i]? = some .checked)
      (hclosed : s.admissionState < 0) :
      Step s { s with admissionState := s.admissionState + 1
                      callers := s.callers.set i .rejected }
  /-- and its second one. -/
  | undo (s : Admission) (i : Nat) (hrejected : s.callers[i]? = some .rejected) :
      Step s { s with admissionState := s.admissionState - 1
                      callers := s.callers.set i .outside }
  | leave (s : Admission) (i : Nat) (counted : Bool)
      (hadmitted : s.callers[i]? = some (.admitted counted)) (hopen : 0 ≤ s.admissionState) :
      Step s { s with admissionState := s.admissionState - 1
                      callers := s.callers.set i .outside }
  | leaveClosed (s : Admission) (i : Nat) (counted : Bool)
      (hadmitted : s.callers[i]? = some (.admitted counted)) (hclosed : s.admissionState < 0) :
      Step s { s with admissionState := s.admissionState - 1
                      callers := s.callers.set i (.tokenDue counted) }
  | releaseToken (s : Admission) (i : Nat) (counted : Bool)
      (hdue : s.callers[i]? = some (.tokenDue counted)) :
      Step s { s with drainTokens := s.drainTokens + 1
                      callers := s.callers.set i .outside }
  /-- `onRuntimeInit` fails to create an IPC object. -/
  | initFails (s : Admission) (hstopped : s.phase = .stopped) : Step s s
  | semInit (s : Admission) (hstopped : s.phase = .stopped) :
      Step s { s with drainTokens := 0, phase := .semReady }
  | store (s : Admission) (hready : s.phase = .semReady) :
      Step s { s with admissionState := 0, phase := .stored }
  | publish (s : Admission) (hstored : s.phase = .stored) : Step s { s with phase := .running }
  /-- `admissionClose` of `onRuntimeDeinit`. -/
  | close (s : Admission) (hrunning : s.phase = .running) :
      Step s { s with admissionState := s.admissionState + admissionClosedBias
                      phase := .draining s.admissionState
                      callers := s.callers.map Caller.count }
  | drainTake (s : Admission) (remaining : Int) (hdraining : s.phase = .draining remaining)
      (hmore : 0 < remaining) (htoken : 0 < s.drainTokens) :
      Step s { s with drainTokens := s.drainTokens - 1, phase := .draining (remaining - 1) }
  | detach (s : Admission) (remaining : Int) (hdraining : s.phase = .draining remaining)
      (hdone : remaining ≤ 0) : Step s { s with phase := .detached }
  | clearInitialized (s : Admission) (hdetached : s.phase = .detached) :
      Step s { s with phase := .stopped }

/-- The counter counts, and every caller in a snapshot owes or has released the one
drain token that the teardown still waits for. -/
structure CountsCallers (s : Admission) : Prop where
  counter : s.phase = .running → s.admissionState = s.admittedCount + s.rejectedCount
  admits : s.phase = .running → 0 ≤ s.admissionState
  snapshot : ∀ remaining, s.phase = .draining remaining →
    remaining = s.admittedCount + s.dueCount + s.drainTokens
  /-- A counted caller finds the counter negative when it leaves. -/
  releases : .admitted true ∈ s.callers → s.admissionState < 0
  owed : ∀ counted, .tokenDue counted ∈ s.callers → counted = true
  drained : s.phase = .detached → s.admittedCount = 0 ∧ s.dueCount = 0 ∧ s.drainTokens = 0

/-- Fewer callers than the bias stands for are inside. -/
def Few (s : Admission) : Prop := s.admittedCount + s.rejectedCount < 0x40000000

/-- A step at which the store of a runtime init finds every tentative increment
undone. -/
def Undone (s t : Admission) : Prop :=
  t.phase = .stored → s.phase = .semReady → s.rejectedCount = 0

instance (s : Admission) : Decidable (Few s) := inferInstanceAs (Decidable (_ < _))

instance (s t : Admission) : Decidable (Undone s t) :=
  inferInstanceAs (Decidable (_ → _ → _ = _))

/-- No runtime has been initialised yet, and no caller has got past the check. -/
def Fresh (s : Admission) : Prop :=
  s.admissionState = 0 ∧ s.drainTokens = 0 ∧ (∀ caller ∈ s.callers, caller = .outside) ∧
    (s.phase = .stopped ∨ s.phase = .semReady)

/-- What the counter and the tokens add up to in each phase. -/
def Balanced (phase : RuntimePhase) (state : Int) (admitted rejected due tokens : Nat) : Prop :=
  match phase with
  | .stored | .running => state = admitted ∧ rejected = 0 ∧ due = 0 ∧ tokens = 0
  | .draining remaining =>
      state = admissionClosedBias + admitted + rejected ∧ remaining = admitted + due + tokens
  | .stopped | .semReady | .detached =>
      state = admissionClosedBias + rejected ∧ admitted = 0 ∧ due = 0 ∧ tokens = 0

structure Inv (s : Admission) : Prop where
  balance : s.Fresh ∨ Balanced s.phase s.admissionState s.admittedCount s.rejectedCount s.dueCount
    s.drainTokens
  marked : ∀ caller ∈ s.callers, caller.Marked s.phase.isDraining

theorem inv_attached : Inv attached where
  balance := .inl ⟨rfl, rfl, fun _ hmem => absurd hmem List.not_mem_nil, .inl rfl⟩
  marked _ hmem := absurd hmem List.not_mem_nil

/-! ## A step of a caller -/

theorem balanced_of_inside {s : Admission} {i : Nat} {caller : Caller} (h : Inv s)
    (hat : s.callers[i]? = some caller) (hinside : caller ≠ .outside) :
    Balanced s.phase s.admissionState s.admittedCount s.rejectedCount s.dueCount s.drainTokens := by
  rcases h.balance with ⟨-, -, houtside, -⟩ | hbalance
  · exact absurd (houtside caller (List.mem_of_getElem? hat)) hinside
  · exact hbalance

theorem balanced_set {s : Admission} {i : Nat} {before after : Caller} (state : Int) (tokens : Nat)
    (hat : s.callers[i]? = some before)
    (h : ∀ admitted rejected due : Nat,
      admitted + before.isAdmitted.toNat = s.admittedCount + after.isAdmitted.toNat →
      rejected + before.isRejected.toNat = s.rejectedCount + after.isRejected.toNat →
      due + before.isDue.toNat = s.dueCount + after.isDue.toNat →
      Balanced s.phase state admitted rejected due tokens) :
    Balanced s.phase state ((s.callers.set i after).countP Caller.isAdmitted)
      ((s.callers.set i after).countP Caller.isRejected)
      ((s.callers.set i after).countP Caller.isDue) tokens :=
  h _ _ _ (countP_set_add _ after hat) (countP_set_add _ after hat) (countP_set_add _ after hat)

/-- With few callers inside, only an open runtime has a counter that is not negative. -/
theorem open_of_nonneg {s : Admission} (hfew : Few s)
    (h : Balanced s.phase s.admissionState s.admittedCount s.rejectedCount s.dueCount s.drainTokens)
    (hnonneg : 0 ≤ s.admissionState) : s.phase = .stored ∨ s.phase = .running := by
  unfold Few at hfew
  unfold Balanced admissionClosedBias at h
  cases hphase : s.phase with
  | stored => exact .inl rfl
  | running => exact .inr rfl
  | _ =>
      rw [hphase] at h
      dsimp only at h
      omega

/-- An admitted caller that finds a negative counter is in a teardown. -/
theorem draining_of_neg {s : Admission}
    (h : Balanced s.phase s.admissionState s.admittedCount s.rejectedCount s.dueCount s.drainTokens)
    (hneg : s.admissionState < 0) (hadmitted : 0 < s.admittedCount) :
    ∃ remaining, s.phase = .draining remaining := by
  unfold Balanced at h
  cases hphase : s.phase with
  | draining remaining => exact ⟨remaining, rfl⟩
  | _ =>
      rw [hphase] at h
      dsimp only at h
      omega

theorem inv_arrive {s : Admission} (h : Inv s) :
    Inv { s with callers := s.callers ++ [.outside] } where
  balance := by
    rcases h.balance with ⟨hstate, htokens, houtside, hphase⟩ | hbalance
    · exact .inl ⟨hstate, htokens, forall_mem_concat houtside rfl, hphase⟩
    · right
      unfold admittedCount rejectedCount dueCount at hbalance ⊢
      simp only [countP_concat]
      exact hbalance
  marked := forall_mem_concat h.marked trivial

theorem inv_check {s : Admission} {i : Nat} (h : Inv s) (houtside : s.callers[i]? = some .outside)
    (hinitialized : s.phase.ipcInitialized = true) :
    Inv { s with callers := s.callers.set i .checked } := by
  refine ⟨.inr (balanced_set s.admissionState s.drainTokens houtside ?_),
    forall_mem_set h.marked trivial⟩
  intro admitted rejected due hadmitted hrejected hdue
  have hbalance : Balanced s.phase s.admissionState s.admittedCount s.rejectedCount s.dueCount
      s.drainTokens := by
    rcases h.balance with ⟨-, -, -, hstopped | hready⟩ | hbalance
    · rw [hstopped] at hinitialized
      contradiction
    · rw [hready] at hinitialized
      contradiction
    · exact hbalance
  have hsame : admitted = s.admittedCount ∧ rejected = s.rejectedCount ∧ due = s.dueCount :=
    ⟨hadmitted, hrejected, hdue⟩
  rwa [hsame.1, hsame.2.1, hsame.2.2]

theorem inv_enter {s : Admission} {i : Nat} (h : Inv s) (hfew : Few s)
    (hchecked : s.callers[i]? = some .checked) (hopen : 0 ≤ s.admissionState) :
    Inv { s with admissionState := s.admissionState + 1
                 callers := s.callers.set i (.admitted false) } := by
  have hbalance := balanced_of_inside h hchecked (by decide)
  rcases open_of_nonneg hfew hbalance hopen with hphase | hphase
  all_goals
    refine ⟨.inr (balanced_set (s.admissionState + 1) s.drainTokens hchecked ?_),
      forall_mem_set h.marked (by rw [hphase]; rfl)⟩
    intro admitted rejected due hadmitted hrejected hdue
    simp only [Caller.isAdmitted, Caller.isRejected, Caller.isDue, Bool.toNat_false,
      Bool.toNat_true] at hadmitted hrejected hdue
    rw [hphase] at hbalance ⊢
    unfold Balanced at hbalance ⊢
    omega

/-- The counter of a closed runtime takes a tentative increment and loses it again. -/
theorem inv_enterClosed {s : Admission} {i : Nat} (h : Inv s)
    (hchecked : s.callers[i]? = some .checked) (hclosed : s.admissionState < 0) :
    Inv { s with admissionState := s.admissionState + 1
                 callers := s.callers.set i .rejected } := by
  have hbalance := balanced_of_inside h hchecked (by decide)
  refine ⟨.inr (balanced_set (s.admissionState + 1) s.drainTokens hchecked ?_),
    forall_mem_set h.marked trivial⟩
  intro admitted rejected due hadmitted hrejected hdue
  simp only [Caller.isAdmitted, Caller.isRejected, Caller.isDue, Bool.toNat_false,
    Bool.toNat_true] at hadmitted hrejected hdue
  unfold Balanced at hbalance ⊢
  split at hbalance
  all_goals omega

theorem inv_undo {s : Admission} {i : Nat} (h : Inv s)
    (hrejected : s.callers[i]? = some .rejected) :
    Inv { s with admissionState := s.admissionState - 1
                 callers := s.callers.set i .outside } := by
  have hbalance := balanced_of_inside h hrejected (by decide)
  refine ⟨.inr (balanced_set (s.admissionState - 1) s.drainTokens hrejected ?_),
    forall_mem_set h.marked trivial⟩
  intro admitted rejected due hadmitted hcount hdue
  simp only [Caller.isAdmitted, Caller.isRejected, Caller.isDue, Bool.toNat_false,
    Bool.toNat_true] at hadmitted hcount hdue
  unfold Balanced at hbalance ⊢
  split at hbalance
  all_goals omega

theorem inv_leave {s : Admission} {i : Nat} {counted : Bool} (h : Inv s) (hfew : Few s)
    (hadmitted : s.callers[i]? = some (.admitted counted)) (hopen : 0 ≤ s.admissionState) :
    Inv { s with admissionState := s.admissionState - 1
                 callers := s.callers.set i .outside } := by
  have hbalance := balanced_of_inside h hadmitted (fun heq => by contradiction)
  rcases open_of_nonneg hfew hbalance hopen with hphase | hphase
  all_goals
    refine ⟨.inr (balanced_set (s.admissionState - 1) s.drainTokens hadmitted ?_),
      forall_mem_set h.marked trivial⟩
    intro admitted rejected due hcount hrejected hdue
    simp only [Caller.isAdmitted, Caller.isRejected, Caller.isDue, Bool.toNat_false,
      Bool.toNat_true] at hcount hrejected hdue
    rw [hphase] at hbalance ⊢
    unfold Balanced at hbalance ⊢
    omega

theorem inv_leaveClosed {s : Admission} {i : Nat} {counted : Bool} (h : Inv s)
    (hadmitted : s.callers[i]? = some (.admitted counted)) (hclosed : s.admissionState < 0) :
    Inv { s with admissionState := s.admissionState - 1
                 callers := s.callers.set i (.tokenDue counted) } := by
  have hbalance := balanced_of_inside h hadmitted (fun heq => by contradiction)
  have hpositive : 0 < s.admittedCount := countP_pos_of_getElem? hadmitted rfl
  obtain ⟨remaining, hdraining⟩ := draining_of_neg hbalance hclosed hpositive
  have hmarked : counted = s.phase.isDraining := h.marked _ (List.mem_of_getElem? hadmitted)
  rw [hdraining] at hmarked
  refine ⟨.inr (balanced_set (s.admissionState - 1) s.drainTokens hadmitted ?_),
    forall_mem_set h.marked hmarked⟩
  intro admitted rejected due hcount hrejected hdue
  simp only [Caller.isAdmitted, Caller.isRejected, Caller.isDue, Bool.toNat_false,
    Bool.toNat_true] at hcount hrejected hdue
  rw [hdraining] at hbalance ⊢
  unfold Balanced at hbalance ⊢
  omega

theorem inv_releaseToken {s : Admission} {i : Nat} {counted : Bool} (h : Inv s)
    (hdue : s.callers[i]? = some (.tokenDue counted)) :
    Inv { s with drainTokens := s.drainTokens + 1
                 callers := s.callers.set i .outside } := by
  have hbalance := balanced_of_inside h hdue (fun heq => by contradiction)
  have hpositive : 0 < s.dueCount := countP_pos_of_getElem? hdue rfl
  refine ⟨.inr (balanced_set s.admissionState (s.drainTokens + 1) hdue ?_),
    forall_mem_set h.marked trivial⟩
  intro admitted rejected due hadmitted hrejected hcount
  simp only [Caller.isAdmitted, Caller.isRejected, Caller.isDue, Bool.toNat_false,
    Bool.toNat_true] at hadmitted hrejected hcount
  unfold Balanced at hbalance ⊢
  split at hbalance
  all_goals omega

/-! ## A step of the runtime -/

theorem marked_of_isDraining_eq {s : Admission} (h : Inv s) (phase : RuntimePhase)
    (hsame : phase.isDraining = s.phase.isDraining) :
    ∀ caller ∈ s.callers, caller.Marked phase.isDraining := by
  rw [hsame]
  exact h.marked

theorem idle_of_not_initialized {s : Admission} (h : Inv s)
    (hphase : s.phase = .stopped ∨ s.phase = .semReady) :
    s.admittedCount = 0 ∧ s.dueCount = 0 ∧ s.drainTokens = 0 := by
  rcases h.balance with ⟨-, htokens, houtside, -⟩ | hbalance
  · have hnone (p : Caller → Bool) (hp : p .outside = false) : s.callers.countP p = 0 := by
      rw [List.countP_eq_zero]
      intro caller hmem
      rw [houtside caller hmem, hp]
      decide
    exact ⟨hnone _ rfl, hnone _ rfl, htokens⟩
  · unfold Balanced at hbalance
    rcases hphase with hphase | hphase
    all_goals
      rw [hphase] at hbalance
      exact hbalance.2

theorem inv_semInit {s : Admission} (h : Inv s) (hstopped : s.phase = .stopped) :
    Inv { s with drainTokens := 0, phase := .semReady } := by
  have hmarked := marked_of_isDraining_eq h .semReady (by rw [hstopped]; rfl)
  refine ⟨?_, hmarked⟩
  rcases h.balance with ⟨hstate, -, houtside, -⟩ | hbalance
  · exact .inl ⟨hstate, rfl, houtside, .inr rfl⟩
  · right
    rw [hstopped] at hbalance
    unfold Balanced at hbalance ⊢
    exact ⟨hbalance.1, hbalance.2.1, hbalance.2.2.1, rfl⟩

theorem inv_store {s : Admission} (h : Inv s) (hready : s.phase = .semReady)
    (hundone : s.rejectedCount = 0) : Inv { s with admissionState := 0, phase := .stored } := by
  have hmarked := marked_of_isDraining_eq h .stored (by rw [hready]; rfl)
  refine ⟨.inr ?_, hmarked⟩
  obtain ⟨hadmitted, hdue, htokens⟩ := idle_of_not_initialized h (.inr hready)
  have hzero : (0 : Int) = s.admittedCount := by omega
  exact ⟨hzero, hundone, hdue, htokens⟩

theorem balanced_of_phase {s : Admission} (h : Inv s) (hstopped : s.phase ≠ .stopped)
    (hready : s.phase ≠ .semReady) :
    Balanced s.phase s.admissionState s.admittedCount s.rejectedCount s.dueCount s.drainTokens := by
  rcases h.balance with ⟨-, -, -, hphase | hphase⟩ | hbalance
  · exact absurd hphase hstopped
  · exact absurd hphase hready
  · exact hbalance

theorem inv_publish {s : Admission} (h : Inv s) (hstored : s.phase = .stored) :
    Inv { s with phase := .running } := by
  have hbalance := balanced_of_phase h (by rw [hstored]; decide) (by rw [hstored]; decide)
  have hmarked := marked_of_isDraining_eq h .running (by rw [hstored]; rfl)
  refine ⟨.inr ?_, hmarked⟩
  rw [hstored] at hbalance
  exact hbalance

theorem countP_map_count {p : Caller → Bool} (h : ∀ caller, p caller.count = p caller)
    (callers : List Caller) : (callers.map Caller.count).countP p = callers.countP p := by
  rw [List.countP_map]
  exact congrArg (callers.countP ·) (funext h)

theorem inv_close {s : Admission} (h : Inv s) (hrunning : s.phase = .running) :
    Inv { s with admissionState := s.admissionState + admissionClosedBias
                 phase := .draining s.admissionState
                 callers := s.callers.map Caller.count } := by
  have hbalance := balanced_of_phase h (by rw [hrunning]; decide) (by rw [hrunning]; decide)
  rw [hrunning] at hbalance
  obtain ⟨hstate, hrejected, hdue, htokens⟩ := hbalance
  have hadmittedSame : (s.callers.map Caller.count).countP Caller.isAdmitted = s.admittedCount :=
    countP_map_count (fun caller => by cases caller <;> rfl) s.callers
  have hrejectedSame : (s.callers.map Caller.count).countP Caller.isRejected = s.rejectedCount :=
    countP_map_count (fun caller => by cases caller <;> rfl) s.callers
  have hdueSame : (s.callers.map Caller.count).countP Caller.isDue = s.dueCount :=
    countP_map_count (fun caller => by cases caller <;> rfl) s.callers
  refine ⟨.inr ?_, ?_⟩
  · unfold admittedCount rejectedCount dueCount
    rw [hadmittedSame, hrejectedSame, hdueSame]
    refine ⟨?_, ?_⟩
    · dsimp only
      omega
    · dsimp only
      omega
  · intro caller hmem
    obtain ⟨before, hbefore, rfl⟩ := List.mem_map.mp hmem
    have hmarked := h.marked before hbefore
    cases before with
    | admitted counted => rfl
    | tokenDue counted => exact hmarked
    | outside => trivial
    | checked => trivial
    | rejected => trivial

theorem inv_drainTake {s : Admission} {remaining : Int} (h : Inv s)
    (hdraining : s.phase = .draining remaining) (htoken : 0 < s.drainTokens) :
    Inv { s with drainTokens := s.drainTokens - 1, phase := .draining (remaining - 1) } := by
  have hbalance := balanced_of_phase h (by rw [hdraining]; exact fun heq => by contradiction)
    (by rw [hdraining]; exact fun heq => by contradiction)
  have hmarked := marked_of_isDraining_eq h (.draining (remaining - 1)) (by rw [hdraining]; rfl)
  refine ⟨.inr ?_, hmarked⟩
  rw [hdraining] at hbalance
  obtain ⟨hstate, hremaining⟩ := hbalance
  refine ⟨hstate, ?_⟩
  have htaken : (remaining - 1 : Int) =
      s.admittedCount + s.dueCount + (s.drainTokens - 1 : Nat) := by
    omega
  exact htaken

theorem inv_detach {s : Admission} {remaining : Int} (h : Inv s)
    (hdraining : s.phase = .draining remaining) (hdone : remaining ≤ 0) :
    Inv { s with phase := .detached } := by
  have hbalance := balanced_of_phase h (by rw [hdraining]; exact fun heq => by contradiction)
    (by rw [hdraining]; exact fun heq => by contradiction)
  rw [hdraining] at hbalance
  obtain ⟨hstate, hremaining⟩ := hbalance
  have hadmitted : s.admittedCount = 0 := by omega
  have hdue : s.dueCount = 0 := by omega
  refine ⟨.inr ?_, ?_⟩
  · have hclosed : s.admissionState = admissionClosedBias + s.rejectedCount := by omega
    exact ⟨hclosed, hadmitted, hdue, by dsimp only; omega⟩
  · intro caller hmem
    have hmarked := h.marked caller hmem
    cases caller with
    | admitted counted =>
        exact absurd (List.countP_pos_iff.mpr ⟨_, hmem, rfl⟩)
          (Nat.not_lt.mpr (Nat.le_of_eq hadmitted))
    | tokenDue counted => exact hmarked
    | outside => trivial
    | checked => trivial
    | rejected => trivial

theorem inv_clearInitialized {s : Admission} (h : Inv s) (hdetached : s.phase = .detached) :
    Inv { s with phase := .stopped } := by
  have hbalance := balanced_of_phase h (by rw [hdetached]; decide) (by rw [hdetached]; decide)
  have hmarked := marked_of_isDraining_eq h .stopped (by rw [hdetached]; rfl)
  refine ⟨.inr ?_, hmarked⟩
  rw [hdetached] at hbalance
  exact hbalance

/-! ## Every run -/

/-- A step between states with few callers inside that does not store over a
tentative increment. -/
def Orderly (s t : Admission) : Prop :=
  Step s t ∧ Few s ∧ Few t ∧ Undone s t

theorem inv_step {s t : Admission} (h : Inv s) (hstep : Orderly s t) : Inv t := by
  obtain ⟨hstep, hfew, -, hundone⟩ := hstep
  cases hstep with
  | arrive => exact inv_arrive h
  | check i houtside hinitialized => exact inv_check h houtside hinitialized
  | enter i hchecked hopen => exact inv_enter h hfew hchecked hopen
  | enterClosed i hchecked hclosed => exact inv_enterClosed h hchecked hclosed
  | undo i hrejected => exact inv_undo h hrejected
  | leave i counted hadmitted hopen => exact inv_leave h hfew hadmitted hopen
  | leaveClosed i counted hadmitted hclosed => exact inv_leaveClosed h hadmitted hclosed
  | releaseToken i counted hdue => exact inv_releaseToken h hdue
  | initFails hstopped => exact h
  | semInit hstopped => exact inv_semInit h hstopped
  | store hready => exact inv_store h hready (hundone rfl hready)
  | publish hstored => exact inv_publish h hstored
  | close hrunning => exact inv_close h hrunning
  | drainTake remaining hdraining hmore htoken => exact inv_drainTake h hdraining htoken
  | detach remaining hdraining hdone => exact inv_detach h hdraining hdone
  | clearInitialized hdetached => exact inv_clearInitialized h hdetached

theorem countsCallers_of_inv {s : Admission} (h : Inv s) (hfew : Few s) : CountsCallers s where
  counter hrunning := by
    have hbalance := balanced_of_phase h (by rw [hrunning]; decide) (by rw [hrunning]; decide)
    rw [hrunning] at hbalance
    obtain ⟨hstate, hrejected, -⟩ := hbalance
    omega
  admits hrunning := by
    have hbalance := balanced_of_phase h (by rw [hrunning]; decide) (by rw [hrunning]; decide)
    rw [hrunning] at hbalance
    have hstate := hbalance.1
    omega
  snapshot remaining hdraining := by
    have hbalance := balanced_of_phase h (by rw [hdraining]; exact fun heq => by contradiction)
      (by rw [hdraining]; exact fun heq => by contradiction)
    rw [hdraining] at hbalance
    exact hbalance.2
  releases hmem := by
    have hdraining : true = s.phase.isDraining := h.marked _ hmem
    obtain ⟨i, hat⟩ := List.getElem?_of_mem hmem
    have hbalance := balanced_of_inside h hat (fun heq => by contradiction)
    by_contra hnonneg
    rcases open_of_nonneg hfew hbalance (by omega) with hphase | hphase
    · rw [hphase] at hdraining
      contradiction
    · rw [hphase] at hdraining
      contradiction
  owed counted hmem := h.marked _ hmem
  drained hdetached := by
    have hbalance := balanced_of_phase h (by rw [hdetached]; decide) (by rw [hdetached]; decide)
    rw [hdetached] at hbalance
    exact hbalance.2

/-- Every interleaving of callers with any sequence of runtime inits and deinits in
which no store meets a tentative increment. -/
theorem admissionCounter_of_reachable {s : Admission} (h : Reachable Orderly attached s) :
    CountsCallers s := by
  have hinv : Inv s := h.invariant inv_attached inv_step
  have hfew : Few s := by
    rcases Relation.ReflTransGen.cases_tail h with heq | ⟨before, -, -, -, hfew, -⟩
    · rw [heq]
      decide
    · exact hfew
  exact countsCallers_of_inv hinv hfew

/-- One caller that has passed the check, in a runtime that has been closed. -/
def closedWithCaller : Admission where
  admissionState := admissionClosedBias
  drainTokens := 0
  phase := .draining 0
  callers := [.checked]

theorem orderly_closedWithCaller : Reachable Orderly attached closedWithCaller := by
  have h₁ : Orderly attached _ := ⟨.semInit attached rfl, by decide, by decide, by decide⟩
  have h₂ : Orderly { attached with phase := .semReady } _ :=
    ⟨.store _ rfl, by decide, by decide, fun _ _ => rfl⟩
  have h₃ : Orderly { attached with phase := .stored } _ :=
    ⟨.publish _ rfl, by decide, by decide, by decide⟩
  have h₄ : Orderly { attached with phase := .running } _ :=
    ⟨.arrive _, by decide, by decide, by decide⟩
  have h₅ : Orderly { attached with phase := .running, callers := [.outside] } _ :=
    ⟨.check _ 0 rfl rfl, by decide, by decide, by decide⟩
  have h₆ : Orderly { attached with phase := .running, callers := [.checked] } _ :=
    ⟨.close _ rfl, by decide, by decide, by decide⟩
  exact (((((Relation.ReflTransGen.single h₁).tail h₂).tail h₃).tail h₄).tail h₅).tail h₆

/-- A teardown waits for an admitted caller, and another caller is too late. -/
def drainingBoth : Admission where
  admissionState := admissionClosedBias + 2
  drainTokens := 0
  phase := .draining 1
  callers := [.admitted true, .rejected]

theorem orderly_drainingBoth : Reachable Orderly attached drainingBoth :=
  ((((((((((Relation.ReflTransGen.refl
    ).tail ⟨.semInit _ rfl, by decide, by decide, by decide⟩
    ).tail ⟨.store _ rfl, by decide, by decide, by decide⟩
    ).tail ⟨.publish _ rfl, by decide, by decide, by decide⟩
    ).tail ⟨.arrive _, by decide, by decide, by decide⟩
    ).tail ⟨.check _ 0 rfl rfl, by decide, by decide, by decide⟩
    ).tail ⟨.enter _ 0 rfl (by decide), by decide, by decide, by decide⟩
    ).tail ⟨.arrive _, by decide, by decide, by decide⟩
    ).tail ⟨.check _ 1 rfl rfl, by decide, by decide, by decide⟩
    ).tail ⟨.close _ rfl, by decide, by decide, by decide⟩
    ).tail ⟨.enterClosed _ 1 rfl (by decide), by decide, by decide, by decide⟩

/-- The runtime has been initialised again, and the rejected caller has come back. -/
def reopened : Admission where
  admissionState := 1
  drainTokens := 0
  phase := .running
  callers := [.outside, .admitted false]

theorem orderly_reopened : Reachable Orderly attached reopened :=
  (((((((((((orderly_drainingBoth
    ).tail ⟨.leaveClosed _ 0 true rfl (by decide), by decide, by decide, by decide⟩
    ).tail ⟨.releaseToken _ 0 true rfl, by decide, by decide, by decide⟩
    ).tail ⟨.drainTake _ 1 rfl (by decide) (by decide), by decide, by decide, by decide⟩
    ).tail ⟨.undo _ 1 rfl, by decide, by decide, by decide⟩
    ).tail ⟨.detach _ 0 rfl (by decide), by decide, by decide, by decide⟩
    ).tail ⟨.clearInitialized _ rfl, by decide, by decide, by decide⟩
    ).tail ⟨.semInit _ rfl, by decide, by decide, by decide⟩
    ).tail ⟨.store _ rfl, by decide, by decide, by decide⟩
    ).tail ⟨.publish _ rfl, by decide, by decide, by decide⟩
    ).tail ⟨.check _ 1 rfl rfl, by decide, by decide, by decide⟩
    ).tail ⟨.enter _ 1 rfl (by decide), by decide, by decide, by decide⟩

/-- The teardown with both callers, and the runtime after it. -/
theorem admissionCounter_reopened : CountsCallers drainingBoth ∧ CountsCallers reopened :=
  ⟨admissionCounter_of_reachable orderly_drainingBoth,
    admissionCounter_of_reachable orderly_reopened⟩

/-- The caller is rejected, the teardown ends, the next init stores 0, and the
increment is undone after that: the running runtime stands at -1. -/
theorem admissionCounter_lateUndo :
    ∃ s, Reachable Step attached s ∧ s.phase = .running ∧ s.admittedCount = 0 ∧
      s.rejectedCount = 0 ∧ s.admissionState = -1 ∧ ¬ CountsCallers s := by
  have hclosed : Reachable Step attached closedWithCaller :=
    Relation.ReflTransGen.mono (fun _ _ h => h.1) _ _ orderly_closedWithCaller
  have h₁ := Step.enterClosed closedWithCaller 0 rfl (by decide)
  have h₂ := Step.detach { closedWithCaller with admissionState := -0x3FFFFFFF
                                                 callers := [.rejected] } 0 rfl (by decide)
  have h₃ := Step.clearInitialized { closedWithCaller with admissionState := -0x3FFFFFFF
                                                           phase := .detached
                                                           callers := [.rejected] } rfl
  have h₄ := Step.semInit { closedWithCaller with admissionState := -0x3FFFFFFF
                                                  phase := .stopped
                                                  callers := [.rejected] } rfl
  have h₅ := Step.store { closedWithCaller with admissionState := -0x3FFFFFFF
                                                phase := .semReady
                                                callers := [.rejected] } rfl
  have h₆ := Step.publish { closedWithCaller with admissionState := 0
                                                  phase := .stored
                                                  callers := [.rejected] } rfl
  have h₇ := Step.undo { closedWithCaller with admissionState := 0
                                               phase := .running
                                               callers := [.rejected] } 0 rfl
  refine ⟨_, ((((((hclosed.tail h₁).tail h₂).tail h₃).tail h₄).tail h₅).tail h₆).tail h₇, rfl, rfl,
    rfl, rfl, ?_⟩
  intro hcounts
  exact absurd (hcounts.admits rfl) (by decide)

end Admission

end CanopenRtt.Profile
