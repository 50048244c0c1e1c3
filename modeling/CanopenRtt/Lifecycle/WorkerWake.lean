import CanopenRtt.Support.Threads
/-!
# Coalesced worker wake-ups

`CO_RTT_lifecycleRequestDeferredProcess` with the shared profile worker of
`port/rtthread/CO_lifecycle_RTT.c`, and `CO_401_device_RTT_requestProcess` with the
dedicated worker of `CO_401_device_RTT.c`. Requesters and worker run in any
interleaving of their atomic statements, from the initialised semaphore on.
-/

namespace CanopenRtt.Lifecycle

open Support

/-- The statements of a worker loop. -/
inductive WorkerStmt where
  | semTake
  | flagClear
  | mutexTake
  | passBegin
  | passEnd
  | mutexRelease
  deriving DecidableEq

/-- The loop body of `CO_RTT_lifecycleSharedWorkerEntry`; its pass calls the
`deferredProcess` of the slots. -/
def sharedWorkerEntry : List WorkerStmt :=
  [.semTake, .flagClear, .mutexTake, .passBegin, .passEnd, .mutexRelease]

/-- The loop body of `workerEntry`; its pass is `processPassLocked`. -/
def workerEntry : List WorkerStmt :=
  [.semTake, .flagClear, .mutexTake, .passBegin, .passEnd, .mutexRelease]

inductive Worker where
  | shared
  | dedicated
  deriving DecidableEq

def Worker.body : Worker → List WorkerStmt
  | .shared => sharedWorkerEntry
  | .dedicated => workerEntry

/-- A requester between its atomic operations. `asked` is the number of passes that
had begun at its test-and-set. -/
inductive Requester where
  | idle
  | called
  | tokenDue (asked : Nat)
  deriving DecidableEq

def Requester.isDue : Requester → Bool
  | .tokenDue _ => true
  | _ => false

inductive MutexOwner where
  | free
  | worker
  | other
  deriving DecidableEq

/-- The worker (`next` is the place of its next statement), its flag, its semaphore,
`lifecycleMutex` and the requesters. `accepted` lists the requests that have returned
`RT_EOK`, each by the passes that had begun when it was made. -/
structure WakeSystem where
  wakePending : Bool
  tokens : Nat
  mutex : MutexOwner
  next : Nat
  requesters : List Requester
  begun : Nat
  accepted : List Nat
  deriving DecidableEq

namespace WakeSystem

def start : WakeSystem where
  wakePending := false
  tokens := 0
  mutex := .free
  next := 0
  requesters := []
  begun := 0
  accepted := []

/-- The worker goes on to its next statement. -/
def advance (body : List WorkerStmt) (s : WakeSystem) : WakeSystem :=
  { s with next := (s.next + 1) % body.length }

/-- One atomic step of some thread. -/
inductive Step (body : List WorkerStmt) : WakeSystem → WakeSystem → Prop where
  | arrive (s : WakeSystem) :
      Step body s { s with requesters := s.requesters ++ [.idle] }
  | call (s : WakeSystem) (i : Nat) (hidle : s.requesters[i]? = some .idle) :
      Step body s { s with requesters := s.requesters.set i .called }
  /-- `rt_atomic_flag_test_and_set` finds the flag set: the request is coalesced. -/
  | coalesce (s : WakeSystem) (i : Nat) (hcalled : s.requesters[i]? = some .called)
      (hpending : s.wakePending = true) :
      Step body s { s with requesters := s.requesters.set i .idle
                           accepted := s.begun :: s.accepted }
  | setFlag (s : WakeSystem) (i : Nat) (hcalled : s.requesters[i]? = some .called)
      (hpending : s.wakePending = false) :
      Step body s { s with wakePending := true
                           requesters := s.requesters.set i (.tokenDue s.begun) }
  | semRelease (s : WakeSystem) (i asked : Nat)
      (hdue : s.requesters[i]? = some (.tokenDue asked)) :
      Step body s { s with tokens := s.tokens + 1
                           requesters := s.requesters.set i .idle
                           accepted := asked :: s.accepted }
  | semTake (s : WakeSystem) (hnext : body[s.next]? = some .semTake) (htoken : 0 < s.tokens) :
      Step body s (advance body { s with tokens := s.tokens - 1 })
  | flagClear (s : WakeSystem) (hnext : body[s.next]? = some .flagClear) :
      Step body s (advance body { s with wakePending := false })
  | mutexTake (s : WakeSystem) (hnext : body[s.next]? = some .mutexTake)
      (hfree : s.mutex = .free) :
      Step body s (advance body { s with mutex := .worker })
  | passBegin (s : WakeSystem) (hnext : body[s.next]? = some .passBegin) :
      Step body s (advance body { s with begun := s.begun + 1 })
  | passEnd (s : WakeSystem) (hnext : body[s.next]? = some .passEnd) :
      Step body s (advance body s)
  | mutexRelease (s : WakeSystem) (hnext : body[s.next]? = some .mutexRelease) :
      Step body s (advance body { s with mutex := .free })
  | otherTakes (s : WakeSystem) (hfree : s.mutex = .free) : Step body s { s with mutex := .other }
  | otherReleases (s : WakeSystem) (hother : s.mutex = .other) :
      Step body s { s with mutex := .free }

/-- The worker has taken a token and has not begun the pass for it. -/
def TokenTaken (body : List WorkerStmt) (s : WakeSystem) : Prop :=
  body[s.next]? ∈ [some .flagClear, some .mutexTake, some .passBegin]

/-- A requester has set the flag and is about to release the token. -/
def TokenDue (s : WakeSystem) : Prop :=
  ∃ asked, .tokenDue asked ∈ s.requesters

/-- A request made after `asked` passes is served, or will be. -/
def Served (body : List WorkerStmt) (s : WakeSystem) (asked : Nat) : Prop :=
  asked < s.begun ∨ 0 < s.tokens ∨ s.TokenDue ∨ s.TokenTaken body

/-- The requests made so far that have not cleared the flag yet. -/
def onTheWay (s : WakeSystem) : Nat :=
  s.tokens + s.requesters.countP Requester.isDue + if s.next = 1 then 1 else 0

/-- The flag is set exactly while one token is on its way to the worker, and every
accepted request that no pass has served yet keeps it set or has its pass coming. -/
structure Inv (s : WakeSystem) : Prop where
  token : s.onTheWay = s.wakePending.toNat
  served : ∀ asked ∈ s.accepted, s.begun ≤ asked →
    s.wakePending = true ∨ s.next = 2 ∨ s.next = 3
  accepted_le : ∀ asked ∈ s.accepted, asked ≤ s.begun
  due_le : ∀ requester ∈ s.requesters, ∀ asked, requester = .tokenDue asked → asked ≤ s.begun

theorem inv_start : Inv start where
  token := rfl
  served _ hmem := absurd hmem List.not_mem_nil
  accepted_le _ hmem := absurd hmem List.not_mem_nil
  due_le _ hmem := absurd hmem List.not_mem_nil

/-- Both workers run the same statements, so a statement tells its place. -/
theorem place_of_next {worker : Worker} {k : Nat} {stmt : WorkerStmt}
    (h : worker.body[k]? = some stmt) :
    (stmt, k) ∈ [(.semTake, 0), (.flagClear, 1), (.mutexTake, 2), (.passBegin, 3), (.passEnd, 4),
      (WorkerStmt.mutexRelease, 5)] := by
  have hbody : worker.body = sharedWorkerEntry := by cases worker <;> rfl
  rw [hbody] at h
  match k with
  | 0 | 1 | 2 | 3 | 4 | 5 =>
      have hstmt := Option.some.inj h
      subst hstmt
      decide
  | k + 6 => simp [sharedWorkerEntry] at h

theorem next_advance {worker : Worker} {s : WakeSystem} {k : Nat} (h : s.next = k) :
    (advance worker.body s).next = (k + 1) % 6 := by
  have hlength : worker.body.length = 6 := by cases worker <;> rfl
  rw [advance, hlength, h]

theorem onTheWay_advance {worker : Worker} {s : WakeSystem} {k : Nat} (h : s.next = k) :
    (advance worker.body s).onTheWay =
      s.tokens + s.requesters.countP Requester.isDue + if (k + 1) % 6 = 1 then 1 else 0 := by
  unfold onTheWay
  rw [next_advance h]
  rfl

/-- A requester that is not due before and after its step moves no token. -/
theorem countP_isDue_set {pool : List Requester} {i : Nat} {before after : Requester}
    (h : pool[i]? = some before) (hbefore : before.isDue = false) (hafter : after.isDue = false) :
    (pool.set i after).countP Requester.isDue = pool.countP Requester.isDue :=
  countP_set_of_eq Requester.isDue h (hafter.trans hbefore.symm)

theorem pending_of_onTheWay {s : WakeSystem} (h : Inv s) (hsome : 0 < s.onTheWay) :
    s.wakePending = true := by
  have htoken := h.token
  cases hpending : s.wakePending with
  | true => rfl
  | false =>
      rw [hpending, Bool.toNat_false] at htoken
      omega

/-! ## A step of a requester -/

theorem inv_arrive {s : WakeSystem} (h : Inv s) :
    Inv { s with requesters := s.requesters ++ [.idle] } where
  token := by
    rw [← h.token]
    unfold onTheWay
    rw [countP_concat]
    rfl
  served := h.served
  accepted_le := h.accepted_le
  due_le := forall_mem_concat h.due_le fun _ hdue => by contradiction

theorem inv_call {s : WakeSystem} {i : Nat} (h : Inv s) (hidle : s.requesters[i]? = some .idle) :
    Inv { s with requesters := s.requesters.set i .called } where
  token := by
    rw [← h.token]
    unfold onTheWay
    rw [countP_isDue_set hidle rfl rfl]
  served := h.served
  accepted_le := h.accepted_le
  due_le := forall_mem_set h.due_le fun _ hdue => by contradiction

theorem inv_coalesce {s : WakeSystem} {i : Nat} (h : Inv s)
    (hcalled : s.requesters[i]? = some .called) (hpending : s.wakePending = true) :
    Inv { s with requesters := s.requesters.set i .idle, accepted := s.begun :: s.accepted } where
  token := by
    rw [← h.token]
    unfold onTheWay
    rw [countP_isDue_set hcalled rfl rfl]
  served _ _ _ := .inl hpending
  accepted_le := List.forall_mem_cons.mpr ⟨Nat.le_refl s.begun, h.accepted_le⟩
  due_le := forall_mem_set h.due_le fun _ hdue => by contradiction

theorem inv_setFlag {s : WakeSystem} {i : Nat} (h : Inv s)
    (hcalled : s.requesters[i]? = some .called) (hpending : s.wakePending = false) :
    Inv { s with wakePending := true
                 requesters := s.requesters.set i (.tokenDue s.begun) } where
  token := by
    have hbefore := h.token
    have hcount := countP_set_add Requester.isDue (.tokenDue s.begun) hcalled
    simp only [Requester.isDue, Bool.toNat_false, Bool.toNat_true] at hcount
    rw [hpending, Bool.toNat_false] at hbefore
    unfold onTheWay at hbefore ⊢
    dsimp only
    rw [Bool.toNat_true]
    omega
  served _ _ _ := .inl rfl
  accepted_le := h.accepted_le
  due_le := forall_mem_set h.due_le fun asked hdue => by
    injection hdue with hasked
    exact hasked ▸ Nat.le_refl s.begun

theorem inv_semRelease {s : WakeSystem} {i asked : Nat} (h : Inv s)
    (hdue : s.requesters[i]? = some (.tokenDue asked)) :
    Inv { s with tokens := s.tokens + 1
                 requesters := s.requesters.set i .idle
                 accepted := asked :: s.accepted } := by
  have hpositive := countP_pos_of_getElem? hdue
    (show Requester.isDue (.tokenDue asked) = true from rfl)
  have hpending : s.wakePending = true := by
    refine pending_of_onTheWay h ?_
    unfold onTheWay
    omega
  refine ⟨?_, fun _ _ _ => .inl hpending, ?_, ?_⟩
  · have hbefore := h.token
    have hcount := countP_set_add Requester.isDue .idle hdue
    simp only [Requester.isDue, Bool.toNat_false, Bool.toNat_true] at hcount
    rw [← hbefore]
    unfold onTheWay
    dsimp only
    omega
  · have hasked := h.due_le _ (List.mem_of_getElem? hdue) asked rfl
    exact List.forall_mem_cons.mpr ⟨hasked, h.accepted_le⟩
  · exact forall_mem_set h.due_le fun _ hidle => by contradiction

/-! ## A step of the worker -/

theorem inv_semTake {worker : Worker} {s : WakeSystem} (h : Inv s)
    (hnext : worker.body[s.next]? = some .semTake) (htoken : 0 < s.tokens) :
    Inv (advance worker.body { s with tokens := s.tokens - 1 }) := by
  have hplace : s.next = 0 := by simpa using place_of_next hnext
  have hpending : s.wakePending = true := by
    refine pending_of_onTheWay h ?_
    unfold onTheWay
    omega
  refine ⟨?_, fun _ _ _ => .inl hpending, h.accepted_le, h.due_le⟩
  have hbefore := h.token
  unfold onTheWay at hbefore
  rw [hplace] at hbefore
  calc
    (advance worker.body { s with tokens := s.tokens - 1 }).onTheWay
        = s.tokens - 1 + s.requesters.countP Requester.isDue + 1 :=
      @onTheWay_advance worker { s with tokens := s.tokens - 1 } 0 hplace
    _ = s.tokens + s.requesters.countP Requester.isDue + 0 := by omega
    _ = s.wakePending.toNat := hbefore

theorem inv_flagClear {worker : Worker} {s : WakeSystem} (h : Inv s)
    (hnext : worker.body[s.next]? = some .flagClear) :
    Inv (advance worker.body { s with wakePending := false }) := by
  have hplace : s.next = 1 := by simpa using place_of_next hnext
  refine ⟨?_, ?_, h.accepted_le, h.due_le⟩
  · have hbefore := h.token
    have hle : s.wakePending.toNat ≤ 1 := Bool.toNat_le s.wakePending
    unfold onTheWay at hbefore
    rw [hplace, if_pos rfl] at hbefore
    calc
      (advance worker.body { s with wakePending := false }).onTheWay
          = s.tokens + s.requesters.countP Requester.isDue + 0 :=
        @onTheWay_advance worker { s with wakePending := false } 1 hplace
      _ = 0 := by omega
  · intro _ _ _
    exact .inr (.inl (@next_advance worker { s with wakePending := false } 1 hplace))

/-- A statement between two places that are not the one before the clear. -/
theorem token_advance {worker : Worker} {s : WakeSystem} {k : Nat} (h : Inv s)
    (hplace : s.next = k) (hlow : 2 ≤ k) (hhigh : k ≤ 5) {t : WakeSystem}
    (htokens : t.tokens = s.tokens) (hrequesters : t.requesters = s.requesters)
    (hpending : t.wakePending = s.wakePending) (hnext : t.next = s.next) :
    (advance worker.body t).onTheWay = (advance worker.body t).wakePending.toNat := by
  have hbefore := h.token
  unfold onTheWay at hbefore
  rw [if_neg (by omega)] at hbefore
  calc
    (advance worker.body t).onTheWay
        = t.tokens + t.requesters.countP Requester.isDue + 0 := by
      rw [onTheWay_advance (hnext.trans hplace), if_neg (by omega)]
    _ = t.wakePending.toNat := by
      rw [htokens, hrequesters, hpending]
      exact hbefore

theorem inv_mutexTake {worker : Worker} {s : WakeSystem} (h : Inv s)
    (hnext : worker.body[s.next]? = some .mutexTake) :
    Inv (advance worker.body { s with mutex := .worker }) := by
  have hplace : s.next = 2 := by simpa using place_of_next hnext
  refine ⟨token_advance h hplace (by omega) (by omega) rfl rfl rfl rfl, ?_, h.accepted_le, h.due_le⟩
  intro _ _ _
  exact .inr (.inr (@next_advance worker { s with mutex := .worker } 2 hplace))

theorem inv_passBegin {worker : Worker} {s : WakeSystem} (h : Inv s)
    (hnext : worker.body[s.next]? = some .passBegin) :
    Inv (advance worker.body { s with begun := s.begun + 1 }) := by
  have hplace : s.next = 3 := by simpa using place_of_next hnext
  refine ⟨token_advance h hplace (by omega) (by omega) rfl rfl rfl rfl, ?_, ?_, ?_⟩
  · -- The new pass began after every request made so far.
    intro asked hmem (hle : s.begun + 1 ≤ asked)
    have hmade := h.accepted_le asked hmem
    omega
  · intro asked hmem
    exact Nat.le_succ_of_le (h.accepted_le asked hmem)
  · intro requester hmem asked hdue
    exact Nat.le_succ_of_le (h.due_le requester hmem asked hdue)

/-- After the pass has begun, unserved requests have set the flag again. -/
theorem inv_afterPass {worker : Worker} {s t : WakeSystem} (h : Inv s)
    (hplace : s.next = 4 ∨ s.next = 5) (ht : t = { s with mutex := t.mutex }) :
    Inv (advance worker.body t) := by
  have htokens : t.tokens = s.tokens := by rw [ht]
  have hrequesters : t.requesters = s.requesters := by rw [ht]
  have hpending : t.wakePending = s.wakePending := by rw [ht]
  have hnext : t.next = s.next := by rw [ht]
  have hbegun : t.begun = s.begun := by rw [ht]
  have haccepted : t.accepted = s.accepted := by rw [ht]
  refine ⟨?_, ?_, ?_, ?_⟩
  · exact token_advance h rfl (by omega) (by omega) htokens hrequesters hpending hnext
  · intro asked hmem hle
    have hmemBefore : asked ∈ s.accepted := haccepted ▸ hmem
    have hleBefore : s.begun ≤ asked := hbegun ▸ hle
    rcases h.served asked hmemBefore hleBefore with hset | htwo | hthree
    · exact .inl (hpending.trans hset)
    · omega
    · omega
  · intro asked hmem
    have hmemBefore : asked ∈ s.accepted := haccepted ▸ hmem
    have hle := h.accepted_le asked hmemBefore
    exact hbegun.symm ▸ hle
  · intro requester hmem asked hdue
    have hmemBefore : requester ∈ s.requesters := hrequesters ▸ hmem
    have hle := h.due_le requester hmemBefore asked hdue
    exact hbegun.symm ▸ hle

theorem inv_step {worker : Worker} {s t : WakeSystem} (h : Inv s) (hstep : Step worker.body s t) :
    Inv t := by
  cases hstep with
  | arrive => exact inv_arrive h
  | call i hidle => exact inv_call h hidle
  | coalesce i hcalled hpending => exact inv_coalesce h hcalled hpending
  | setFlag i hcalled hpending => exact inv_setFlag h hcalled hpending
  | semRelease i asked hdue => exact inv_semRelease h hdue
  | semTake hnext htoken => exact inv_semTake h hnext htoken
  | flagClear hnext => exact inv_flagClear h hnext
  | mutexTake hnext hfree => exact inv_mutexTake h hnext
  | passBegin hnext => exact inv_passBegin h hnext
  | passEnd hnext =>
      have hplace : s.next = 4 := by simpa using place_of_next hnext
      exact inv_afterPass h (.inl hplace) rfl
  | mutexRelease hnext =>
      have hplace : s.next = 5 := by simpa using place_of_next hnext
      exact inv_afterPass h (.inr hplace) rfl
  | otherTakes hfree => exact ⟨h.token, h.served, h.accepted_le, h.due_le⟩
  | otherReleases hother => exact ⟨h.token, h.served, h.accepted_le, h.due_le⟩

/-! ## No request is lost -/

theorem tokens_le_one {s : WakeSystem} (h : Inv s) : s.tokens ≤ 1 := by
  have htoken := h.token
  have hle : s.wakePending.toNat ≤ 1 := Bool.toNat_le s.wakePending
  unfold onTheWay at htoken
  omega

theorem tokenDue_of_countP {s : WakeSystem} (h : 0 < s.requesters.countP Requester.isDue) :
    s.TokenDue := by
  obtain ⟨requester, hmem, hdue⟩ := List.countP_pos_iff.mp h
  cases requester with
  | tokenDue asked => exact ⟨asked, hmem⟩
  | idle => contradiction
  | called => contradiction

theorem tokenTaken_of_next {worker : Worker} {s : WakeSystem}
    (h : s.next = 1 ∨ s.next = 2 ∨ s.next = 3) : s.TokenTaken worker.body := by
  have hbody : worker.body = sharedWorkerEntry := by cases worker <;> rfl
  unfold TokenTaken
  rw [hbody]
  rcases h with hone | htwo | hthree
  · rw [hone]
    decide
  · rw [htwo]
    decide
  · rw [hthree]
    decide

theorem served_of_inv {worker : Worker} {s : WakeSystem} (h : Inv s) {asked : Nat}
    (hmem : asked ∈ s.accepted) : s.Served worker.body asked := by
  by_cases hbegun : asked < s.begun
  · exact .inl hbegun
  rcases h.served asked hmem (by omega) with hpending | htwo | hthree
  · have htoken := h.token
    rw [hpending, Bool.toNat_true] at htoken
    unfold onTheWay at htoken
    by_cases hone : s.next = 1
    · exact .inr (.inr (.inr (tokenTaken_of_next (.inl hone))))
    rw [if_neg hone] at htoken
    by_cases htokens : 0 < s.tokens
    · exact .inr (.inl htokens)
    · exact .inr (.inr (.inl (tokenDue_of_countP (by omega))))
  · exact .inr (.inr (.inr (tokenTaken_of_next (.inr (.inl htwo)))))
  · exact .inr (.inr (.inr (tokenTaken_of_next (.inr (.inr hthree)))))

/-- Both workers, any number of requesters and any interleaving: one token at most,
and every accepted request is served or has a pass coming. -/
theorem workerWake_of_reachable (worker : Worker) {s : WakeSystem}
    (h : Reachable (Step worker.body) start s) :
    s.tokens ≤ 1 ∧ ∀ asked ∈ s.accepted, s.Served worker.body asked := by
  have hinv : Inv s := h.invariant inv_start inv_step
  exact ⟨tokens_le_one hinv, fun _ hmem => served_of_inv hinv hmem⟩

/-- The worker is in the pass for two requests, one of them coalesced; a third one has a token. -/
def thirdRequest : WakeSystem where
  wakePending := true
  tokens := 1
  mutex := .worker
  next := 4
  requesters := [.idle, .idle]
  begun := 1
  accepted := [1, 0, 0]

theorem reachable_thirdRequest : Reachable (Step workerEntry) start thirdRequest :=
  ((((((((((((((((Relation.ReflTransGen.refl
    ).tail (.arrive _)
    ).tail (.arrive _)
    ).tail (.call _ 0 rfl)
    ).tail (.call _ 1 rfl)
    ).tail (.setFlag _ 0 rfl rfl)
    ).tail (.semRelease _ 0 0 rfl)
    ).tail (.semTake _ rfl (by decide))
    ).tail (.coalesce _ 1 rfl rfl)
    ).tail (.flagClear _ rfl)
    ).tail (.otherTakes _ rfl)
    ).tail (.otherReleases _ rfl)
    ).tail (.mutexTake _ rfl rfl)
    ).tail (.passBegin _ rfl)
    ).tail (.call _ 0 rfl)
    ).tail (.setFlag _ 0 rfl rfl)
    ).tail (.semRelease _ 0 1 rfl)

theorem workerWake_thirdRequest :
    thirdRequest.tokens ≤ 1 ∧
      ∀ asked ∈ thirdRequest.accepted, thirdRequest.Served workerEntry asked :=
  workerWake_of_reachable .dedicated reachable_thirdRequest

end WakeSystem

end CanopenRtt.Lifecycle
