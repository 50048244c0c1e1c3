import CanopenRtt.Lifecycle.GenerationStages
import CanopenRtt.Lifecycle.Ownership
/-!
# The order in which slots are bound

Slots are bound in registration order and quiesced in reverse. So at any moment, also between two
callbacks of one operation, the slots in front of a bound one are bound.
-/

namespace CanopenRtt.Lifecycle

open CanopenRtt.Support Host

/-- Whether a slot is bound after one more callback. -/
def Call.binds (key : Key) (bound : Bool) : Call → Bool
  | communicationBind slot ret => if slot = key then ret = .ok else bound
  | communicationQuiesced slot => if slot = key then false else bound
  | _ => bound

/-- Whether a slot is bound after some more callbacks. -/
def boundAfter (key : Key) (bound : Bool) (calls : List Call) : Bool :=
  run (Call.binds key) bound calls

theorem binds_bind (key slot : Key) (ret : RtErr) (bound : Bool) :
    (Call.communicationBind slot ret).binds key bound =
      if slot = key then decide (ret = .ok) else bound := rfl

theorem binds_quiesced (key slot : Key) (bound : Bool) :
    (Call.communicationQuiesced slot).binds key bound = if slot = key then false else bound := rfl

theorem boundAfter_concat (key : Key) (bound : Bool) (calls : List Call) (call : Call) :
    boundAfter key bound (calls ++ [call]) = call.binds key (boundAfter key bound calls) :=
  run_concat ..

theorem boundAfter_append (key : Key) (bound : Bool) (calls more : List Call) :
    boundAfter key bound (calls ++ more) = boundAfter key (boundAfter key bound calls) more :=
  run_append ..

theorem boundAfter_of_runtime (key : Key) (bound : Bool) {calls : List Call}
    (h : ∀ call ∈ calls, call.isRuntime = true) : boundAfter key bound calls = bound := by
  induction calls with
  | nil => rfl
  | cons call calls ih =>
      rw [List.forall_mem_cons] at h
      have hcall : call.binds key bound = bound := by
        cases call with
        | communicationBind _ _ => exact absurd h.1 (by simp [Call.isRuntime])
        | communicationQuiesced _ => exact absurd h.1 (by simp [Call.isRuntime])
        | _ => rfl
      rw [boundAfter, run_cons, hcall]
      exact ih h.2

theorem boundAfter_of_binds (key : Key) {bound : Bool} {calls : List Call}
    (h : ∀ call ∈ calls, ∃ slot, call = .communicationBind slot .ok) :
    boundAfter key bound calls = true ↔ bound = true ∨ .communicationBind key .ok ∈ calls := by
  induction calls generalizing bound with
  | nil => simp [boundAfter]
  | cons call calls ih =>
      rw [List.forall_mem_cons] at h
      obtain ⟨slot, rfl⟩ := h.1
      rw [boundAfter, run_cons]
      refine (ih h.2).trans ?_
      rw [List.mem_cons, Call.communicationBind.injEq, and_iff_left rfl, Call.binds]
      by_cases hkey : slot = key
      · rw [if_pos hkey]
        simp [hkey]
      · rw [if_neg hkey]
        simp [Ne.symm hkey]

theorem boundAfter_of_quiesces (key : Key) {bound : Bool} {calls : List Call}
    (h : ∀ call ∈ calls, ∃ slot, call = .communicationQuiesced slot) :
    boundAfter key bound calls = true ↔ bound = true ∧ .communicationQuiesced key ∉ calls := by
  induction calls generalizing bound with
  | nil => simp [boundAfter]
  | cons call calls ih =>
      rw [List.forall_mem_cons] at h
      obtain ⟨slot, rfl⟩ := h.1
      rw [boundAfter, run_cons]
      refine (ih h.2).trans ?_
      rw [List.mem_cons, Call.communicationQuiesced.injEq, Call.binds]
      by_cases hkey : slot = key
      · rw [if_pos hkey]
        simp [hkey]
      · rw [if_neg hkey]
        simp [Ne.symm hkey]

theorem bind_mem_of_boundAfter {key : Key} {calls : List Call}
    (h : boundAfter key false calls = true) : .communicationBind key .ok ∈ calls := by
  induction calls using List.reverseRecOn with
  | nil => cases h
  | append_singleton calls call ih =>
      rw [boundAfter_concat] at h
      rw [List.mem_append, List.mem_singleton]
      cases call with
      | communicationBind slot ret =>
          rw [binds_bind] at h
          by_cases hkey : slot = key
          · rw [if_pos hkey, decide_eq_true_iff] at h
            exact .inr (by rw [hkey, h])
          · rw [if_neg hkey] at h
            exact .inl (ih h)
      | communicationQuiesced slot =>
          rw [binds_quiesced] at h
          by_cases hkey : slot = key
          · rw [if_pos hkey] at h
            cases h
          · rw [if_neg hkey] at h
            exact .inl (ih h)
      | _ => exact .inl (ih h)

/-! ## The callbacks of one operation -/

/-- A callback that has nothing to do with a binding and does not end a slot. -/
def Call.isStartup : Call → Bool
  | attach _ | runtimeInit _ _ | runtimeStart _ _ | release _ => true
  | _ => false

/-- The bind callbacks among the calls are logged with their answers. -/
def Answers (answers : Key → RtErr) (calls : List Call) : Prop :=
  ∀ key ret, .communicationBind key ret ∈ calls → ret = answers key

theorem answers_append {answers : Key → RtErr} {calls more : List Call} (h : Answers answers calls)
    (h' : Answers answers more) : Answers answers (calls ++ more) := by
  intro key ret hmem
  rcases List.mem_append.mp hmem with hold | hnew
  · exact h key ret hold
  · exact h' key ret hnew

/-- The callbacks of an operation on some slots that are all bound or all free, and which of the
two they are then; only a bind has answers. -/
inductive Callbacks (setup : Setup) (slots : List Slot) (bound : Bool) :
    Option (Key → RtErr) → List Call → Bool → Prop where
  | startup (calls : List Call) (h : ∀ call ∈ calls, call.isStartup = true)
      {answers : Option (Key → RtErr)} : Callbacks setup slots bound answers calls bound
  | deinit (hbound : bound = false) (calls : List Call)
      (h : ∀ call ∈ calls, call.isRuntime = true) {answers : Option (Key → RtErr)} :
      Callbacks setup slots bound answers calls false
  | bound (hbound : bound = false) {answers : Key → RtErr}
      (h : Answers answers (slots.flatMap (Slot.bindCalls setup))) :
      Callbacks setup slots bound (some answers) (slots.flatMap (Slot.bindCalls setup)) true
  | failed (hbound : bound = false) (done rest : List Slot) (failing : Slot) (ret : RtErr)
      (hsplit : slots = done ++ failing :: rest) (hret : ret ≠ .ok) {answers : Key → RtErr}
      (h : Answers answers (done.flatMap (Slot.bindCalls setup) ++
        ([.communicationBind failing.key ret] ++
          done.reverse.flatMap (Slot.quiesceCalls setup)))) :
      Callbacks setup slots bound (some answers) (done.flatMap (Slot.bindCalls setup) ++
        ([.communicationBind failing.key ret] ++
          done.reverse.flatMap (Slot.quiesceCalls setup))) false
  | quiesced {answers : Option (Key → RtErr)} :
      Callbacks setup slots bound answers
        (slots.reverse.flatMap fun slot => if bound then slot.quiesceCalls setup else []) false

theorem Call.isRuntime_of_isStartup {call : Call} (h : call.isStartup = true) :
    call.isRuntime = true := by
  cases call <;> first | rfl | cases h

theorem mem_bindCalls {setup : Setup} {slots : List Slot} {call : Call}
    (h : call ∈ slots.flatMap (Slot.bindCalls setup)) :
    ∃ slot ∈ slots, setup.has slot .communicationBind = true ∧
      call = .communicationBind slot.key .ok := by
  obtain ⟨slot, hslot, hcall⟩ := List.mem_flatMap.mp h
  unfold Slot.bindCalls at hcall
  split at hcall
  · next hhas => exact ⟨slot, hslot, hhas, List.mem_singleton.mp hcall⟩
  · cases hcall

theorem mem_quiesceCalls {setup : Setup} {slots : List Slot} {call : Call}
    (h : call ∈ slots.flatMap (Slot.quiesceCalls setup)) :
    ∃ slot ∈ slots, setup.has slot .communicationQuiesced = true ∧
      call = .communicationQuiesced slot.key := by
  obtain ⟨slot, hslot, hcall⟩ := List.mem_flatMap.mp h
  unfold Slot.quiesceCalls at hcall
  split at hcall
  · next hhas => exact ⟨slot, hslot, hhas, List.mem_singleton.mp hcall⟩
  · cases hcall

/-- A prefix that goes beyond an item has the whole report of the item. -/
theorem mem_of_prefix_flatMap {α β : Type*} {report : α → List β} {front back : List α} {item : α}
    {part : List β} (h : part <+: (front ++ item :: back).flatMap report) {b : β} (hb : b ∈ part)
    (hbeyond : ∀ a ∈ front ++ [item], b ∉ report a) {c : β} (hc : c ∈ report item) : c ∈ part := by
  have hsplit : (front ++ item :: back).flatMap report =
      (front ++ [item]).flatMap report ++ back.flatMap report := by
    rw [← List.flatMap_append, List.append_assoc, List.singleton_append]
  rw [hsplit] at h
  rcases List.prefix_or_prefix_of_prefix h (List.prefix_append _ _) with hshort | hlong
  · obtain ⟨a, ha, hba⟩ := List.mem_flatMap.mp (hshort.subset hb)
    exact absurd hba (hbeyond a ha)
  · apply hlong.subset
    exact List.mem_flatMap.mpr ⟨item, List.mem_append_right _ (List.mem_singleton_self _), hc⟩

section

variable {setup : Setup} {slots front back : List Slot} {slot later : Slot}

/-- A prefix of the binds that has come to a later slot has passed an earlier one. -/
theorem bind_before (hnodup : ((front ++ slot :: back).map Slot.key).Nodup)
    (hbind : setup.has slot .communicationBind = true) (hlater : later ∈ back) {part : List Call}
    (h : part <+: (front ++ slot :: back).flatMap (Slot.bindCalls setup))
    (hmem : .communicationBind later.key .ok ∈ part) : .communicationBind slot.key .ok ∈ part := by
  apply mem_of_prefix_flatMap h hmem
  · intro other hother hcall
    unfold Slot.bindCalls at hcall
    split at hcall
    · rw [List.mem_singleton, Call.communicationBind.injEq, and_iff_left rfl] at hcall
      rw [show front ++ slot :: back = (front ++ [slot]) ++ back by simp, List.map_append,
        List.nodup_append] at hnodup
      exact hnodup.2.2 _ (List.mem_map_of_mem hother) _ (List.mem_map_of_mem hlater) hcall.symm
    · cases hcall
  · unfold Slot.bindCalls
    rw [if_pos hbind]
    exact List.mem_singleton_self _

/-- A prefix of the quiesces that has come to an earlier slot has passed a later one. -/
theorem quiesce_before (hnodup : ((front ++ slot :: back).map Slot.key).Nodup)
    (hquiesce : setup.has later .communicationQuiesced = true) (hlater : later ∈ back)
    {part : List Call}
    (h : part <+: (front ++ slot :: back).reverse.flatMap (Slot.quiesceCalls setup))
    (hmem : .communicationQuiesced slot.key ∈ part) :
    .communicationQuiesced later.key ∈ part := by
  obtain ⟨mid, rest, rfl⟩ := List.append_of_mem hlater
  have hreverse : (front ++ slot :: (mid ++ later :: rest)).reverse =
      rest.reverse ++ later :: (mid.reverse ++ slot :: front.reverse) := by simp
  rw [hreverse] at h
  apply mem_of_prefix_flatMap h hmem
  · intro other hother hcall
    unfold Slot.quiesceCalls at hcall
    split at hcall
    · rw [List.mem_singleton, Call.communicationQuiesced.injEq] at hcall
      have hbehind : other ∈ mid ++ later :: rest := by
        rcases List.mem_append.mp hother with hrest | hself
        · simp [List.mem_reverse.mp hrest]
        · simp [List.mem_singleton.mp hself]
      rw [List.map_append, List.map_cons, List.nodup_append, List.nodup_cons] at hnodup
      apply hnodup.2.1.1
      rw [hcall]
      exact List.mem_map_of_mem hbehind
    · cases hcall
  · unfold Slot.quiesceCalls
    rw [if_pos hquiesce]
    exact List.mem_singleton_self _

theorem split_of_mem {done rest : List Slot} {failing : Slot}
    (hsplit : done ++ failing :: rest = front ++ slot :: back)
    (hnodup : ((front ++ slot :: back).map Slot.key).Nodup) (hlater : later ∈ back)
    (hmem : later ∈ done) : ∃ mid, done = front ++ slot :: mid ∧ later ∈ mid := by
  rcases List.append_eq_append_iff.mp hsplit with ⟨more, hfront, -⟩ | ⟨more, hdone, hrest⟩
  · rw [List.map_append, List.nodup_append] at hnodup
    have hin : later ∈ front := hfront ▸ List.mem_append_left more hmem
    exact absurd rfl (hnodup.2.2 _ (List.mem_map_of_mem hin) _
      (List.mem_map_of_mem (List.mem_cons_of_mem _ hlater)))
  · cases more with
    | nil =>
        rw [List.append_nil] at hdone
        rw [List.map_append, List.nodup_append] at hnodup
        exact absurd rfl (hnodup.2.2 _ (List.mem_map_of_mem (hdone ▸ hmem)) _
          (List.mem_map_of_mem (List.mem_cons_of_mem _ hlater)))
    | cons head mid =>
        rw [List.cons_append, List.cons.injEq] at hrest
        obtain ⟨rfl, hback⟩ := hrest
        refine ⟨mid, hdone, ?_⟩
        rw [hdone, List.mem_append, List.mem_cons] at hmem
        rw [List.map_append, List.map_cons, List.nodup_append, List.nodup_cons] at hnodup
        rcases hmem with hin | rfl | hin
        · exact absurd rfl (hnodup.2.2 _ (List.mem_map_of_mem hin) _
            (List.mem_cons_of_mem _ (List.mem_map_of_mem hlater)))
        · exact absurd (List.mem_map_of_mem hlater) hnodup.2.1.1
        · exact hin

/-- A slot whose binding can be seen. -/
def Setup.Seen (setup : Setup) (slot : Slot) : Prop :=
  setup.has slot .communicationBind = true ∧ setup.has slot .communicationQuiesced = true

theorem boundAfter_bindCalls (hbind : setup.has slot .communicationBind = true) (bound : Bool) :
    boundAfter slot.key bound (slots.flatMap (Slot.bindCalls setup)) = true ↔
      bound = true ∨ slot.key ∈ slots.map Slot.key := by
  rw [boundAfter_of_binds _ fun call hcall => ?_]
  · apply or_congr_right
    constructor
    · intro hmem
      obtain ⟨other, hother, -, hcall⟩ := mem_bindCalls hmem
      rw [Call.communicationBind.injEq, and_iff_left rfl] at hcall
      exact hcall ▸ List.mem_map_of_mem hother
    · intro hmem
      obtain ⟨other, hother, hkey⟩ := List.mem_map.mp hmem
      refine List.mem_flatMap.mpr ⟨other, hother, ?_⟩
      unfold Slot.bindCalls
      rw [Observed.has_of_key hkey, if_pos hbind, hkey]
      exact List.mem_singleton_self _
  · obtain ⟨other, -, -, hsame⟩ := mem_bindCalls hcall
    exact ⟨other.key, hsame⟩

theorem boundAfter_quiesceCalls (hquiesce : setup.has slot .communicationQuiesced = true)
    (bound : Bool) :
    boundAfter slot.key bound (slots.flatMap (Slot.quiesceCalls setup)) = true ↔
      bound = true ∧ slot.key ∉ slots.map Slot.key := by
  rw [boundAfter_of_quiesces _ fun call hcall => ?_]
  · apply and_congr_right
    intro _
    apply not_congr
    constructor
    · intro hmem
      obtain ⟨other, hother, -, hcall⟩ := mem_quiesceCalls hmem
      rw [Call.communicationQuiesced.injEq] at hcall
      exact hcall ▸ List.mem_map_of_mem hother
    · intro hmem
      obtain ⟨other, hother, hkey⟩ := List.mem_map.mp hmem
      refine List.mem_flatMap.mpr ⟨other, hother, ?_⟩
      unfold Slot.quiesceCalls
      rw [Observed.has_of_key hkey, if_pos hquiesce, hkey]
      exact List.mem_singleton_self _
  · obtain ⟨other, -, -, hsame⟩ := mem_quiesceCalls hcall
    exact ⟨other.key, hsame⟩

theorem nested_binds (hnodup : ((front ++ slot :: back).map Slot.key).Nodup)
    (hbind : setup.has slot .communicationBind = true) (hlater : later ∈ back) {part : List Call}
    (h : part <+: (front ++ slot :: back).flatMap (Slot.bindCalls setup))
    (hbound : boundAfter later.key false part = true) : boundAfter slot.key false part = true := by
  have hcalls : ∀ call ∈ part, ∃ key, call = Call.communicationBind key .ok := by
    intro call hcall
    obtain ⟨other, -, -, hsame⟩ := mem_bindCalls (h.subset hcall)
    exact ⟨other.key, hsame⟩
  rw [boundAfter_of_binds _ hcalls] at hbound ⊢
  exact .inr (bind_before hnodup hbind hlater h (hbound.resolve_left Bool.false_ne_true))

theorem nested_quiesces (hnodup : ((front ++ slot :: back).map Slot.key).Nodup)
    (hquiesce : setup.has later .communicationQuiesced = true) (hlater : later ∈ back)
    {part : List Call}
    (h : part <+: (front ++ slot :: back).reverse.flatMap (Slot.quiesceCalls setup))
    (hbound : boundAfter later.key true part = true) : boundAfter slot.key true part = true := by
  have hcalls : ∀ call ∈ part, ∃ key, call = Call.communicationQuiesced key := by
    intro call hcall
    obtain ⟨other, -, -, hsame⟩ := mem_quiesceCalls (h.subset hcall)
    exact ⟨other.key, hsame⟩
  rw [boundAfter_of_quiesces _ hcalls] at hbound ⊢
  exact ⟨rfl, fun hmem => hbound.2 (quiesce_before hnodup hquiesce hlater h hmem)⟩

theorem nested_failed {done rest : List Slot} {failing : Slot} {ret : RtErr} (hret : ret ≠ .ok)
    (hsplit : front ++ slot :: back = done ++ failing :: rest)
    (hnodup : ((front ++ slot :: back).map Slot.key).Nodup) (hslot : setup.Seen slot)
    (hseen : setup.Seen later) (hlater : later ∈ back) {part : List Call}
    (h : part <+: done.flatMap (Slot.bindCalls setup) ++
      ([.communicationBind failing.key ret] ++ done.reverse.flatMap (Slot.quiesceCalls setup)))
    (hbound : boundAfter later.key false part = true) : boundAfter slot.key false part = true := by
  have hdone : (done.map Slot.key).Nodup ∧ failing.key ∉ done.map Slot.key := by
    rw [hsplit, List.map_append, List.map_cons, List.nodup_append] at hnodup
    exact ⟨hnodup.1, fun hmem => hnodup.2.2 _ hmem _ List.mem_cons_self rfl⟩
  -- The later slot is among those that were bound, and so is the earlier one.
  have hin : later.key ∈ done.map Slot.key := by
    by_contra hout
    have hnever : .communicationBind later.key .ok ∉ part := by
      intro hmem
      rcases List.mem_append.mp (h.subset hmem) with hbinds | hbehind
      · obtain ⟨other, hother, -, hcall⟩ := mem_bindCalls hbinds
        rw [Call.communicationBind.injEq, and_iff_left rfl] at hcall
        exact hout (hcall ▸ List.mem_map_of_mem hother)
      · rcases List.mem_append.mp hbehind with hfailed | hquiesces
        · rw [List.mem_singleton, Call.communicationBind.injEq] at hfailed
          exact hret hfailed.2.symm
        · obtain ⟨other, -, -, hcall⟩ := mem_quiesceCalls hquiesces
          cases hcall
    exact hnever (bind_mem_of_boundAfter hbound)
  obtain ⟨same, hsame, hkey⟩ := List.mem_map.mp hin
  have hself : same = later := by
    apply List.inj_on_of_nodup_map hnodup _
      (List.mem_append_right _ (List.mem_cons_of_mem _ hlater))
      hkey
    rw [hsplit]
    exact List.mem_append_left _ hsame
  obtain ⟨mid, rfl, hmid⟩ := split_of_mem hsplit.symm hnodup hlater (hself ▸ hsame)
  rcases List.prefix_or_prefix_of_prefix h (List.prefix_append _ _) with hshort | hlong
  · exact nested_binds hdone.1 hslot.1 hmid hshort hbound
  · obtain ⟨more, rfl⟩ := hlong
    rw [List.prefix_append_right_inj] at h
    have hall (other : Slot) (hother : other ∈ front ++ slot :: mid) (hbind : setup.Seen other) :
        boundAfter other.key false ((front ++ slot :: mid).flatMap (Slot.bindCalls setup)) = true :=
      (boundAfter_bindCalls hbind.1 false).mpr (.inr (List.mem_map_of_mem hother))
    rw [boundAfter_append, hall _ (by simp [hmid]) hseen] at hbound
    rw [boundAfter_append, hall _ (by simp) hslot]
    cases more with
    | nil => rfl
    | cons call more =>
        rw [List.singleton_append, List.cons_prefix_cons] at h
        obtain ⟨rfl, hmore⟩ := h
        have hskip (other : Slot) (hother : other ∈ front ++ slot :: mid) :
            Call.binds other.key true (.communicationBind failing.key ret) = true := by
          have hne : failing.key ≠ other.key := by
            intro heq
            rw [heq] at hdone
            exact hdone.2 (List.mem_map_of_mem hother)
          rw [binds_bind, if_neg hne]
        rw [boundAfter, run_cons, hskip _ (by simp [hmid])] at hbound
        rw [boundAfter, run_cons, hskip _ (by simp)]
        exact nested_quiesces hdone.1 hseen.2 hmid hmore hbound

/-- At any moment of an operation, a slot in front of a bound one is bound. -/
theorem Callbacks.nested {bound after : Bool} {answers : Option (Key → RtErr)}
    {calls part : List Call} (h : Callbacks setup (front ++ slot :: back) bound answers calls after)
    (hnodup : ((front ++ slot :: back).map Slot.key).Nodup) (hslot : setup.Seen slot)
    (hseen : setup.Seen later) (hlater : later ∈ back) (hpart : part <+: calls)
    (hbound : boundAfter later.key bound part = true) : boundAfter slot.key bound part = true := by
  cases h with
  | startup calls hstartup =>
      have hruntime : ∀ call ∈ part, call.isRuntime = true :=
        fun call hcall => Call.isRuntime_of_isStartup (hstartup call (hpart.subset hcall))
      rw [boundAfter_of_runtime _ _ hruntime] at hbound ⊢
      exact hbound
  | deinit hfree calls hruntime =>
      have hpart : ∀ call ∈ part, call.isRuntime = true :=
        fun call hcall => hruntime call (hpart.subset hcall)
      rw [boundAfter_of_runtime _ _ hpart] at hbound ⊢
      exact hbound
  | bound hfree hanswers =>
      subst hfree
      exact nested_binds hnodup hslot.1 hlater hpart hbound
  | failed hfree done rest failing ret hsplit hret hanswers =>
      subst hfree
      exact nested_failed hret hsplit hnodup hslot hseen hlater hpart hbound
  | quiesced =>
      cases bound with
      | false =>
          have hnone : part = [] := by
            apply List.eq_nil_iff_forall_not_mem.mpr
            intro call hcall
            obtain ⟨other, -, hcall⟩ := List.mem_flatMap.mp (hpart.subset hcall)
            cases hcall
          rw [hnone] at hbound
          cases hbound
      | true => exact nested_quiesces hnodup hseen.2 hlater hpart hbound

theorem Callbacks.outcome {bound after : Bool} {answers : Option (Key → RtErr)} {calls : List Call}
    (h : Callbacks setup slots bound answers calls after) (hslot : setup.Seen slot)
    (hmem : slot.key ∈ slots.map Slot.key) :
    boundAfter slot.key bound calls = after := by
  cases h with
  | startup calls hstartup =>
      exact boundAfter_of_runtime _ _ fun call hcall =>
        Call.isRuntime_of_isStartup (hstartup call hcall)
  | deinit hfree calls hruntime =>
      rw [boundAfter_of_runtime _ _ hruntime]
      exact hfree
  | bound hfree hanswers => exact (boundAfter_bindCalls hslot.1 bound).mpr (.inr hmem)
  | failed hfree done rest failing ret hsplit hret hanswers =>
      subst hfree
      rw [← Bool.not_eq_true, boundAfter_append, boundAfter_append]
      intro hlast
      obtain ⟨hkept, hout⟩ := (boundAfter_quiesceCalls hslot.2 _).mp hlast
      rw [List.map_reverse, List.mem_reverse] at hout
      have hnever : boundAfter slot.key false (done.flatMap (Slot.bindCalls setup)) = false := by
        rw [← Bool.not_eq_true, boundAfter_bindCalls hslot.1]
        exact fun hdone => hout (hdone.resolve_left Bool.false_ne_true)
      rw [hnever, boundAfter, run_cons, run_nil, binds_bind] at hkept
      by_cases hkey : failing.key = slot.key
      · rw [if_pos hkey, decide_eq_true_iff] at hkept
        exact hret hkept
      · rw [if_neg hkey] at hkept
        cases hkept
  | quiesced =>
      cases bound with
      | false =>
          apply boundAfter_of_runtime
          intro call hcall
          obtain ⟨other, -, hcall⟩ := List.mem_flatMap.mp hcall
          cases hcall
      | true =>
          rw [← Bool.not_eq_true]
          intro hlast
          obtain ⟨-, hout⟩ := (boundAfter_quiesceCalls hslot.2 true).mp hlast
          rw [List.map_reverse, List.mem_reverse] at hout
          exact hout hmem

/-- The answer to a bind callback of an operation. -/
theorem Callbacks.answer {bound after : Bool} {answers : Option (Key → RtErr)} {calls : List Call}
    (h : Callbacks setup slots bound answers calls after) {key : Key} {ret : RtErr}
    (hmem : .communicationBind key ret ∈ calls) :
    ∃ given, answers = some given ∧ ret = given key := by
  cases h with
  | startup calls hstartup => cases hstartup _ hmem
  | deinit hfree calls hruntime => cases hruntime _ hmem
  | bound hfree hanswers => exact ⟨_, rfl, hanswers key ret hmem⟩
  | failed hfree done rest failing ret' hsplit hret hanswers =>
      exact ⟨_, rfl, hanswers key ret hmem⟩
  | quiesced =>
      obtain ⟨slot, -, hcall⟩ := List.mem_flatMap.mp hmem
      split at hcall
      · unfold Slot.quiesceCalls at hcall
        split at hcall <;> simp at hcall
      · cases hcall

theorem Callbacks.deinit_free {bound after : Bool} {answers : Option (Key → RtErr)}
    {calls part : List Call} (h : Callbacks setup slots bound answers calls after) {key : Key}
    (hpart : part ++ [.runtimeDeinit key] <+: calls) :
    bound = false ∧ ∀ call ∈ part, call.isRuntime = true := by
  have hmem : .runtimeDeinit key ∈ calls := hpart.subset (by simp)
  have hbinds (some : List Slot) : .runtimeDeinit key ∉ some.flatMap (Slot.bindCalls setup) := by
    intro hcall
    obtain ⟨_, -, -, hcall⟩ := mem_bindCalls hcall
    cases hcall
  have hquiesces (some : List Slot) :
      .runtimeDeinit key ∉ some.flatMap (Slot.quiesceCalls setup) := by
    intro hcall
    obtain ⟨_, -, -, hcall⟩ := mem_quiesceCalls hcall
    cases hcall
  cases h with
  | startup calls hstartup => cases hstartup _ hmem
  | deinit hfree calls hruntime =>
      exact ⟨hfree, fun call hcall => hruntime call (hpart.subset (by simp [hcall]))⟩
  | bound hfree hanswers => exact absurd hmem (hbinds slots)
  | failed hfree done rest failing ret hsplit hret hanswers =>
      rcases List.mem_append.mp hmem with hcall | hcall
      · exact absurd hcall (hbinds done)
      · rcases List.mem_append.mp hcall with hcall | hcall
        · simp at hcall
        · exact absurd hcall (hquiesces done.reverse)
  | quiesced =>
      cases bound with
      | false =>
          obtain ⟨_, -, hcall⟩ := List.mem_flatMap.mp hmem
          cases hcall
      | true => exact absurd hmem (hquiesces slots.reverse)

end

/-! ## What the operations call -/

namespace Host

variable {setup : Setup} {host : Host}

theorem Quiet.keys {after : Host} (h : host.Quiet after) :
    after.registered.map Slot.key = host.registered.map Slot.key := by
  unfold registered cells
  rw [h.count, List.map_map, List.map_map]
  exact List.map_congr_left fun i _ => h.key i

theorem bindSlot_answers (answers : Key → RtErr) (i : Nat) :
    ∃ calls, (bindSlot setup answers host i).1.log = host.log ++ calls ∧
      Answers answers calls := by
  have hcall : Answers answers (if setup.has (host.slot i) .communicationBind then
      [.communicationBind (host.slot i).key (setup.answer answers .communicationBind (host.slot i))]
      else []) := by
    intro key ret hmem
    split at hmem
    · next hhas =>
        rw [List.mem_singleton, Call.communicationBind.injEq] at hmem
        rw [hmem.1, hmem.2]
        exact if_pos hhas
    · cases hmem
  unfold bindSlot
  dsimp only
  split
  · exact ⟨[], (List.append_nil _).symm, by simp [Answers]⟩
  split
  · rw [(quiesceSlots ..).2.1, emitIf_log, List.append_assoc]
    refine ⟨_, rfl, answers_append hcall ?_⟩
    intro key ret hmem
    obtain ⟨slot, -, hmem⟩ := List.mem_flatMap.mp hmem
    split at hmem
    · unfold Slot.quiesceCalls at hmem
      split at hmem <;> simp at hmem
    · cases hmem
  · rw [setSlot_log, emitIf_log]
    exact ⟨_, rfl, hcall⟩

theorem bindCommunication_answers (present : Bool) (answers : Key → RtErr) :
    ∃ calls, (host.bindCommunication setup present answers).1.log = host.log ++ calls ∧
      Answers answers calls := by
  unfold bindCommunication
  split
  · exact ⟨[], (List.append_nil _).symm, by simp [Answers]⟩
  refine @runWhile_invariant _ _ _ _ RtErr.ok (bindSlot setup answers)
    (fun after => ∃ calls, after.log = host.log ++ calls ∧ Answers answers calls) _
    (fun after i _ h => ?_) host ⟨[], (List.append_nil _).symm, by simp [Answers]⟩
  obtain ⟨calls, hlog, hanswers⟩ := h
  obtain ⟨more, hmore, hlast⟩ := @bindSlot_answers setup after answers i
  exact ⟨calls ++ more, by rw [hmore, hlog, List.append_assoc], answers_append hanswers hlast⟩

theorem runtimeInit_startup (answers : Key → RtErr) (worker : RtErr) :
    ∃ calls, (host.runtimeInit setup answers worker).1.log = host.log ++ calls ∧
      ∀ call ∈ calls, call.isStartup = true := by
  have hloop : ∃ calls, (runWhile .ok (runtimeInitSlot setup answers) host
      (List.range host.app.count)).1.log = host.log ++ calls ∧
        ∀ call ∈ calls, call.isStartup = true := by
    refine @runWhile_invariant _ _ _ _ RtErr.ok (runtimeInitSlot setup answers)
      (fun after => ∃ calls, after.log = host.log ++ calls ∧ ∀ call ∈ calls, call.isStartup = true)
      _ (fun after i _ h => ?_) host ⟨[], (List.append_nil _).symm, by simp⟩
    obtain ⟨calls, hlog, hstartup⟩ := h
    have hmore : ∃ more, (runtimeInitSlot setup answers after i).1.log = after.log ++ more ∧
        ∀ call ∈ more, call.isStartup = true := by
      unfold runtimeInitSlot
      dsimp only
      have hcalls : ∀ {ret : RtErr} {called : Bool}, ∀ call ∈ (if called then
          [Call.runtimeInit (after.slot i).key ret] else []), call.isStartup = true := by
        intro ret called call hcall
        split at hcall
        · rw [List.mem_singleton.mp hcall]
          rfl
        · cases hcall
      split
      · exact ⟨_, emitIf_log .., hcalls⟩
      · exact ⟨_, (setSlot_log ..).trans (emitIf_log ..), hcalls⟩
    obtain ⟨more, hafter, hlast⟩ := hmore
    refine ⟨calls ++ more, by rw [hafter, hlog, List.append_assoc], fun call hcall => ?_⟩
    rcases List.mem_append.mp hcall with hold | hnew
    · exact hstartup call hold
    · exact hlast call hnew
  unfold runtimeInit
  dsimp only
  split <;> exact hloop

theorem runtimeStart_startup (answers : Key → RtErr) (worker : RtErr) :
    ∃ calls, (host.runtimeStart setup answers worker).1.log = host.log ++ calls ∧
      ∀ call ∈ calls, call.isStartup = true := by
  have hloop : ∃ calls, (runWhile .ok (runtimeStartSlot setup answers) host
      (List.range host.app.count)).1.log = host.log ++ calls ∧
        ∀ call ∈ calls, call.isStartup = true := by
    refine @runWhile_invariant _ _ _ _ RtErr.ok (runtimeStartSlot setup answers)
      (fun after => ∃ calls, after.log = host.log ++ calls ∧ ∀ call ∈ calls, call.isStartup = true)
      _ (fun after i _ h => ?_) host ⟨[], (List.append_nil _).symm, by simp⟩
    obtain ⟨calls, hlog, hstartup⟩ := h
    unfold runtimeStartSlot
    dsimp only
    split
    · refine ⟨calls ++ [_], by rw [emit, hlog, List.append_assoc], fun call hcall => ?_⟩
      rcases List.mem_append.mp hcall with hold | hnew
      · exact hstartup call hold
      · rw [List.mem_singleton.mp hnew]
        rfl
    · exact ⟨calls, hlog, hstartup⟩
  unfold runtimeStart
  dsimp only
  split <;> exact hloop

end Host

namespace Observed

variable {setup : Setup} {observed : Observed}

theorem newCalls_of_log {before after : Host} {calls : List Call}
    (h : after.log = before.log ++ calls) : newCalls before after = calls := by
  rw [newCalls, h, List.drop_left]

theorem callbacks_of_startup {after : Host} {slots : List Slot} {bound : Bool}
    {answers : Option (Key → RtErr)}
    (h : ∃ calls, after.log = observed.host.log ++ calls ∧
      ∀ call ∈ calls, call.isStartup = true) :
    Callbacks setup slots bound answers (newCalls observed.host after) bound := by
  obtain ⟨calls, hlog, hstartup⟩ := h
  rw [newCalls_of_log hlog]
  exact .startup calls hstartup

theorem callbacks_of_bind (h : observed.Agrees setup) (present : Bool) (answers : Key → RtErr) :
    Callbacks setup observed.host.registered observed.bound (some answers)
        (newCalls observed.host (observed.host.bindCommunication setup present answers).1)
        (observed.bound || (observed.host.bindCommunication setup present answers).2 = .ok) ∧
      (observed.host.bindCommunication setup present answers).1.registered.map Slot.key =
        observed.host.registered.map Slot.key := by
  have hrefused {ret : RtErr} (hret : ret ≠ .ok) :
      Callbacks setup observed.host.registered observed.bound (some answers)
        (newCalls observed.host observed.host) (observed.bound || decide (ret = .ok)) := by
    rw [decide_eq_false hret, Bool.or_false]
    exact callbacks_of_startup ⟨[], (List.append_nil _).symm, by simp⟩
  cases present with
  | false => exact ⟨hrefused (show RtErr.inval ≠ .ok by decide), rfl⟩
  | true =>
      by_cases hfree : ∀ slot ∈ observed.host.registered, slot.communicationBound = false
      · obtain ⟨hresult, -, -⟩ := @bindCommunication_free setup answers observed.host hfree
        obtain ⟨calls, hcalls, hanswers⟩ :=
          @bindCommunication_answers setup observed.host true answers
        rw [← newCalls_of_log hcalls] at hanswers
        generalize observed.host.bindCommunication setup true answers = result
          at hresult hanswers
        cases hresult with
        | bound after hslots hlog =>
            refine ⟨?_, by dsimp only; rw [hslots, List.map_map]; rfl⟩
            rw [newCalls_of_log hlog] at hanswers ⊢
            rw [decide_eq_true rfl, Bool.or_true]
            cases hbound : observed.bound with
            | false => exact .bound rfl hanswers
            | true =>
                have hempty : observed.host.registered = [] := by
                  apply List.eq_nil_iff_forall_not_mem.mpr
                  intro slot hslot
                  have htrue := (h.bound hbound).2 slot hslot
                  rw [hfree slot hslot] at htrue
                  cases htrue
                rw [hempty]
                exact .startup [] (by simp)
        | failed after done rest failing ret hsplit hret hslots hlog =>
            constructor
            · rw [List.append_assoc, List.append_assoc] at hlog
              rw [newCalls_of_log hlog] at hanswers ⊢
              rw [decide_eq_false hret, Bool.or_false]
              have hbound : observed.bound = false := by
                by_contra hbound
                have hmem : failing ∈ observed.host.registered := by simp [hsplit]
                have htrue := (h.bound (eq_true_of_ne_false hbound)).2 failing hmem
                rw [hfree failing hmem] at htrue
                cases htrue
              rw [hbound]
              exact .failed rfl done rest failing ret hsplit hret hanswers
            · dsimp only
              rw [hslots, hsplit, List.map_append, List.map_append, List.map_map]
              rfl
      · have hbound : observed.bound = true := by
          by_contra hbound
          exact hfree (h.free (eq_false_of_ne_true hbound))
        rcases Nat.eq_zero_or_pos observed.host.app.count with hnone | hsome
        · exact absurd (fun slot hslot => by
            rw [registered, hnone] at hslot
            cases hslot) hfree
        · have hfirst := (h.bound hbound).2 _ (getElem_mem_cells hsome)
          rw [bindCommunication_busy hsome hfirst]
          exact ⟨hrefused (show RtErr.busy ≠ .ok by decide), rfl⟩

/-- The answers to the bind callbacks of an operation. -/
def bindAnswers : Operation → Option (Key → RtErr)
  | .bindCommunication _ answers => some answers
  | _ => none

/-- The callbacks of every operation, and that the slots stay while they are bound. -/
theorem callbacks_of_step (h : observed.Agrees setup) {operation : Operation}
    (hpermitted : observed.Permitted operation) :
    Callbacks setup observed.host.registered observed.bound (bindAnswers operation)
        (newCalls observed.host (observed.host.perform setup operation).1)
        (observed.step setup operation).bound ∧
      ((observed.step setup operation).bound = true →
        (observed.host.perform setup operation).1.registered.map Slot.key =
          observed.host.registered.map Slot.key) := by
  have hunchanged {host : Host} (happ : host.app = observed.host.app)
      (hlog : host.log = observed.host.log) :
      Callbacks setup observed.host.registered observed.bound none (newCalls observed.host host)
          observed.bound ∧
        (observed.bound = true →
          host.registered.map Slot.key = observed.host.registered.map Slot.key) := by
    refine ⟨callbacks_of_startup ⟨[], by rw [hlog, List.append_nil], by simp⟩, fun _ => ?_⟩
    rw [registered, registered, happ]
  have hregister (ops context release : Option Nat) :
      Callbacks setup observed.host.registered observed.bound none
          (newCalls observed.host (observed.host.registerEx setup ops context release).1)
          observed.bound ∧
        (observed.bound = true →
          (observed.host.registerEx setup ops context release).1.registered.map Slot.key =
            observed.host.registered.map Slot.key) := by
    rcases registerEx_cases h.valid ops context release with
      ⟨hsame, -⟩ | ⟨hidle, -, -, -, -, hlog, -⟩
    · rw [hsame]
      exact hunchanged rfl rfl
    · refine ⟨callbacks_of_startup ⟨[], by rw [hlog, List.append_nil], by simp⟩, fun hbound => ?_⟩
      rw [started_of_bound h hbound] at hidle
      cases hidle
  cases operation with
  | factoryRegister factory =>
      obtain ⟨happ, -, hlog⟩ := factoryRegister_kept setup observed.host factory
      exact hunchanged happ hlog
  | register ops context => exact hregister ops context none
  | registerEx ops context release => exact hregister ops context release
  | autoAttachAll answers =>
      have hresult := autoAttachAll_result answers h.valid
      have hidle : observed.bound = true →
          (observed.host.autoAttachAll setup answers).2 ≠ .ok := by
        intro hbound
        unfold autoAttachAll
        split
        · simp
        · rw [if_pos (started_of_bound h hbound)]
          simp
      change Callbacks setup observed.host.registered observed.bound none
          (newCalls observed.host (observed.host.autoAttachAll setup answers).1) observed.bound ∧
        (observed.bound = true →
          (observed.host.autoAttachAll setup answers).1.registered.map Slot.key =
            observed.host.registered.map Slot.key)
      generalize observed.host.autoAttachAll setup answers = result at hresult hidle ⊢
      cases hresult with
      | attached after factories added hvalid hslots hadded hlog hstack =>
          refine ⟨callbacks_of_startup ⟨_, hlog, fun call hcall => ?_⟩,
            fun hbound => absurd rfl (hidle hbound)⟩
          obtain ⟨address, -, rfl⟩ := List.mem_map.mp hcall
          rfl
      | refused after ret factories added hret hvalid hslots hadded hlog hstack =>
          rw [List.append_assoc] at hlog
          refine ⟨callbacks_of_startup ⟨_, hlog, fun call hcall => ?_⟩, fun _ => by
            dsimp only
            rw [hslots]⟩
          rcases List.mem_append.mp hcall with hattach | hrelease
          · obtain ⟨address, -, rfl⟩ := List.mem_map.mp hattach
            rfl
          · obtain ⟨slot, -, hcall⟩ := List.mem_flatMap.mp hrelease
            unfold Slot.releaseCalls at hcall
            split at hcall
            · rw [List.mem_singleton.mp hcall]
              rfl
            · cases hcall
  | bindCommunication present answers =>
      obtain ⟨hcallbacks, hkeys⟩ := callbacks_of_bind h present answers
      exact ⟨hcallbacks, fun _ => hkeys⟩
  | communicationQuiesced =>
      obtain ⟨-, hlog, -⟩ := quiesceSlots setup observed.host observed.host.app.count
      refine ⟨?_, fun hfalse => absurd hfalse Bool.false_ne_true⟩
      have hcalls : newCalls observed.host (observed.host.communicationQuiesced setup) =
          observed.host.registered.reverse.flatMap fun slot =>
            if observed.bound then slot.quiesceCalls setup else [] := by
        refine (newCalls_of_log hlog).trans (List.flatMap_congr fun slot hslot => ?_)
        have hmem : slot ∈ observed.host.registered := List.mem_reverse.mp hslot
        cases hbound : observed.bound with
        | false => rw [h.free hbound slot hmem]
        | true => rw [(h.bound hbound).2 slot hmem]
      change Callbacks setup _ _ none (newCalls observed.host
        (observed.host.communicationQuiesced setup)) false
      rw [hcalls]
      exact .quiesced
  | runtimeInit answers worker =>
      have hquiet := @runtimeInit_quiet setup observed.host answers worker
      exact ⟨callbacks_of_startup (runtimeInit_startup answers worker), fun _ => hquiet.keys⟩
  | runtimeStart answers worker =>
      have hquiet := @runtimeStart_quiet setup observed.host answers worker
      exact ⟨callbacks_of_startup (runtimeStart_startup answers worker), fun _ => hquiet.keys⟩
  | runtimeDeinit =>
      obtain ⟨-, hlog, -⟩ := runtimeDeinit_spec setup h.valid.ops h.valid.tail
      have hbound : observed.bound = false := hpermitted
      refine ⟨?_, fun htrue => absurd (hbound.symm.trans htrue) Bool.false_ne_true⟩
      change Callbacks setup _ _ none (newCalls observed.host (observed.host.runtimeDeinit setup))
        observed.bound
      rw [newCalls_of_log hlog, hbound]
      refine .deinit rfl _ fun call hcall => ?_
      obtain ⟨slot, -, hcall⟩ := List.mem_flatMap.mp hcall
      unfold Slot.deinitCalls Slot.releaseCalls at hcall
      rcases List.mem_append.mp hcall with hdeinit | hrelease
      · split at hdeinit
        · rw [List.mem_singleton.mp hdeinit]
          rfl
        · cases hdeinit
      · split at hrelease
        · rw [List.mem_singleton.mp hrelease]
          rfl
        · cases hrelease
  | setStack present =>
      exact ⟨callbacks_of_startup ⟨[], (List.append_nil _).symm, by simp⟩, fun _ => rfl⟩
  | setRuntime mainThread rtThread rtTimer =>
      exact ⟨callbacks_of_startup ⟨[], (List.append_nil _).symm, by simp⟩, fun _ => rfl⟩

end Observed

end CanopenRtt.Lifecycle
