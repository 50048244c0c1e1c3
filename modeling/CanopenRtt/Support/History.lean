import Mathlib.Tactic.Common
/-!
# What becomes of the items of a one-place buffer

A history lists every item that was ever put into a buffer, in order, with its
fate. With one place at most, only the last item can still be waiting, and the
items that were accepted are a sublist of the items that were put in.
-/

namespace CanopenRtt.Support

variable {α ω : Type*}

/-- An item waits, was accepted with a result, or was retired. -/
inductive Fate (ω : Type*) where
  | waiting
  | accepted (result : ω)
  | retired
  deriving DecidableEq

structure Entry (α ω : Type*) where
  item : α
  fate : Fate ω
  deriving DecidableEq

/-- The result of an accepted item. -/
def Entry.result (entry : Entry α ω) : Option ω :=
  match entry.fate with
  | .accepted result => some result
  | _ => none

/-- Decide the fate of a waiting item. -/
def Entry.settle (fate : Fate ω) (entry : Entry α ω) : Entry α ω :=
  match entry.fate with
  | .waiting => { entry with fate := fate }
  | _ => entry

def put (history : List (Entry α ω)) (item : α) : List (Entry α ω) :=
  history ++ [{ item := item, fate := .waiting }]

def settle (fate : Fate ω) (history : List (Entry α ω)) : List (Entry α ω) :=
  history.map (Entry.settle fate)

/-- The results of the accepted items, in order. -/
def results (history : List (Entry α ω)) : List ω :=
  history.filterMap Entry.result

@[simp] theorem item_settle (fate : Fate ω) (entry : Entry α ω) :
    (entry.settle fate).item = entry.item := by
  unfold Entry.settle
  split <;> rfl

/-- Deciding a fate keeps the items and their order. -/
@[simp] theorem items_settle (fate : Fate ω) (history : List (Entry α ω)) :
    (settle fate history).map Entry.item = history.map Entry.item := by
  rw [settle, List.map_map]
  apply List.map_congr_left
  intro entry _
  exact item_settle fate entry

@[simp] theorem items_put (history : List (Entry α ω)) (item : α) :
    (put history item).map Entry.item = history.map Entry.item ++ [item] := by
  rw [put, List.map_append]
  rfl

@[simp] theorem results_put (history : List (Entry α ω)) (item : α) :
    results (put history item) = results history := by
  rw [results, put, List.filterMap_append]
  exact List.append_nil _

/-- The accepted items, in their order, are a sublist of all items. -/
theorem results_sublist {R : α → ω → Prop} {history : List (Entry α ω)}
    (h : ∀ entry ∈ history, ∀ result, entry.fate = .accepted result → R entry.item result) :
    ∃ items, items.Sublist (history.map Entry.item) ∧ List.Forall₂ R items (results history) := by
  induction history with
  | nil => exact ⟨[], List.Sublist.refl [], .nil⟩
  | cons entry rest ih =>
      obtain ⟨items, hsub, hall⟩ := ih fun other hother => h other (List.mem_cons_of_mem _ hother)
      have hentry := h entry List.mem_cons_self
      unfold results at hall ⊢
      rw [List.map_cons, List.filterMap_cons]
      unfold Entry.result at hall ⊢
      split
      · exact ⟨items, hsub.cons _, hall⟩
      · rename_i result hresult
        split at hresult
        · rename_i found hfate
          obtain rfl := Option.some.inj hresult
          exact ⟨entry.item :: items, hsub.cons_cons _, .cons (hentry found hfate) hall⟩
        · contradiction

/-- Every item is decided but for the one that waits. -/
inductive OneAhead : List (Entry α ω) → Option α → Prop where
  | empty (settled : List (Entry α ω)) (hsettled : ∀ entry ∈ settled, entry.fate ≠ .waiting) :
      OneAhead settled none
  | held (settled : List (Entry α ω)) (hsettled : ∀ entry ∈ settled, entry.fate ≠ .waiting)
      (item : α) : OneAhead (put settled item) (some item)

theorem settle_of_settled {settled : List (Entry α ω)}
    (h : ∀ entry ∈ settled, entry.fate ≠ .waiting) (fate : Fate ω) :
    settle fate settled = settled := by
  induction settled with
  | nil => rfl
  | cons entry rest ih =>
      have hentry : entry.settle fate = entry := by
        have hdecided := h entry List.mem_cons_self
        unfold Entry.settle
        split
        · contradiction
        · rfl
      rw [settle, List.map_cons, hentry]
      exact congrArg _ (ih fun other hother => h other (List.mem_cons_of_mem _ hother))

theorem settle_put {settled : List (Entry α ω)}
    (h : ∀ entry ∈ settled, entry.fate ≠ .waiting) (item : α) (fate : Fate ω) :
    settle fate (put settled item) = settled ++ [{ item := item, fate := fate }] := by
  have hsettled := settle_of_settled h fate
  rw [settle] at hsettled
  rw [settle, put, List.map_append, hsettled]
  rfl

namespace OneAhead

variable {history : List (Entry α ω)} {waiting : Option α}

theorem put (h : OneAhead history none) (item : α) :
    OneAhead (put history item) (some item) := by
  cases h with
  | empty settled hsettled => exact .held _ hsettled item

theorem settle (h : OneAhead history waiting) {fate : Fate ω} (hfate : fate ≠ .waiting) :
    OneAhead (settle fate history) none := by
  cases h with
  | empty settled hsettled =>
      rw [settle_of_settled hsettled]
      exact .empty _ hsettled
  | held settled hsettled item =>
      rw [settle_put hsettled]
      refine .empty _ fun entry hentry => ?_
      rcases List.mem_append.mp hentry with hold | hlast
      · exact hsettled entry hold
      · rw [List.mem_singleton.mp hlast]
        exact hfate

/-- The waiting item is in the history. -/
theorem mem {item : α} (h : OneAhead history (some item)) :
    ({ item := item, fate := .waiting } : Entry α ω) ∈ history := by
  cases h with
  | held settled hsettled => exact List.mem_append_right _ (List.mem_singleton.mpr rfl)

/-- A retired item is accepted nowhere. -/
theorem results_retired (h : OneAhead history waiting) :
    results (Support.settle .retired history) = results history := by
  cases h with
  | empty settled hsettled => rw [settle_of_settled hsettled]
  | held settled hsettled item =>
      rw [settle_put hsettled, results_put, results, List.filterMap_append]
      exact List.append_nil _

/-- An accepted item adds its result behind the earlier ones. -/
theorem results_accepted {item : α} (h : OneAhead history (some item)) (result : ω) :
    results (Support.settle (.accepted result) history) = results history ++ [result] := by
  cases h with
  | held settled hsettled =>
      rw [settle_put hsettled, results_put, results, List.filterMap_append]
      rfl

/-- Only the last item can wait. -/
theorem waiting_last (h : OneAhead history waiting) {before after : List (Entry α ω)}
    {entry : Entry α ω} (hsplit : history = before ++ entry :: after)
    (hfate : entry.fate = .waiting) : after = [] ∧ waiting = some entry.item := by
  cases h with
  | empty settled hsettled =>
      subst hsplit
      exact absurd hfate (hsettled entry (by simp))
  | held settled hsettled item =>
      rcases List.eq_nil_or_concat after with rfl | ⟨rest, last, rfl⟩
      · obtain ⟨-, hlast⟩ := List.append_inj' hsplit rfl
        obtain rfl := List.singleton_inj.mp hlast
        exact ⟨rfl, rfl⟩
      · have hsame : settled ++ [{ item := item, fate := .waiting }] =
            (before ++ entry :: rest) ++ [last] := by simpa [Support.put] using hsplit
        obtain ⟨hinner, -⟩ := List.append_inj' hsame rfl
        exact absurd hfate (hsettled entry (by simp [hinner]))

/-- An entry of the history keeps what was known of it, and the waiting one gets its
fate. -/
theorem forall_settle (h : OneAhead history waiting) {P : Entry α ω → Prop} {fate : Fate ω}
    (hold : ∀ entry ∈ history, P entry)
    (hnew : ∀ item, waiting = some item → P { item := item, fate := .waiting } →
      P { item := item, fate := fate }) :
    ∀ entry ∈ Support.settle fate history, P entry := by
  cases h with
  | empty settled hsettled =>
      rw [settle_of_settled hsettled]
      exact hold
  | held settled hsettled item =>
      rw [settle_put hsettled]
      intro entry hentry
      rcases List.mem_append.mp hentry with hearlier | hlast
      · exact hold entry (List.mem_append_left _ hearlier)
      · rw [List.mem_singleton.mp hlast]
        exact hnew item rfl (hold _ (List.mem_append_right _ (List.mem_singleton.mpr rfl)))

end OneAhead

end CanopenRtt.Support
