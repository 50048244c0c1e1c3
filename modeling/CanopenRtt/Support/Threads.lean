import Mathlib.Data.List.Basic
import Mathlib.Logic.Relation
/-!
# Interleaved threads

The threads of one kind are a list of local states. A new thread joins at the
end, a step of a thread replaces its entry. Counting the threads in some local
state turns an argument about any number of threads into arithmetic.
-/

namespace CanopenRtt.Support

variable {σ τ : Type*}

/-- The states that steps lead to from a start. -/
abbrev Reachable (step : σ → σ → Prop) (start : σ) : σ → Prop :=
  Relation.ReflTransGen step start

theorem Reachable.invariant {step : σ → σ → Prop} {start s : σ} {Inv : σ → Prop}
    (hstart : Inv start) (hstep : ∀ {a b}, Inv a → step a b → Inv b)
    (h : Reachable step start s) : Inv s := by
  induction h with
  | refl => exact hstart
  | tail _ hlast ih => exact hstep ih hlast

/-- A step of one thread moves its own contribution to a count. -/
theorem countP_set_add (p : τ → Bool) {pool : List τ} {i : Nat} {before : τ} (after : τ)
    (h : pool[i]? = some before) :
    (pool.set i after).countP p + (p before).toNat = pool.countP p + (p after).toNat := by
  induction pool generalizing i with
  | nil => simp at h
  | cons head pool ih =>
      cases i with
      | zero =>
          have hhead : head = before := by simpa using h
          subst hhead
          rw [List.set_cons_zero, List.countP_cons, List.countP_cons]
          cases p head <;> cases p after <;> simp
      | succ i =>
          have hrest := ih (by simpa using h)
          rw [List.set_cons_succ, List.countP_cons, List.countP_cons]
          omega

theorem countP_set_of_eq (p : τ → Bool) {pool : List τ} {i : Nat} {before after : τ}
    (h : pool[i]? = some before) (hsame : p after = p before) :
    (pool.set i after).countP p = pool.countP p := by
  have hadd := countP_set_add p after h
  rw [hsame] at hadd
  omega

theorem countP_concat (p : τ → Bool) (pool : List τ) (thread : τ) :
    (pool ++ [thread]).countP p = pool.countP p + (p thread).toNat := by
  rw [List.countP_append, List.countP_singleton]
  cases p thread <;> rfl

/-- A thread that counts makes the count positive. -/
theorem countP_pos_of_getElem? {p : τ → Bool} {pool : List τ} {i : Nat} {thread : τ}
    (h : pool[i]? = some thread) (hp : p thread = true) : 0 < pool.countP p :=
  List.countP_pos_iff.mpr ⟨thread, List.mem_of_getElem? h, hp⟩

/-- What holds of every thread survives a step of one of them. -/
theorem forall_mem_set {P : τ → Prop} {pool : List τ} {i : Nat} {after : τ}
    (h : ∀ thread ∈ pool, P thread) (hafter : P after) : ∀ thread ∈ pool.set i after, P thread := by
  intro thread hmem
  rcases List.mem_or_eq_of_mem_set hmem with hold | rfl
  · exact h thread hold
  · exact hafter

theorem forall_mem_concat {P : τ → Prop} {pool : List τ} {thread : τ}
    (h : ∀ other ∈ pool, P other) (hthread : P thread) :
    ∀ other ∈ pool ++ [thread], P other := by
  intro other hmem
  rcases List.mem_append.mp hmem with hold | hnew
  · exact h other hold
  · rw [List.mem_singleton.mp hnew]
    exact hthread

/-- The part of a pool that concerns `f`, before and after a step of one thread. -/
theorem filterMap_set_split {υ : Type*} (f : τ → Option υ) {pool : List τ} {i : Nat} {before : τ}
    (h : pool[i]? = some before) :
    ∃ front back, pool.filterMap f = front ++ (f before).toList ++ back ∧
      ∀ after, (pool.set i after).filterMap f = front ++ (f after).toList ++ back := by
  induction pool generalizing i with
  | nil => simp at h
  | cons head pool ih =>
      have hcons (thread : τ) (rest : List τ) :
          (thread :: rest).filterMap f = (f thread).toList ++ rest.filterMap f := by
        rw [List.filterMap_cons]
        cases f thread <;> rfl
      cases i with
      | zero =>
          have hhead : head = before := by simpa using h
          refine ⟨[], pool.filterMap f, ?_, ?_⟩
          · rw [hcons, hhead, List.nil_append]
          · intro after
            rw [List.set_cons_zero, hcons, List.nil_append]
      | succ i =>
          obtain ⟨front, back, hbefore, hafter⟩ := ih (by simpa using h)
          refine ⟨(f head).toList ++ front, back, ?_, ?_⟩
          · rw [hcons, hbefore]
            simp only [List.append_assoc]
          · intro after
            rw [List.set_cons_succ, hcons, hafter]
            simp only [List.append_assoc]

/-- A step that `f` does not see. -/
theorem filterMap_set_of_eq {υ : Type*} {f : τ → Option υ} {pool : List τ} {i : Nat}
    {before after : τ} (h : pool[i]? = some before) (hsame : f after = f before) :
    (pool.set i after).filterMap f = pool.filterMap f := by
  obtain ⟨front, back, hbefore, hafter⟩ := filterMap_set_split f h
  rw [hafter, hbefore, hsame]

/-- A step of the only thread that `f` sees. -/
theorem filterMap_set_of_sole {υ : Type*} {f : τ → Option υ} {pool : List τ} {i : Nat}
    {before : τ} {seen : υ} (h : pool[i]? = some before) (hbefore : f before = some seen)
    (hsole : (pool.filterMap f).length ≤ 1) :
    pool.filterMap f = [seen] ∧ ∀ after, (pool.set i after).filterMap f = (f after).toList := by
  obtain ⟨front, back, hpool, hafter⟩ := filterMap_set_split f h
  rw [hpool, hbefore, Option.toList_some, List.length_append, List.length_append,
    List.length_singleton] at hsole
  have hfront : front = [] := List.length_eq_zero_iff.mp (by omega)
  have hback : back = [] := List.length_eq_zero_iff.mp (by omega)
  subst hfront hback
  refine ⟨?_, ?_⟩
  · rw [hpool, hbefore]
    rfl
  · intro after
    rw [hafter, List.nil_append, List.append_nil]

/-- A step of a thread into the view of `f`, when it sees none. -/
theorem filterMap_set_of_none {υ : Type*} {f : τ → Option υ} {pool : List τ} {i : Nat}
    {before : τ} (h : pool[i]? = some before) (hnone : pool.filterMap f = []) (after : τ) :
    (pool.set i after).filterMap f = (f after).toList := by
  obtain ⟨front, back, hpool, hafter⟩ := filterMap_set_split f h
  rw [hnone] at hpool
  obtain ⟨hleft, hback⟩ := List.append_eq_nil_iff.mp hpool.symm
  rw [hafter, hback, (List.append_eq_nil_iff.mp hleft).1, List.nil_append, List.append_nil]

/-- With one counting thread at most, the thread that stepped is the only one. -/
theorem eq_of_mem_set_of_countP {p : τ → Bool} {pool : List τ} {i : Nat} {before after other : τ}
    (hat : pool[i]? = some before) (hbefore : p before = true) (hone : pool.countP p ≤ 1)
    (hmem : other ∈ pool.set i after) (hother : p other = true) : other = after := by
  induction pool generalizing i with
  | nil => simp at hat
  | cons head pool ih =>
      rw [List.countP_cons] at hone
      cases i with
      | zero =>
          have hhead : head = before := by simpa using hat
          rw [List.set_cons_zero] at hmem
          rcases List.mem_cons.mp hmem with heq | hrest
          · exact heq
          · have hpositive : 0 < pool.countP p := List.countP_pos_iff.mpr ⟨other, hrest, hother⟩
            rw [hhead, if_pos hbefore] at hone
            omega
      | succ i =>
          have hat : pool[i]? = some before := by simpa using hat
          have hpositive : 0 < pool.countP p := countP_pos_of_getElem? hat hbefore
          rw [List.set_cons_succ] at hmem
          rcases List.mem_cons.mp hmem with heq | hrest
          · rw [← heq, if_pos hother] at hone
            omega
          · exact ih hat (by omega) hrest

end CanopenRtt.Support
