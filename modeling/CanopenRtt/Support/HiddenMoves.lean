import CanopenRtt.Support.Monitor
/-!
# Moves of which only some can be seen

A word is explained by a sequence of moves that a monitor permits and of which the word shows the
visible ones. What no visible event reports may still have happened.
-/

namespace CanopenRtt.Support

variable {σ μ ε : Type*} {check : σ → μ → Option σ} {visible : μ → Option ε}

/-- The events are what can be seen of permitted moves. -/
def Explains (check : σ → μ → Option σ) (visible : μ → Option ε) (start : σ) (events : List ε)
    (final : σ) : Prop :=
  ∃ moves, Accepts check start moves final ∧ moves.filterMap visible = events

theorem explains_nil (s : σ) : Explains check visible s [] s :=
  ⟨[], accepts_nil.mpr rfl, rfl⟩

theorem explains_of_move {s t : σ} {move : μ} (h : check s move = some t) :
    Explains check visible s (visible move).toList t := by
  refine ⟨[move], accepts_singleton.mpr h, ?_⟩
  cases hvisible : visible move <;> simp [hvisible]

theorem Explains.append {s m t : σ} {first second : List ε}
    (h : Explains check visible s first m) (h' : Explains check visible m second t) :
    Explains check visible s (first ++ second) t := by
  obtain ⟨moves, haccepts, hseen⟩ := h
  obtain ⟨moves', haccepts', hseen'⟩ := h'
  exact ⟨moves ++ moves', haccepts.append haccepts', by rw [List.filterMap_append, hseen, hseen']⟩

/-- One more move at the end. -/
theorem Explains.concat {s m t : σ} {events : List ε} {move : μ}
    (h : Explains check visible s events m) (hmove : check m move = some t) :
    Explains check visible s (events ++ (visible move).toList) t :=
  h.append (explains_of_move hmove)

/-- What every permitted move keeps holds at the end of an explained word. -/
theorem Explains.invariant {Inv : σ → Prop} {s t : σ} {events : List ε}
    (h : Explains check visible s events t)
    (hstep : ∀ s move t, Inv s → check s move = some t → Inv t) (hstart : Inv s) : Inv t := by
  obtain ⟨moves, haccepts, -⟩ := h
  exact haccepts.invariant hstep hstart

end CanopenRtt.Support
