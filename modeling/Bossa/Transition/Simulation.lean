import Bossa.Transition.Run

/-!
# Forward simulations

A concrete step is observed as a list of abstract labels, empty when nothing of it can
be seen, and a simulation answers it with an abstract run that carries these labels. A
concrete run is then answered as a whole: what its steps are observed as, one after
another, are the labels of an abstract run.
-/

namespace Transition

variable {σ τ ι κ : Type*}

/-- A relation between concrete and abstract states along which every concrete step is
answered by an abstract run with the labels it is observed as. -/
def Simulates (step : σ → ι → σ → Prop) (step' : τ → κ → τ → Prop) (observe : ι → List κ)
    (R : σ → τ → Prop) : Prop :=
  ∀ ⦃s i s' t⦄, R s t → step s i s' → ∃ t', Run step' t (observe i) t' ∧ R s' t'

namespace Simulates

variable {step : σ → ι → σ → Prop} {step' : τ → κ → τ → Prop} {observe : ι → List κ}
  {R : σ → τ → Prop}

theorem run (h : Simulates step step' observe R) {s s' : σ} {t : τ} {labels : List ι}
    (hrun : Run step s labels s') (hR : R s t) :
    ∃ t', Run step' t (labels.flatMap observe) t' ∧ R s' t' := by
  induction hrun with
  | nil => exact ⟨t, .nil, hR⟩
  | @snoc u u' labels i _ hstep ih =>
      obtain ⟨v, hbefore, hv⟩ := ih
      obtain ⟨v', hlast, hv'⟩ := h hv hstep
      refine ⟨v', ?_, hv'⟩
      rw [List.flatMap_append, List.flatMap_singleton]
      exact hbefore.append hlast

end Simulates

end Transition
