import Mathlib.Data.List.Forall2

/-!
# Machines with outputs

A machine reads an input, answers with an output and moves to its next state.
`run` lists the answers and the states after each input of a list. A relation
between the states of two machines that every input preserves, with equal
answers, relates their runs position by position.
-/

namespace Machine

variable {σ τ ι ο : Type*}

/-- The answers and the states after each of a list of inputs. -/
def run (step : σ → ι → ο × σ) : σ → List ι → List (ο × σ)
  | _, [] => []
  | s, i :: is => step s i :: run step (step s i).2 is

theorem run_forall₂ {step : σ → ι → ο × σ} {step' : τ → ι → ο × τ} {R : σ → τ → Prop}
    (hstep : ∀ s t i, R s t →
      (step s i).1 = (step' t i).1 ∧ R (step s i).2 (step' t i).2) :
    ∀ (is : List ι) {s : σ} {t : τ}, R s t →
      List.Forall₂ (fun x y => x.1 = y.1 ∧ R x.2 y.2) (run step s is) (run step' t is)
  | [], _, _, _ => .nil
  | i :: is, s, t, h =>
      .cons (hstep s t i h) (run_forall₂ hstep is (hstep s t i h).2)

end Machine
