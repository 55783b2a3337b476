import Mathlib.Data.List.Induction

/-!
# Runs of a function

The state after a list of inputs is a fold. A property that holds at first, and that an input
preserves exactly when it meets a condition in the state it is read in, holds after every
part of a run exactly when every input of the run meets the condition.
-/

namespace Transition

variable {σ ι : Type*} {step : σ → ι → σ} {s : σ} {P : σ → Prop} {Q : σ → ι → Prop}

theorem forall_prefix_foldl_iff (hs : P s) (hstep : ∀ t i, P t → (P (step t i) ↔ Q t i))
    (inputs : List ι) :
    (∀ done, done <+: inputs → P (done.foldl step s)) ↔
      ∀ done i, done ++ [i] <+: inputs → Q (done.foldl step s) i := by
  constructor
  · intro h done i hdone
    have hlast := h _ hdone
    rw [List.foldl_append] at hlast
    exact (hstep _ _ (h done ((List.prefix_append _ _).trans hdone))).mp hlast
  · intro h done
    -- induction on the part of the run from its end
    induction done using List.reverseRecOn with
    | nil => exact fun _ => hs
    | append_singleton done i ih =>
        intro hdone
        rw [List.foldl_append]
        exact (hstep _ _ (ih ((List.prefix_append _ _).trans hdone))).mpr (h done i hdone)

end Transition
