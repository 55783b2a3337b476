import Mathlib.Data.List.Induction

/-!
# Labelled runs

`Run step s labels t` is a run from `s` to `t` whose steps carry the labels in
their order. What every step preserves holds at the end of a run; when only steps
with labels of some kind preserve it, the labels must be of that kind.
-/

namespace Transition

variable {σ ι : Type*}

/-- A run of a labelled transition relation. -/
inductive Run (step : σ → ι → σ → Prop) (s : σ) : List ι → σ → Prop
  | nil : Run step s [] s
  | snoc {t u : σ} {labels : List ι} {i : ι} (hrun : Run step s labels t)
      (hstep : step t i u) : Run step s (labels ++ [i]) u

namespace Run

variable {step : σ → ι → σ → Prop} {s t u : σ} {labels labels' : List ι}

theorem invariant {P : σ → Prop} {Q : ι → Prop}
    (hstep : ∀ s i t, Q i → P s → step s i t → P t) (hrun : Run step s labels t)
    (hlabels : ∀ i ∈ labels, Q i) (hs : P s) : P t := by
  induction hrun with
  | nil => exact hs
  | snoc _ hlast ih =>
      rw [List.forall_mem_append] at hlabels
      exact hstep _ _ _ (hlabels.2 _ (List.mem_singleton_self _)) (ih hlabels.1) hlast

theorem countP_add_le {P : σ → Prop} {Q : ι → Prop} {p q : ι → Bool} (φ : σ → ℕ)
    (hstep : ∀ s i t, Q i → P s → step s i t →
      P t ∧ (if p i = true then 1 else 0) + φ t ≤ (if q i = true then 1 else 0) + φ s)
    (hrun : Run step s labels t) (hlabels : ∀ i ∈ labels, Q i) (hs : P s) :
    P t ∧ labels.countP p + φ t ≤ labels.countP q + φ s := by
  induction hrun with
  | nil => exact ⟨hs, by simp⟩
  | snoc _ hlast ih =>
      rw [List.forall_mem_append] at hlabels
      obtain ⟨hpre, hsum⟩ := ih hlabels.1
      obtain ⟨hpost, hlastSum⟩ :=
        hstep _ _ _ (hlabels.2 _ (List.mem_singleton_self _)) hpre hlast
      refine ⟨hpost, ?_⟩
      rw [List.countP_append, List.countP_append, List.countP_singleton, List.countP_singleton]
      omega

theorem countP_le {P : σ → Prop} {Q : ι → Prop} {p : ι → Bool} (φ : σ → ℕ)
    (hstep : ∀ s i t, Q i → P s → step s i t →
      P t ∧ (if p i = true then 1 else 0) + φ t ≤ φ s)
    (hrun : Run step s labels t) (hlabels : ∀ i ∈ labels, Q i) (hs : P s) :
    labels.countP p ≤ φ s := by
  have hsum := hrun.countP_add_le (q := fun _ => false) φ
    (fun s i t hi hs h => by simpa using hstep s i t hi hs h) hlabels hs
  have hbound := hsum.2
  rw [List.countP_false, Function.const_apply] at hbound
  omega

theorem append (hrun : Run step s labels t) (hrun' : Run step t labels' u) :
    Run step s (labels ++ labels') u := by
  induction hrun' with
  | nil => rwa [List.append_nil]
  | snoc _ hstep ih => exact List.append_assoc _ _ _ ▸ ih.snoc hstep

theorem cons {i : ι} (hstep : step s i t) (hrun : Run step t labels u) :
    Run step s (i :: labels) u :=
  (nil.snoc hstep).append hrun

theorem of_foldlM {step : σ → ι → Option σ} :
    ∀ {labels : List ι} {s t : σ}, labels.foldlM step s = some t →
      Run (fun s i t => step s i = some t) s labels t
  | [], s, t, h => by
      cases h
      exact nil
  | i :: labels, s, t, h => by
      rw [List.foldlM_cons] at h
      obtain ⟨u, hstep, hrest⟩ := Option.bind_eq_some_iff.mp h
      exact cons hstep (of_foldlM hrest)

theorem concat_iff {i : ι} :
    Run step s (labels ++ [i]) u ↔ ∃ t, Run step s labels t ∧ step t i u := by
  constructor
  · intro hrun
    generalize hall : labels ++ [i] = all at hrun
    cases hrun with
    | nil => simp at hall
    | @snoc t _ front j hinit hstep =>
        obtain ⟨rfl, hij⟩ := List.append_inj' hall rfl
        cases hij
        exact ⟨t, hinit, hstep⟩
  · rintro ⟨t, hinit, hstep⟩
    exact hinit.snoc hstep

theorem of_append (hrun : Run step s (labels ++ labels') u) :
    ∃ t, Run step s labels t ∧ Run step t labels' u := by
  induction labels' using List.reverseRecOn generalizing u with
  | nil => exact ⟨u, List.append_nil labels ▸ hrun, nil⟩
  | append_singleton front i ih =>
      rw [← List.append_assoc, concat_iff] at hrun
      obtain ⟨v, hfront, hlast⟩ := hrun
      obtain ⟨t, hbefore, hafter⟩ := ih hfront
      exact ⟨t, hbefore, hafter.snoc hlast⟩

theorem of_append_cons {i : ι} (hrun : Run step s (labels ++ i :: labels') u) :
    ∃ t t', Run step s labels t ∧ step t i t' ∧ Run step t' labels' u := by
  rw [List.append_cons] at hrun
  obtain ⟨t', hbefore, hafter⟩ := hrun.of_append
  obtain ⟨t, hbefore, hstep⟩ := concat_iff.mp hbefore
  exact ⟨t, t', hbefore, hstep, hafter⟩

theorem exists_step {i : ι} (hrun : Run step s (labels ++ i :: labels') u) :
    ∃ t t', Run step s labels t ∧ step t i t' := by
  obtain ⟨t, t', hbefore, hstep, -⟩ := hrun.of_append_cons
  exact ⟨t, t', hbefore, hstep⟩

end Run

end Transition
