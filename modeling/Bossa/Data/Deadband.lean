import Mathlib.Data.List.Chain

/-!
# Deadbands

A deadband compares each value with a base and lets it pass when it is far from it, or when
there is no base yet. A value that passes is the next base, so the base after a list of
values is the last that passed.
-/

namespace Deadband

variable {α : Type*} (far : α → α → Bool)

/-- The value passes: there is no base, or the value is far from it. -/
def passes (base : Option α) (value : α) : Bool := base.all fun w => far w value

def next (base : Option α) (value : α) : Option α :=
  if passes far base value then some value else base

def anchor (base : Option α) (values : List α) : Option α := values.foldl (next far) base

@[simp] theorem passes_none (value : α) : passes far none value = true := rfl

@[simp] theorem passes_some (w value : α) : passes far (some w) value = far w value := rfl

@[simp] theorem anchor_nil (base : Option α) : anchor far base [] = base := rfl

@[simp] theorem anchor_cons (base : Option α) (value : α) (values : List α) :
    anchor far base (value :: values) = anchor far (next far base value) values := rfl

theorem anchor_append (base : Option α) (values values' : List α) :
    anchor far base (values ++ values') = anchor far (anchor far base values) values' :=
  List.foldl_append

theorem next_of_not_passes {base : Option α} {value : α} (h : passes far base value = false) :
    next far base value = base := by
  rw [next, h]
  rfl

theorem isSome_next (base : Option α) (value : α) : (next far base value).isSome = true := by
  cases base with
  | none => rfl
  | some w =>
      rw [next]
      split <;> rfl

/-- No value of the list passes in its turn. -/
def Quiet (base : Option α) (values : List α) : Prop :=
  ∀ before value after, values = before ++ value :: after →
    passes far (anchor far base before) value = false

theorem anchor_of_near {w : α} :
    ∀ {values : List α}, (∀ v ∈ values, far w v = false) → anchor far (some w) values = some w
  | [], _ => rfl
  | value :: values, h => by
      rw [List.forall_mem_cons] at h
      have hnext : next far (some w) value = some w := next_of_not_passes far h.1
      rw [anchor_cons, hnext]
      exact anchor_of_near h.2

/-- No value passes exactly when none is far from the base there was in the beginning. -/
theorem quiet_some_iff {w : α} {values : List α} :
    Quiet far (some w) values ↔ ∀ v ∈ values, far w v = false := by
  constructor
  · intro hquiet
    induction values using List.reverseRecOn with
    | nil => simp
    | append_singleton values value ih =>
        have hinit : Quiet far (some w) values := by
          intro before v after heq
          exact hquiet before v (after ++ [value]) (by rw [heq, List.append_assoc]; rfl)
        have hlast := hquiet values value [] rfl
        rw [anchor_of_near far (ih hinit)] at hlast
        rw [List.forall_mem_append]
        exact ⟨ih hinit, List.forall_mem_singleton.mpr hlast⟩
  · rintro hnear before value after rfl
    rw [List.forall_mem_append, List.forall_mem_cons] at hnear
    rw [anchor_of_near far hnear.1]
    exact hnear.2.1

theorem isSome_anchor {values : List α} (h : values ≠ []) (base : Option α) :
    (anchor far base values).isSome = true := by
  rcases List.eq_nil_or_concat values with rfl | ⟨values, value, rfl⟩
  · exact absurd rfl h
  · rw [List.concat_eq_append, anchor_append]
    exact isSome_next far _ value

/-- Behind the first `k` values none passes exactly when none is far from the base after
them. -/
theorem quiet_drop_iff {k : ℕ} (hk : 1 ≤ k) (values : List α) :
    (∀ before value after, values = before ++ value :: after → k ≤ before.length →
        passes far (anchor far none before) value = false) ↔
      ∀ w ∈ anchor far none (values.take k), ∀ v ∈ values.drop k, far w v = false := by
  have hsplits : (∀ before value after, values = before ++ value :: after →
        k ≤ before.length → passes far (anchor far none before) value = false) ↔
      Quiet far (anchor far none (values.take k)) (values.drop k) := by
    constructor
    · intro h before value after heq
      rw [← anchor_append]
      refine h _ value after ?_ ?_
      · rw [List.append_assoc, ← heq, List.take_append_drop]
      · have hlength := congrArg List.length heq
        simp only [List.length_drop, List.length_append, List.length_cons] at hlength
        rw [List.length_append, List.length_take]
        omega
    · rintro h before value after rfl hlength
      rw [List.take_append_of_le_length hlength, List.drop_append_of_le_length hlength] at h
      have hlast := h (before.drop k) value after rfl
      rwa [← anchor_append, List.take_append_drop] at hlast
  rw [hsplits]
  cases hbase : anchor far none (values.take k) with
  | some w =>
      rw [quiet_some_iff]
      simp
  | none =>
      have hnil : values.take k = [] := by
        by_contra hne
        have hsome := isSome_anchor far hne none
        rw [hbase] at hsome
        cases hsome
      have hempty : values = [] := by
        rcases List.take_eq_nil_iff.mp hnil with rfl | hempty
        · omega
        · exact hempty
      subst hempty
      simp [Quiet]

theorem anchor_of_chain {values : List α} (h : values.IsChain fun w v => far w v = true) :
    anchor far none values = values.getLast? := by
  induction values using List.reverseRecOn with
  | nil => rfl
  | append_singleton values value ih =>
      obtain ⟨hinit, -, hlast⟩ := List.isChain_append.mp h
      have hpasses : passes far values.getLast? value = true := by
        cases hbase : values.getLast? with
        | none => rfl
        | some w => exact hlast w hbase value rfl
      rw [anchor_append, ih hinit, anchor_cons, anchor_nil, next, hpasses,
        List.getLast?_append_of_ne_nil _ (List.cons_ne_nil _ _)]
      rfl

theorem passes_of_chain {before after : List α} {value : α}
    (h : (before ++ value :: after).IsChain fun w v => far w v = true) :
    passes far (anchor far none before) value = true := by
  obtain ⟨hinit, -, hlast⟩ := List.isChain_append.mp h
  rw [anchor_of_chain far hinit]
  cases hbase : before.getLast? with
  | none => rfl
  | some w => exact hlast w hbase value rfl

end Deadband
