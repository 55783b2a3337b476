import Mathlib.Data.List.AList

/-!
# Properties of some value of a table

`Has P s` says that a value of the association list `s` has the property `P`, and
`HasElse P k s` that one under another key than `k` has. What a flag that summarizes
a table has to follow is how an insertion, or a change of all the values, affects the two.
-/

namespace AList

variable {α β γ : Type*}

/-- Applying a function to every value of an association list. -/
def mapValues (f : β → γ) (s : AList fun _ : α => β) : AList fun _ : α => γ :=
  ⟨s.entries.map (Sigma.map id fun _ => f), s.nodupKeys.map₂ fun _ => f⟩

variable [DecidableEq α]

/-- Some value has the property. -/
def Has (P : β → Prop) (s : AList fun _ : α => β) : Prop := ∃ k v, s.lookup k = some v ∧ P v

/-- Some value under another key has the property. -/
def HasElse (P : β → Prop) (k : α) (s : AList fun _ : α => β) : Prop :=
  ∃ k' v, k' ≠ k ∧ s.lookup k' = some v ∧ P v

variable {P : β → Prop} {k : α} {v : β} {s : AList fun _ : α => β}

theorem lookup_mapValues (f : β → γ) (s : AList fun _ : α => β) (k : α) :
    (s.mapValues f).lookup k = (s.lookup k).map f :=
  List.dlookup_map₂ k

theorem not_has_empty : ¬ (∅ : AList fun _ : α => β).Has P := by
  rintro ⟨k, v, hlookup, -⟩
  rw [lookup_empty] at hlookup
  cases hlookup

theorem has_iff_of_lookup (h : s.lookup k = some v) : s.Has P ↔ P v ∨ s.HasElse P k := by
  constructor
  · rintro ⟨k', v', hlookup, hv'⟩
    by_cases hk : k' = k
    · subst hk
      cases h.symm.trans hlookup
      exact .inl hv'
    · exact .inr ⟨k', v', hk, hlookup, hv'⟩
  · rintro (hv | ⟨k', v', -, hlookup, hv'⟩)
    · exact ⟨k, v, h, hv⟩
    · exact ⟨k', v', hlookup, hv'⟩

theorem has_iff_of_lookup_eq_none (h : s.lookup k = none) : s.Has P ↔ s.HasElse P k := by
  constructor
  · rintro ⟨k', v', hlookup, hv'⟩
    refine ⟨k', v', ?_, hlookup, hv'⟩
    rintro rfl
    rw [h] at hlookup
    cases hlookup
  · rintro ⟨k', v', -, hlookup, hv'⟩
    exact ⟨k', v', hlookup, hv'⟩

theorem hasElse_insert : (s.insert k v).HasElse P k ↔ s.HasElse P k := by
  constructor
  · rintro ⟨k', v', hk, hlookup, hv'⟩
    rw [lookup_insert_ne hk] at hlookup
    exact ⟨k', v', hk, hlookup, hv'⟩
  · rintro ⟨k', v', hk, hlookup, hv'⟩
    exact ⟨k', v', hk, (lookup_insert_ne hk).trans hlookup, hv'⟩

theorem has_insert : (s.insert k v).Has P ↔ P v ∨ s.HasElse P k := by
  rw [has_iff_of_lookup (lookup_insert s), hasElse_insert]

theorem has_insert_of_lookup {w : β} (h : s.lookup k = some w) (hvw : P v ↔ P w) :
    (s.insert k v).Has P ↔ s.Has P := by
  rw [has_insert, has_iff_of_lookup h, hvw]

theorem has_mapValues {Q : γ → Prop} {f : β → γ} :
    (s.mapValues f).Has Q ↔ s.Has fun v => Q (f v) := by
  constructor
  · rintro ⟨k, w, hlookup, hw⟩
    rw [lookup_mapValues] at hlookup
    obtain ⟨v, hv, rfl⟩ := Option.map_eq_some_iff.mp hlookup
    exact ⟨k, v, hv, hw⟩
  · rintro ⟨k, v, hlookup, hv⟩
    exact ⟨k, f v, by rw [lookup_mapValues, hlookup, Option.map_some], hv⟩

theorem any_entries {p : β → Bool} :
    (s.entries.any fun entry => p entry.2) = true ↔ s.Has fun v => p v = true := by
  rw [List.any_eq_true]
  constructor
  · rintro ⟨⟨k, v⟩, hentry, hv⟩
    exact ⟨k, v, mem_lookup_iff.mpr hentry, hv⟩
  · rintro ⟨k, v, hlookup, hv⟩
    exact ⟨⟨k, v⟩, mem_lookup_iff.mp hlookup, hv⟩

end AList
