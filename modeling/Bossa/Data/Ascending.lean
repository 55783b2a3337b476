import Mathlib.Data.List.Sort

/-!
# Entries under ascending keys

A list whose entries stand in the order of their keys, and a mark that no key exceeds.
New entries are appended under keys above the mark, old ones may leave anywhere. An entry
with a key up to the mark of before has therefore been in the list all the time, and
the entries that stay keep their order.
-/

namespace Ascending

variable {ρ κ : Type*} [LinearOrder κ] {key : ρ → κ}

/-- The entries stand in the order of their keys. -/
def Sorted (key : ρ → κ) (entries : List ρ) : Prop :=
  entries.Pairwise fun r s => key r < key s

theorem Sorted.nodup {entries : List ρ} (h : Sorted key entries) : entries.Nodup :=
  h.imp fun hlt heq => (heq ▸ hlt).false

theorem Sorted.sublist_of_subset {entries entries' : List ρ} (h : Sorted key entries)
    (h' : Sorted key entries') (hsubset : entries ⊆ entries') : entries.Sublist entries' := by
  have hasymm : Std.Antisymm fun r s => key r < key s :=
    ⟨fun r s hrs hsr => absurd hsr hrs.asymm⟩
  exact List.sublist_of_subperm_of_pairwise (List.subperm_of_subset h.nodup hsubset) h h'

/-- The list comes from an earlier one by taking entries away and appending entries with
keys above the mark of before. -/
structure Advances (key : ρ → κ) (earlier : List ρ) (mark : κ) (later : List ρ) (mark' : κ) :
    Prop where
  mark_le : mark ≤ mark'
  old : ∀ r ∈ later, key r ≤ mark → r ∈ earlier

namespace Advances

variable {earlier later latest : List ρ} {mark mark' mark'' : κ}

theorem refl (entries : List ρ) (mark : κ) : Advances key entries mark entries mark :=
  ⟨le_rfl, fun _ hr _ => hr⟩

theorem trans (h : Advances key earlier mark later mark')
    (h' : Advances key later mark' latest mark'') : Advances key earlier mark latest mark'' :=
  ⟨h.mark_le.trans h'.mark_le, fun r hr hle => h.old r (h'.old r hr (hle.trans h.mark_le)) hle⟩

theorem of_subset (h : later ⊆ earlier) : Advances key earlier mark later mark :=
  ⟨le_rfl, fun _ hr _ => h hr⟩

theorem of_append {new : List ρ} (hle : mark ≤ mark') (hnew : ∀ r ∈ new, mark < key r) :
    Advances key earlier mark (earlier ++ new) mark' := by
  refine ⟨hle, fun r hr hmark => ?_⟩
  rcases List.mem_append.mp hr with hr | hr
  · exact hr
  · exact absurd hmark (hnew r hr).not_ge

theorem sublist (h : Advances key earlier mark later mark') (hearlier : Sorted key earlier)
    (hlater : Sorted key later) : (later.filter fun r => key r ≤ mark).Sublist earlier := by
  refine Sorted.sublist_of_subset (List.Pairwise.sublist List.filter_sublist hlater) hearlier
    fun r hr => ?_
  obtain ⟨hr, hle⟩ := List.mem_filter.mp hr
  exact h.old r hr (of_decide_eq_true hle)

end Advances

end Ascending
