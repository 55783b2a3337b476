import Mathlib.Data.List.Nodup
import Mathlib.Data.List.Pairwise

/-!
# Tables with a primary key

A table is the list of its rows in the order of insertion; its key is given by a
function on rows, and no two rows have the same key. `insertNew` is an insertion
that does nothing on a conflict, so the first row of a key stays.

Where the key may be null, rows with a null key do not conflict. `upsert` is an insertion
into such a table that updates the conflicting row.
-/

/-- A table whose rows differ in their keys. -/
structure Keyed {α κ : Type*} (key : α → κ) where
  rows : List α
  unique : (rows.map key).Nodup

namespace Keyed

variable {α κ : Type*} {key : α → κ}

def empty : Keyed key := ⟨[], .nil⟩

instance : Inhabited (Keyed key) := ⟨empty⟩

def keys (t : Keyed key) : List κ := t.rows.map key

theorem eq_of_rows_eq {t t' : Keyed key} (h : t.rows = t'.rows) : t = t' := by
  cases t
  cases t'
  cases h
  rfl

theorem mem_keys {t : Keyed key} {k : κ} : k ∈ t.keys ↔ ∃ r ∈ t.rows, key r = k :=
  List.mem_map

def append (t : Keyed key) (row : α) (h : key row ∉ t.keys) : Keyed key where
  rows := t.rows ++ [row]
  unique := by
    rw [List.map_append, List.nodup_append]
    refine ⟨t.unique, List.nodup_singleton _, ?_⟩
    intro k hk k' hk' heq
    rw [List.map_singleton, List.mem_singleton] at hk'
    exact h (hk' ▸ heq ▸ hk)

variable [DecidableEq κ]

def insertNew (t : Keyed key) (row : α) : Keyed key :=
  if h : key row ∈ t.keys then t else t.append row h

def insertAll (t : Keyed key) (rows : List α) : Keyed key := rows.foldl insertNew t

@[simp] theorem insertAll_nil (t : Keyed key) : t.insertAll [] = t := rfl

@[simp] theorem insertAll_cons (t : Keyed key) (row : α) (rows : List α) :
    t.insertAll (row :: rows) = (t.insertNew row).insertAll rows := rfl

theorem insertNew_of_mem {t : Keyed key} {row : α} (h : key row ∈ t.keys) :
    t.insertNew row = t :=
  dif_pos h

theorem insertNew_of_notMem {t : Keyed key} {row : α} (h : key row ∉ t.keys) :
    t.insertNew row = t.append row h :=
  dif_neg h

theorem rows_prefix_insertNew (t : Keyed key) (row : α) :
    t.rows <+: (t.insertNew row).rows := by
  by_cases h : key row ∈ t.keys
  · simp only [insertNew_of_mem h, List.prefix_rfl]
  · rw [insertNew_of_notMem h]
    exact List.prefix_append _ _

theorem rows_prefix_insertAll :
    ∀ (rows : List α) (t : Keyed key), t.rows <+: (t.insertAll rows).rows
  | [], _ => List.prefix_rfl
  | row :: rows, t => (t.rows_prefix_insertNew row).trans (rows_prefix_insertAll rows _)

theorem key_mem_insertNew (t : Keyed key) (row : α) : key row ∈ (t.insertNew row).keys := by
  by_cases h : key row ∈ t.keys
  · rwa [insertNew_of_mem h]
  · rw [insertNew_of_notMem h]
    exact mem_keys.mpr ⟨row, List.mem_append_right _ (List.mem_singleton_self _), rfl⟩

theorem keys_subset_insertAll (t : Keyed key) (rows : List α) :
    t.keys ⊆ (t.insertAll rows).keys :=
  ((t.rows_prefix_insertAll rows).map key).subset

theorem key_mem_insertAll :
    ∀ {rows : List α} (t : Keyed key) {row : α}, row ∈ rows →
      key row ∈ (t.insertAll rows).keys
  | r :: rows, t, row, hrow => by
      rcases List.mem_cons.mp hrow with rfl | hrow
      · exact keys_subset_insertAll _ rows (t.key_mem_insertNew row)
      · exact key_mem_insertAll (t.insertNew r) hrow

theorem mem_insertNew {t : Keyed key} {row r : α} (hr : r ∈ (t.insertNew row).rows) :
    r ∈ t.rows ∨ r = row := by
  by_cases h : key row ∈ t.keys
  · exact .inl (insertNew_of_mem h ▸ hr)
  · rw [insertNew_of_notMem h] at hr
    rcases List.mem_append.mp hr with hr | hr
    · exact .inl hr
    · exact .inr (List.mem_singleton.mp hr)

theorem mem_insertAll :
    ∀ {rows : List α} {t : Keyed key} {r : α}, r ∈ (t.insertAll rows).rows →
      r ∈ t.rows ∨ r ∈ rows
  | [], _, _, hr => .inl hr
  | row :: rows, t, r, hr => by
      rw [insertAll_cons] at hr
      rcases mem_insertAll hr with hfirst | hlater
      · rcases mem_insertNew hfirst with hold | rfl
        · exact .inl hold
        · exact .inr List.mem_cons_self
      · exact .inr (List.mem_cons_of_mem _ hlater)

theorem mem_keys_insertAll {rows : List α} {t : Keyed key} {k : κ} :
    k ∈ (t.insertAll rows).keys ↔ k ∈ t.keys ∨ ∃ r ∈ rows, key r = k := by
  constructor
  · intro hk
    obtain ⟨r, hr, rfl⟩ := mem_keys.mp hk
    rcases mem_insertAll hr with hold | hnew
    · exact .inl (mem_keys.mpr ⟨r, hold, rfl⟩)
    · exact .inr ⟨r, hnew, rfl⟩
  · rintro (hk | ⟨r, hr, rfl⟩)
    · exact keys_subset_insertAll t rows hk
    · exact key_mem_insertAll t hr

theorem insertAll_append (t : Keyed key) (rows rows' : List α) :
    t.insertAll (rows ++ rows') = (t.insertAll rows).insertAll rows' := by
  rw [insertAll, List.foldl_append]
  rfl

def find? (t : Keyed key) (k : κ) : Option α := t.rows.find? fun r => key r = k

theorem find?_eq_none_iff {t : Keyed key} {k : κ} : t.find? k = none ↔ k ∉ t.keys := by
  simp [find?, mem_keys]

theorem find?_insertNew (t : Keyed key) (row : α) (k : κ) :
    (t.insertNew row).find? k = (t.find? k).or (if key row = k then some row else none) := by
  by_cases h : key row ∈ t.keys
  · rw [insertNew_of_mem h]
    split
    · next hkey =>
        have hfound : t.find? k ≠ none := fun hnone => find?_eq_none_iff.mp hnone (hkey ▸ h)
        obtain ⟨r, hr⟩ := Option.ne_none_iff_exists'.mp hfound
        rw [hr, Option.some_or]
    · rw [Option.or_none]
  · rw [insertNew_of_notMem h]
    change (t.rows ++ [row]).find? _ = _
    rw [List.find?_append]
    by_cases hkey : key row = k
    · simp [find?, hkey]
    · simp [find?, hkey]

theorem find?_insertAll (k : κ) :
    ∀ (rows : List α) (t : Keyed key),
      (t.insertAll rows).find? k = (t.find? k).or (rows.find? fun r => key r = k)
  | [], t => by simp
  | row :: rows, t => by
      rw [insertAll_cons, find?_insertAll k rows, find?_insertNew, Option.or_assoc]
      by_cases hkey : key row = k
      · simp [hkey]
      · simp [hkey]

def restrict (p : κ → Bool) (t : Keyed key) : Keyed key where
  rows := t.rows.filter fun r => p (key r)
  unique := t.unique.sublist (List.filter_sublist.map key)

theorem restrict_insertNew (p : κ → Bool) (t : Keyed key) (row : α) :
    (t.insertNew row).restrict p =
      if p (key row) then (t.restrict p).insertNew row else t.restrict p := by
  have hkeys : p (key row) = true → (key row ∈ (t.restrict p).keys ↔ key row ∈ t.keys) := by
    intro hp
    simp only [mem_keys, restrict, List.mem_filter]
    constructor
    · rintro ⟨r, ⟨hr, -⟩, hkey⟩
      exact ⟨r, hr, hkey⟩
    · rintro ⟨r, hr, hkey⟩
      exact ⟨r, ⟨hr, by rwa [hkey]⟩, hkey⟩
  by_cases h : key row ∈ t.keys
  · rw [insertNew_of_mem h]
    split
    · next hp => rw [insertNew_of_mem ((hkeys hp).mpr h)]
    · rfl
  · rw [insertNew_of_notMem h]
    split
    · next hp =>
        rw [insertNew_of_notMem fun hmem => h ((hkeys hp).mp hmem)]
        simp [restrict, append, hp]
    · next hp => simp [restrict, append, hp]

theorem restrict_insertAll (p : κ → Bool) :
    ∀ (rows : List α) (t : Keyed key),
      (t.insertAll rows).restrict p =
        (t.restrict p).insertAll (rows.filter fun r => p (key r))
  | [], _ => rfl
  | row :: rows, t => by
      rw [insertAll_cons, restrict_insertAll p rows, restrict_insertNew]
      by_cases hp : p (key row) = true
      · rw [if_pos hp, List.filter_cons_of_pos (p := fun r => p (key r)) hp, insertAll_cons]
      · rw [if_neg hp, List.filter_cons_of_neg (p := fun r => p (key r)) hp]

end Keyed

/-- A table whose rows differ in their keys, except for rows whose keys are null. -/
structure NullKeyed {α κ : Type*} (null : κ) (key : α → κ) where
  rows : List α
  unique : rows.Pairwise fun r r' => key r = key r' → key r = null

namespace NullKeyed

variable {α κ : Type*} {null : κ} {key : α → κ}

def empty : NullKeyed null key := ⟨[], .nil⟩

def keys (t : NullKeyed null key) : List κ := t.rows.map key

theorem eq_of_rows_eq {t t' : NullKeyed null key} (h : t.rows = t'.rows) : t = t' := by
  cases t
  cases t'
  cases h
  rfl

theorem mem_keys {t : NullKeyed null key} {k : κ} : k ∈ t.keys ↔ ∃ r ∈ t.rows, key r = k :=
  List.mem_map

theorem eq_of_key_eq (t : NullKeyed null key) {r r' : α} (hr : r ∈ t.rows) (hr' : r' ∈ t.rows)
    (hkey : key r = key r') (hnull : key r ≠ null) : r = r' := by
  by_contra hne
  have hsymm : Std.Symm fun r r' => key r = key r' → key r = null :=
    ⟨fun _ _ h hkey => hkey.trans (h hkey.symm)⟩
  exact hnull (t.unique.forall hr hr' hne hkey)

def append (t : NullKeyed null key) (row : α) (h : key row ≠ null → key row ∉ t.keys) :
    NullKeyed null key where
  rows := t.rows ++ [row]
  unique := by
    refine List.pairwise_append.mpr ⟨t.unique, List.pairwise_singleton _ _, ?_⟩
    intro r hr r' hr' hkey
    rw [List.mem_singleton.mp hr'] at hkey
    by_contra hnull
    exact h (hkey ▸ hnull) (mem_keys.mpr ⟨r, hr, hkey⟩)

variable [DecidableEq κ]

/-- Insertion that updates the conflicting row. -/
def upsert (t : NullKeyed null key) (row : α) (update : α → α)
    (hupdate : ∀ r, key (update r) = key r) : NullKeyed null key :=
  if h : key row ≠ null → key row ∉ t.keys then t.append row h
  else
    { rows := t.rows.map fun r => if key r = key row then update r else r
      unique := by
        have hkey : ∀ r, key (if key r = key row then update r else r) = key r := by
          intro r
          split
          · exact hupdate r
          · rfl
        refine List.pairwise_map.mpr (t.unique.imp fun {r r'} hunique => ?_)
        rwa [hkey, hkey] }

theorem upsert_cases (t : NullKeyed null key) (row : α) (update : α → α)
    (hupdate : ∀ r, key (update r) = key r) :
    ((key row ≠ null → key row ∉ t.keys) ∧
        (t.upsert row update hupdate).rows = t.rows ++ [row]) ∨
      ((key row ≠ null ∧ key row ∈ t.keys) ∧ (t.upsert row update hupdate).rows =
        t.rows.map fun r => if key r = key row then update r else r) := by
  by_cases h : key row ≠ null → key row ∉ t.keys
  · exact .inl ⟨h, by rw [upsert, dif_pos h]; rfl⟩
  · refine .inr ⟨?_, by rw [upsert, dif_neg h]⟩
    push Not at h
    exact h

theorem key_mem_upsert (t : NullKeyed null key) (row : α) (update : α → α)
    (hupdate : ∀ r, key (update r) = key r) :
    key row ∈ (t.upsert row update hupdate).keys := by
  rcases t.upsert_cases row update hupdate with ⟨-, hrows⟩ | ⟨⟨-, h⟩, hrows⟩
  · rw [mem_keys, hrows]
    exact ⟨row, List.mem_append_right _ (List.mem_singleton_self _), rfl⟩
  · obtain ⟨r, hr, hkey⟩ := mem_keys.mp h
    rw [mem_keys, hrows]
    refine ⟨update r, List.mem_map.mpr ⟨r, hr, if_pos hkey⟩, ?_⟩
    rw [hupdate, hkey]

theorem mem_upsert (t : NullKeyed null key) (row : α) (update : α → α)
    (hupdate : ∀ r, key (update r) = key r) {r : α}
    (hr : r ∈ (t.upsert row update hupdate).rows) :
    r = row ∨ ∃ r' ∈ t.rows, r = update r' ∨ r = r' := by
  rcases t.upsert_cases row update hupdate with ⟨-, hrows⟩ | ⟨-, hrows⟩
  · rw [hrows] at hr
    rcases List.mem_append.mp hr with hr | hr
    · exact .inr ⟨r, hr, .inr rfl⟩
    · exact .inl (List.mem_singleton.mp hr)
  · rw [hrows] at hr
    obtain ⟨r', hr', rfl⟩ := List.mem_map.mp hr
    refine .inr ⟨r', hr', ?_⟩
    split
    · exact .inl rfl
    · exact .inr rfl

theorem mem_keys_upsert (t : NullKeyed null key) (row : α) (update : α → α)
    (hupdate : ∀ r, key (update r) = key r) {k : κ} :
    k ∈ (t.upsert row update hupdate).keys ↔ k = key row ∨ k ∈ t.keys := by
  constructor
  · intro hk
    obtain ⟨r, hr, rfl⟩ := mem_keys.mp hk
    rcases t.mem_upsert row update hupdate hr with rfl | ⟨r', hr', rfl | rfl⟩
    · exact .inl rfl
    · exact .inr (mem_keys.mpr ⟨r', hr', (hupdate r').symm⟩)
    · exact .inr (mem_keys.mpr ⟨r, hr', rfl⟩)
  · rintro (rfl | hk)
    · exact t.key_mem_upsert row update hupdate
    · obtain ⟨r, hr, rfl⟩ := mem_keys.mp hk
      rcases t.upsert_cases row update hupdate with ⟨-, hrows⟩ | ⟨-, hrows⟩
      · rw [mem_keys, hrows]
        exact ⟨r, List.mem_append_left _ hr, rfl⟩
      · rw [mem_keys, hrows]
        refine ⟨_, List.mem_map_of_mem hr, ?_⟩
        split
        · exact hupdate r
        · rfl

/-- An upsert changes nothing exactly when its key is not null and it finds a row that the
update leaves as it is. -/
theorem upsert_eq_self_iff {t : NullKeyed null key} {row : α} {update : α → α}
    {hupdate : ∀ r, key (update r) = key r} :
    t.upsert row update hupdate = t ↔
      key row ≠ null ∧ ∃ r ∈ t.rows, key r = key row ∧ update r = r := by
  rcases t.upsert_cases row update hupdate with ⟨h, hrows⟩ | ⟨⟨hnull, h⟩, hrows⟩
  · constructor
    · intro heq
      rw [heq] at hrows
      simp at hrows
    · rintro ⟨hnull, r, hr, hkey, -⟩
      exact absurd (mem_keys.mpr ⟨r, hr, hkey⟩) (h hnull)
  · obtain ⟨r, hr, hkey⟩ := mem_keys.mp h
    constructor
    · intro heq
      rw [heq] at hrows
      have hsame := List.map_inj_left.mp (hrows.symm.trans (List.map_id _).symm) r hr
      exact ⟨hnull, r, hr, hkey, by rwa [if_pos hkey] at hsame⟩
    · rintro ⟨-, r', hr', hkey', hsame⟩
      refine eq_of_rows_eq (hrows.trans
        ((List.map_congr_left fun s hs => ?_).trans (List.map_id _)))
      split
      · next hs' =>
          -- no other row has that key
          have heq : s = r' :=
            t.eq_of_key_eq hs hr' (hs'.trans hkey'.symm) fun hs => hnull (hs'.symm.trans hs)
          rw [heq, hsame, id]
      · rfl

end NullKeyed
