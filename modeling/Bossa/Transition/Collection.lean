import Mathlib.Data.List.AList
import Mathlib.Order.Basic
import Bossa.Transition.Run

/-!
# Collections of objects

A collection holds objects under keys and numbers them in the order of their creation. The
events of all of them stand in one trace, with the number of the object. When every call moves
one object along the relation that its life has to follow, the events of each object alone are
a run of that relation, from its creation to its destruction.
-/

/-- The objects that are held under keys, and the number of objects created so far. -/
structure Collection (κ δ : Type*) [DecidableEq κ] where
  objects : AList fun _ : κ => ℕ × δ
  created : ℕ

namespace Collection

variable {κ δ σ ι : Type*} [DecidableEq κ] {n m : ℕ} {k : κ} {d : δ} {phase : σ}
  {events : List ι} {trace trace' : List (ℕ × ι)}

def tag (n : ℕ) (events : List ι) : List (ℕ × ι) := events.map (Prod.mk n)

def eventsOf (n : ℕ) (trace : List (ℕ × ι)) : List ι :=
  trace.filterMap fun e => if e.1 = n then some e.2 else none

@[simp] theorem eventsOf_append :
    eventsOf n (trace ++ trace') = eventsOf n trace ++ eventsOf n trace' :=
  List.filterMap_append

@[simp] theorem eventsOf_tag_self : eventsOf n (tag n events) = events := by
  induction events with
  | nil => rfl
  | cons e events ih => simp [eventsOf, tag]

theorem eventsOf_tag_of_ne (h : m ≠ n) : eventsOf n (tag m events) = [] := by
  induction events with
  | nil => rfl
  | cons e events ih => simp [eventsOf, tag, h]

def numbers (c : Collection κ δ) : List ℕ := c.objects.entries.map fun e => e.2.1

def destroyAll (destroy : δ → List ι) (c : Collection κ δ) : List (ℕ × ι) :=
  c.objects.entries.flatMap fun e => tag e.2.1 (destroy e.2.2)

def keep (k : κ) (d : δ) (c : Collection κ δ) : Collection κ δ :=
  ⟨c.objects.insert k (c.created, d), c.created + 1⟩

def drop (c : Collection κ δ) : Collection κ δ := ⟨c.objects, c.created + 1⟩

/-- The collection without objects. -/
def clear (c : Collection κ δ) : Collection κ δ := ⟨∅, c.created⟩

/-- Each object has had the life that it should have had so far: one that is held is between
two calls, one that was dropped has come to its end. -/
structure Tracks (step : σ → ι → σ → Prop) (absent gone : σ) (between : δ → σ → Prop)
    (trace : List (ℕ × ι)) (c : Collection κ δ) : Prop where
  nodup : c.numbers.Nodup
  bounded : ∀ n ∈ c.numbers, n < c.created
  held : ∀ e ∈ c.objects.entries, ∃ phase, between e.2.2 phase ∧
    Transition.Run step absent (eventsOf e.2.1 trace) phase
  dropped : ∀ n < c.created, n ∉ c.numbers →
    Transition.Run step absent (eventsOf n trace) gone
  fresh : ∀ n, c.created ≤ n → eventsOf n trace = []

variable {step : σ → ι → σ → Prop} {absent gone : σ} {between : δ → σ → Prop}
  {destroy : δ → List ι} {c : Collection κ δ}

theorem mem_numbers {e : Sigma fun _ : κ => ℕ × δ} (he : e ∈ c.objects.entries) :
    e.2.1 ∈ c.numbers :=
  List.mem_map_of_mem he

theorem numbers_keep (hk : k ∉ c.objects) : (c.keep k d).numbers = c.created :: c.numbers := by
  simp only [numbers, keep]
  rw [AList.entries_insert_of_notMem hk, List.map_cons]

namespace Tracks

theorem new : Tracks step absent gone between [] (⟨∅, 0⟩ : Collection κ δ) where
  nodup := List.nodup_nil
  bounded := fun _ hn => nomatch hn
  held := fun _ he => nomatch he
  dropped := fun _ hn => absurd hn (Nat.not_lt_zero _)
  fresh := fun _ _ => rfl

theorem keep (h : c.Tracks step absent gone between trace) (hk : k ∉ c.objects)
    (hrun : Transition.Run step absent events phase) (hphase : between d phase) :
    (c.keep k d).Tracks step absent gone between (trace ++ tag c.created events) where
  nodup := by
    rw [numbers_keep hk, List.nodup_cons]
    exact ⟨fun hmem => lt_irrefl _ (h.bounded _ hmem), h.nodup⟩
  bounded := fun n hn => by
    rw [numbers_keep hk, List.mem_cons] at hn
    rcases hn with rfl | hn
    · exact Nat.lt_succ_self _
    · exact (h.bounded n hn).trans (Nat.lt_succ_self _)
  held := fun e he => by
    simp only [Collection.keep] at he
    rw [AList.entries_insert_of_notMem hk, List.mem_cons] at he
    rcases he with rfl | he
    · refine ⟨phase, hphase, ?_⟩
      rwa [eventsOf_append, h.fresh _ le_rfl, eventsOf_tag_self]
    · have hne : c.created ≠ e.2.1 := fun heq =>
        lt_irrefl _ (heq ▸ h.bounded _ (mem_numbers he))
      rw [eventsOf_append, eventsOf_tag_of_ne hne, List.append_nil]
      exact h.held e he
  dropped := fun n hn hmem => by
    rw [numbers_keep hk, List.mem_cons, not_or] at hmem
    have hlt : n < c.created := lt_of_le_of_ne (Nat.lt_succ_iff.mp hn) hmem.1
    rw [eventsOf_append, eventsOf_tag_of_ne (Ne.symm hmem.1), List.append_nil]
    exact h.dropped n hlt hmem.2
  fresh := fun n hn => by
    have hlt : c.created < n := hn
    rw [eventsOf_append, h.fresh n hlt.le, eventsOf_tag_of_ne hlt.ne]
    rfl

theorem drop (h : c.Tracks step absent gone between trace)
    (hrun : Transition.Run step absent events gone) :
    c.drop.Tracks step absent gone between (trace ++ tag c.created events) where
  nodup := h.nodup
  bounded := fun n hn => (h.bounded n hn).trans (Nat.lt_succ_self _)
  held := fun e he => by
    have hne : c.created ≠ e.2.1 := fun heq =>
      lt_irrefl _ (heq ▸ h.bounded _ (mem_numbers he))
    rw [eventsOf_append, eventsOf_tag_of_ne hne, List.append_nil]
    exact h.held e he
  dropped := fun n hn hmem => by
    by_cases hnew : n = c.created
    · rwa [hnew, eventsOf_append, h.fresh _ le_rfl, eventsOf_tag_self]
    · have hlt : n < c.created := lt_of_le_of_ne (Nat.lt_succ_iff.mp hn) hnew
      rw [eventsOf_append, eventsOf_tag_of_ne (Ne.symm hnew), List.append_nil]
      exact h.dropped n hlt hmem
  fresh := fun n hn => by
    have hlt : c.created < n := hn
    rw [eventsOf_append, h.fresh n hlt.le, eventsOf_tag_of_ne hlt.ne]
    rfl

theorem call (h : c.Tracks step absent gone between trace)
    (hlookup : c.objects.lookup k = some (n, d))
    (hrun : ∀ phase, between d phase → Transition.Run step phase events phase) :
    c.Tracks step absent gone between (trace ++ tag n events) where
  nodup := h.nodup
  bounded := h.bounded
  held := fun e he => by
    by_cases hne : n = e.2.1
    · have hentry : (⟨k, n, d⟩ : Sigma fun _ : κ => ℕ × δ) ∈ c.objects.entries :=
        AList.mem_lookup_iff.mp hlookup
      have heq : e = ⟨k, n, d⟩ :=
        List.inj_on_of_nodup_map h.nodup he hentry hne.symm
      subst heq
      obtain ⟨phase, hphase, hbefore⟩ := h.held _ he
      refine ⟨phase, hphase, ?_⟩
      rw [eventsOf_append, eventsOf_tag_self]
      exact hbefore.append (hrun phase hphase)
    · rw [eventsOf_append, eventsOf_tag_of_ne hne, List.append_nil]
      exact h.held e he
  dropped := fun m hm hmem => by
    have hentry : (⟨k, n, d⟩ : Sigma fun _ : κ => ℕ × δ) ∈ c.objects.entries :=
      AList.mem_lookup_iff.mp hlookup
    have hne : n ≠ m := fun heq => hmem (heq ▸ mem_numbers hentry)
    rw [eventsOf_append, eventsOf_tag_of_ne hne, List.append_nil]
    exact h.dropped m hm hmem
  fresh := fun m hm => by
    have hentry : (⟨k, n, d⟩ : Sigma fun _ : κ => ℕ × δ) ∈ c.objects.entries :=
      AList.mem_lookup_iff.mp hlookup
    have hne : n ≠ m := ((h.bounded _ (mem_numbers hentry)).trans_le hm).ne
    rw [eventsOf_append, h.fresh m hm, eventsOf_tag_of_ne hne]
    rfl

end Tracks

omit [DecidableEq κ] in
theorem eventsOf_flatMap_of_notMem :
    ∀ {entries : List (Sigma fun _ : κ => ℕ × δ)}, (∀ e ∈ entries, e.2.1 ≠ n) →
      eventsOf n (entries.flatMap fun e => tag e.2.1 (destroy e.2.2)) = []
  | [], _ => rfl
  | e :: entries, h => by
      rw [List.flatMap_cons, eventsOf_append, eventsOf_tag_of_ne (h e List.mem_cons_self),
        eventsOf_flatMap_of_notMem fun e' he' => h e' (List.mem_cons_of_mem _ he')]
      rfl

omit [DecidableEq κ] in
theorem eventsOf_flatMap_of_mem :
    ∀ {entries : List (Sigma fun _ : κ => ℕ × δ)}, (entries.map fun e => e.2.1).Nodup →
      ∀ e ∈ entries,
        eventsOf e.2.1 (entries.flatMap fun e => tag e.2.1 (destroy e.2.2)) = destroy e.2.2
  | [], _, _, he => nomatch he
  | e :: entries, hnodup, e', he' => by
      rw [List.map_cons, List.nodup_cons] at hnodup
      rw [List.flatMap_cons, eventsOf_append]
      rcases List.mem_cons.mp he' with rfl | he'
      · rw [eventsOf_tag_self, eventsOf_flatMap_of_notMem, List.append_nil]
        exact fun e he heq => hnodup.1 (heq ▸ List.mem_map_of_mem he)
      · have hne : e.2.1 ≠ e'.2.1 := fun heq => hnodup.1 (heq ▸ List.mem_map_of_mem he')
        rw [eventsOf_tag_of_ne hne, List.nil_append]
        exact eventsOf_flatMap_of_mem hnodup.2 e' he'

/-- When all objects are destroyed, each has come to its end. -/
theorem Tracks.clear (h : c.Tracks step absent gone between trace)
    (hdestroy : ∀ d phase, between d phase → Transition.Run step phase (destroy d) gone) :
    c.clear.Tracks step absent gone between (trace ++ c.destroyAll destroy) where
  nodup := List.nodup_nil
  bounded := fun _ hn => nomatch hn
  held := fun _ he => nomatch he
  dropped := fun n hn _ => by
    rw [eventsOf_append]
    by_cases hmem : n ∈ c.numbers
    · obtain ⟨e, he, rfl⟩ := List.mem_map.mp hmem
      obtain ⟨phase, hphase, hbefore⟩ := h.held e he
      rw [destroyAll, eventsOf_flatMap_of_mem h.nodup e he]
      exact hbefore.append (hdestroy e.2.2 phase hphase)
    · have hne : ∀ e ∈ c.objects.entries, e.2.1 ≠ n := by
        rintro e he rfl
        exact hmem (mem_numbers he)
      rw [destroyAll, eventsOf_flatMap_of_notMem hne, List.append_nil]
      exact h.dropped n hn hmem
  fresh := fun n hn => by
    have hmem : ∀ e ∈ c.objects.entries, e.2.1 ≠ n := fun e he =>
      ((h.bounded _ (mem_numbers he)).trans_le hn).ne
    rw [eventsOf_append, h.fresh n hn, destroyAll, eventsOf_flatMap_of_notMem hmem]
    rfl

end Collection
