import Mathlib.Algebra.BigOperators.Group.Multiset.Basic
import Mathlib.Algebra.BigOperators.Group.Finset.Piecewise
import Mathlib.Algebra.Order.BigOperators.Group.Finset
import Mathlib.Data.Fintype.Defs
import Mathlib.Data.Multiset.Count

/-!
# Ledgers

A ledger says which items each of a finite number of places holds. Items enter
at a place, move from one place to another, or are looked at; what an entry moves
or looks at must be there. Over any list of entries every place holds what it
held before plus what came in minus what went out, and all places together hold
what they held before plus what entered. When no item occurs twice, it is in one
place only, and while it stays there no entry finds it elsewhere.
-/

open Finset

abbrev Ledger (π α : Type*) := π → Multiset α

namespace Ledger

/-- Items enter at a place, move from one place to another, or are looked at. -/
inductive Entry (π α : Type*) where
  | deposit (place : π) (items : Multiset α)
  | transfer (source target : π) (items : Multiset α)
  | inspect (place : π) (items : Multiset α)

variable {π α : Type*}

namespace Entry

def entering : Entry π α → Multiset α
  | deposit _ items => items
  | transfer _ _ _ => 0
  | inspect _ _ => 0

/-- The sum of what a list of entries adds to the ledger. -/
def totalEntering (es : List (Entry π α)) : Multiset α :=
  (es.map entering).sum

@[simp] theorem totalEntering_nil : totalEntering ([] : List (Entry π α)) = 0 := rfl

@[simp] theorem totalEntering_cons (e : Entry π α) (es : List (Entry π α)) :
    totalEntering (e :: es) = e.entering + totalEntering es := by
  simp [totalEntering]

@[simp] theorem totalEntering_append (es fs : List (Entry π α)) :
    totalEntering (es ++ fs) = totalEntering es + totalEntering fs := by
  simp [totalEntering]

variable [DecidableEq π]

def inflow (p : π) : Entry π α → Multiset α
  | deposit place items => if place = p then items else 0
  | transfer _ target items => if target = p then items else 0
  | inspect _ _ => 0

def outflow (p : π) : Entry π α → Multiset α
  | deposit _ _ => 0
  | transfer source _ items => if source = p then items else 0
  | inspect _ _ => 0

def required (p : π) : Entry π α → Multiset α
  | deposit _ _ => 0
  | transfer source _ items => if source = p then items else 0
  | inspect place items => if place = p then items else 0

/-- The sum of what a list of entries brings to a place. -/
def totalInflow (p : π) (es : List (Entry π α)) : Multiset α :=
  (es.map (inflow p)).sum

/-- The sum of what a list of entries takes from a place. -/
def totalOutflow (p : π) (es : List (Entry π α)) : Multiset α :=
  (es.map (outflow p)).sum

@[simp] theorem totalInflow_nil (p : π) : totalInflow p ([] : List (Entry π α)) = 0 := rfl

@[simp] theorem totalOutflow_nil (p : π) :
    totalOutflow p ([] : List (Entry π α)) = 0 := rfl

@[simp] theorem totalInflow_cons (p : π) (e : Entry π α) (es : List (Entry π α)) :
    totalInflow p (e :: es) = e.inflow p + totalInflow p es := by
  simp [totalInflow]

@[simp] theorem totalOutflow_cons (p : π) (e : Entry π α) (es : List (Entry π α)) :
    totalOutflow p (e :: es) = e.outflow p + totalOutflow p es := by
  simp [totalOutflow]

@[simp] theorem totalInflow_append (p : π) (es fs : List (Entry π α)) :
    totalInflow p (es ++ fs) = totalInflow p es + totalInflow p fs := by
  simp [totalInflow]

@[simp] theorem totalOutflow_append (p : π) (es fs : List (Entry π α)) :
    totalOutflow p (es ++ fs) = totalOutflow p es + totalOutflow p fs := by
  simp [totalOutflow]

theorem inflow_sum [Fintype π] (e : Entry π α) :
    ∑ p, e.inflow p = ∑ p, e.outflow p + e.entering := by
  cases e with
  | deposit place items => simp [inflow, outflow, entering]
  | transfer source target items => simp [inflow, outflow, entering]
  | inspect place items => simp [inflow, outflow, entering]

theorem outflow_le_required (p : π) (e : Entry π α) : e.outflow p ≤ e.required p := by
  cases e with
  | deposit place items => exact le_rfl
  | transfer source target items => exact le_rfl
  | inspect place items => exact Multiset.zero_le _

end Entry

section Holdings

variable [Fintype π] {h : Ledger π α} {a : α}

theorem mem_sum_iff : a ∈ ∑ p, h p ↔ ∃ p, a ∈ h p := by
  simp [Multiset.mem_sum]

theorem nodup_place (hnodup : (∑ p, h p).Nodup) (p : π) : (h p).Nodup :=
  Multiset.nodup_of_le (single_le_sum (fun _ _ => Multiset.zero_le _) (mem_univ p)) hnodup

variable [DecidableEq π] [DecidableEq α]

theorem eq_of_mem (hnodup : (∑ p, h p).Nodup) {p q : π} (hp : a ∈ h p) (hq : a ∈ h q) :
    p = q := by
  by_contra hne
  have hcount : (∑ r, h r).count a ≤ 1 := Multiset.nodup_iff_count_le_one.mp hnodup a
  have hpair : ∑ r ∈ {p, q}, (h r).count a ≤ ∑ r, (h r).count a :=
    sum_le_sum_of_subset (subset_univ _)
  rw [sum_pair hne] at hpair
  have hp' := Multiset.one_le_count_iff_mem.mpr hp
  have hq' := Multiset.one_le_count_iff_mem.mpr hq
  rw [Multiset.count_sum'] at hcount
  omega

theorem existsUnique_mem (hnodup : (∑ p, h p).Nodup) (ha : a ∈ ∑ p, h p) :
    ∃! p, a ∈ h p := by
  obtain ⟨p, hp⟩ := mem_sum_iff.mp ha
  exact ⟨p, hp, fun q hq => eq_of_mem hnodup hq hp⟩

end Holdings

variable [DecidableEq π] [DecidableEq α]

def post (h : Ledger π α) (e : Entry π α) : Ledger π α :=
  fun p => h p - e.outflow p + e.inflow p

/-- What the entry must find is there. -/
def Covered (h : Ledger π α) (e : Entry π α) : Prop := ∀ p, e.required p ≤ h p

/-- The ledger after a list of entries, each of which is covered. -/
inductive Posts : Ledger π α → List (Entry π α) → Ledger π α → Prop
  | nil (h : Ledger π α) : Posts h [] h
  | cons {h h' : Ledger π α} {e : Entry π α} {es : List (Entry π α)} (hcovered : Covered h e)
      (hrest : Posts (h.post e) es h') : Posts h (e :: es) h'

theorem Posts.append {h h' h'' : Ledger π α} {es fs : List (Entry π α)}
    (hes : Posts h es h') (hfs : Posts h' fs h'') : Posts h (es ++ fs) h'' := by
  induction hes with
  | nil => exact hfs
  | cons hcovered _ ih => exact .cons hcovered (ih hfs)

theorem Posts.of_append {h h'' : Ledger π α} {es fs : List (Entry π α)}
    (hposts : Posts h (es ++ fs) h'') : ∃ h', Posts h es h' ∧ Posts h' fs h'' := by
  induction es generalizing h with
  | nil => exact ⟨h, .nil h, hposts⟩
  | cons e es ih =>
      cases hposts with
      | cons hcovered hrest =>
          obtain ⟨h', hes, hfs⟩ := ih hrest
          exact ⟨h', .cons hcovered hes, hfs⟩

theorem Posts.single {h h' : Ledger π α} {e : Entry π α} (hcovered : Covered h e)
    (hpost : h.post e = h') : Posts h [e] h' := by
  subst hpost
  exact .cons hcovered (.nil _)

theorem post_deposit (h : Ledger π α) (p : π) (items : Multiset α) :
    h.post (.deposit p items) p = h p + items := by
  simp [post, Entry.inflow, Entry.outflow]

theorem post_deposit_of_ne (h : Ledger π α) {p r : π} (items : Multiset α) (hr : p ≠ r) :
    h.post (.deposit p items) r = h r := by
  simp [post, Entry.inflow, Entry.outflow, hr]

theorem post_transfer_source (h : Ledger π α) {p q : π} (items : Multiset α) (hne : q ≠ p) :
    h.post (.transfer p q items) p = h p - items := by
  simp [post, Entry.inflow, Entry.outflow, hne]

theorem post_transfer_target (h : Ledger π α) {p q : π} (items : Multiset α) (hne : p ≠ q) :
    h.post (.transfer p q items) q = h q + items := by
  simp [post, Entry.inflow, Entry.outflow, hne]

theorem post_transfer_of_ne (h : Ledger π α) {p q r : π} (items : Multiset α) (hp : p ≠ r)
    (hq : q ≠ r) : h.post (.transfer p q items) r = h r := by
  simp [post, Entry.inflow, Entry.outflow, hp, hq]

theorem Posts.deposit (h : Ledger π α) (p : π) (items : Multiset α) :
    Posts h [.deposit p items] (h.post (.deposit p items)) :=
  .single (fun _ => Multiset.zero_le _) rfl

theorem Posts.transfer {h : Ledger π α} {p : π} (q : π) {items : Multiset α}
    (hle : items ≤ h p) : Posts h [.transfer p q items] (h.post (.transfer p q items)) := by
  refine .single (fun r => ?_) rfl
  by_cases hr : p = r
  · subst hr
    simpa [Entry.required] using hle
  · simp [Entry.required, hr]

theorem Posts.inspect {h : Ledger π α} {p : π} {items : Multiset α} (hle : items ≤ h p) :
    Posts h [.inspect p items] h := by
  refine .single (fun r => ?_) (funext fun r => ?_)
  · by_cases hr : p = r
    · subst hr
      simpa [Entry.required] using hle
    · simp [Entry.required, hr]
  · simp [post, Entry.outflow, Entry.inflow]

theorem post_balance {h : Ledger π α} {e : Entry π α} (hcovered : Covered h e) (p : π) :
    h.post e p + e.outflow p = h p + e.inflow p := by
  have hle := (e.outflow_le_required p).trans (hcovered p)
  rw [post, add_right_comm, tsub_add_cancel_of_le hle]

theorem Posts.balance {h h' : Ledger π α} {es : List (Entry π α)} (hes : Posts h es h')
    (p : π) : h' p + Entry.totalOutflow p es = h p + Entry.totalInflow p es := by
  induction hes with
  | nil => rfl
  | @cons h h' e es hcovered _ ih =>
      calc h' p + Entry.totalOutflow p (e :: es)
          = (h' p + Entry.totalOutflow p es) + e.outflow p := by
            rw [Entry.totalOutflow_cons, add_comm (e.outflow p), add_assoc]
        _ = (h.post e p + e.outflow p) + Entry.totalInflow p es := by
            rw [ih, add_right_comm]
        _ = h p + Entry.totalInflow p (e :: es) := by
            rw [post_balance hcovered, Entry.totalInflow_cons, add_assoc]

theorem Posts.sum_eq [Fintype π] {h h' : Ledger π α} {es : List (Entry π α)}
    (hes : Posts h es h') : ∑ p, h' p = ∑ p, h p + Entry.totalEntering es := by
  induction hes with
  | nil => simp
  | @cons h h' e es hcovered _ ih =>
      have hpost : ∑ p, h.post e p + ∑ p, e.outflow p =
          ∑ p, h p + e.entering + ∑ p, e.outflow p := by
        rw [← sum_add_distrib, sum_congr rfl fun p _ => post_balance hcovered p,
          sum_add_distrib, e.inflow_sum, add_comm (∑ p, e.outflow p), add_assoc]
      rw [ih, add_right_cancel hpost, Entry.totalEntering_cons, add_assoc]

theorem Posts.sum_le [Fintype π] {h h' : Ledger π α} {es : List (Entry π α)}
    (hes : Posts h es h') : ∑ p, h p ≤ ∑ p, h' p :=
  hes.sum_eq ▸ Multiset.le_add_right _ _

/-- While an item that occurs once stays at a place, no entry finds it at another
place. -/
theorem Posts.eq_of_mem_required [Fintype π] {h h' : Ledger π α} {es : List (Entry π α)}
    (hes : Posts h es h') (hnodup : (∑ p, h' p).Nodup) {p : π} {a : α}
    (hkept : ∀ e ∈ es, e.outflow p = 0) (ha : a ∈ h p) :
    ∀ e ∈ es, ∀ q, a ∈ e.required q → q = p := by
  induction hes with
  | nil => simp
  | @cons h h' e es hcovered hrest ih =>
      rw [List.forall_mem_cons] at hkept ⊢
      have hle : ∑ p, h p ≤ ∑ p, h' p := (Posts.cons hcovered hrest).sum_le
      have hstays : a ∈ h.post e p := by
        rw [post, hkept.1, tsub_zero]
        exact Multiset.mem_add.mpr (.inl ha)
      refine ⟨fun q hq => ?_, ih hnodup hkept.2 hstays⟩
      exact eq_of_mem (Multiset.nodup_of_le hle hnodup)
        (Multiset.mem_of_le (hcovered q) hq) ha

end Ledger
