import Mathlib.Data.List.DropRight
import Mathlib.Algebra.Order.Group.Int

/-!
# Backoff

A sender counts the failures of its attempts and waits longer after each. A `Rule` says
which attempts are accepted, which fail and when, and how long to wait after how many
failures. The state of the sender is determined by the attempts made so far: the counter
is the number of failures since the last accepted attempt, and the deadline lies one
delay behind the latest of them.
-/

/-- What a backoff looks at in an attempt, and its delays. -/
structure Backoff.Rule (α : Type*) where
  accepted : α → Bool
  failed : α → Bool
  failedAt : α → ℤ
  delay : ℕ → ℤ

/-- The counter of failures and the time before which no attempt is made. -/
structure Backoff where
  count : ℕ
  deadline : ℤ
  deriving DecidableEq, Repr

namespace Backoff

variable {α : Type*}

/-- The state before the first attempt and after an accepted one. -/
def reset : Backoff := ⟨0, 0⟩

/-- No failure waits to be over. -/
def Ready (b : Backoff) (now : ℤ) : Prop := b.count = 0 ∨ b.deadline ≤ now

instance (b : Backoff) (now : ℤ) : Decidable (b.Ready now) :=
  inferInstanceAs (Decidable (_ ∨ _))

namespace Rule

variable (rule : Rule α)

def next (b : Backoff) (a : α) : Backoff :=
  if rule.accepted a then reset
  else if rule.failed a then ⟨b.count + 1, rule.failedAt a + rule.delay (b.count + 1)⟩
  else b

def since (attempts : List α) : List α := attempts.rtakeWhile fun a => !rule.accepted a

def failures (attempts : List α) : List α := (rule.since attempts).filter rule.failed

def after (attempts : List α) : Backoff := attempts.foldl rule.next reset

variable {rule} {attempts : List α} {a : α}

theorem since_concat_of_accepted (h : rule.accepted a = true) :
    rule.since (attempts ++ [a]) = [] :=
  List.rtakeWhile_concat_neg _ _ _ (by simp [h])

theorem since_concat (h : rule.accepted a = false) :
    rule.since (attempts ++ [a]) = rule.since attempts ++ [a] :=
  List.rtakeWhile_concat_pos _ _ _ (by simp [h])

theorem mem_of_mem_since (h : a ∈ rule.since attempts) : a ∈ attempts :=
  List.rtakeWhile_suffix _ _ |>.subset h

theorem after_concat : rule.after (attempts ++ [a]) = rule.next (rule.after attempts) a := by
  rw [after, List.foldl_append]
  rfl

theorem count_le_foldl_next :
    ∀ {attempts : List α}, (∀ a ∈ attempts, rule.accepted a = false) → ∀ b : Backoff,
      b.count ≤ (attempts.foldl rule.next b).count
  | [], _, _ => le_rfl
  | a :: attempts, h, b => by
      rw [List.forall_mem_cons] at h
      have hnext : b.count ≤ (rule.next b a).count := by
        unfold next
        rw [h.1]
        cases rule.failed a <;> simp
      exact hnext.trans (count_le_foldl_next h.2 (rule.next b a))

theorem count_after (attempts : List α) :
    (rule.after attempts).count = (rule.failures attempts).length := by
  induction attempts using List.reverseRecOn with
  | nil => rfl
  | append_singleton attempts a ih =>
      rw [after_concat, next, failures]
      cases haccepted : rule.accepted a with
      | true => simp [since_concat_of_accepted haccepted, reset]
      | false =>
          rw [since_concat haccepted, List.filter_append, List.length_append, ← failures]
          cases hfailed : rule.failed a with
          | true => simp [hfailed, ih]
          | false => simp [hfailed, ih]

/-- The waits after the failures of a kind since the last accepted attempt are over: of
each its own delay has passed. -/
def Elapsed (rule : Rule α) (kind : α → Bool) (attempts : List α) (now : ℤ) : Prop :=
  ∀ k a, ((rule.since attempts).filter kind)[k]? = some a →
    rule.failedAt a + rule.delay (k + 1) ≤ now

theorem Elapsed.mono {kind : α → Bool} {now now' : ℤ} (hle : now ≤ now')
    (h : rule.Elapsed kind attempts now) : rule.Elapsed kind attempts now' :=
  fun k a ha => (h k a ha).trans hle

/-- When the attempts fail in the order of time and later failures do not wait less, at
the deadline all waits are over. -/
theorem elapsed_deadline (hdelay : ∀ {m n}, m ≤ n → rule.delay m ≤ rule.delay n)
    {kind : α → Bool} (hkind : ∀ a, kind a = true → rule.failed a = true) (attempts : List α)
    (htime : (attempts.filter rule.failed).Pairwise fun a b =>
      rule.failedAt a ≤ rule.failedAt b) :
    rule.Elapsed kind attempts (rule.after attempts).deadline := by
  induction attempts using List.reverseRecOn with
  | nil =>
      intro k a ha
      simp [since] at ha
  | append_singleton attempts a ih =>
      rw [List.filter_append] at htime
      obtain ⟨htimes, -, hlast⟩ := List.pairwise_append.mp htime
      intro k b hb
      rw [after_concat, next]
      cases haccepted : rule.accepted a with
      | true => simp [since_concat_of_accepted haccepted] at hb
      | false =>
          rw [since_concat haccepted, List.filter_append] at hb
          cases hfailed : rule.failed a with
          | true =>
              -- the new deadline lies behind the waits of all failures so far
              have hcount : ((rule.since attempts).filter kind).length ≤
                  (rule.after attempts).count := by
                rw [count_after, failures]
                exact (List.monotone_filter_right _ hkind).length_le
              have hfailedAt : rule.failedAt b ≤ rule.failedAt a := by
                rcases List.mem_append.mp (List.mem_of_getElem? hb) with hold | hnew
                · obtain ⟨hmem, hkept⟩ := List.mem_filter.mp hold
                  exact hlast b (List.mem_filter.mpr ⟨mem_of_mem_since hmem, hkind b hkept⟩) a
                    (by simp [hfailed])
                · rw [List.mem_singleton.mp (List.mem_of_mem_filter hnew)]
              have hindex : k + 1 ≤ (rule.after attempts).count + 1 := by
                have hk := (List.getElem?_eq_some_iff.mp hb).1
                rw [List.length_append] at hk
                have hone := List.length_filter_le kind [a]
                rw [List.length_singleton] at hone
                omega
              simpa using add_le_add hfailedAt (hdelay hindex)
          | false =>
              have hskip : kind a = false := by
                by_contra hkept
                rw [hkind a (by simpa using hkept)] at hfailed
                cases hfailed
              simp only [hskip, Bool.false_eq_true, not_false_eq_true,
                List.filter_cons_of_neg, List.filter_nil, List.append_nil] at hb
              simpa using ih htimes k b hb

theorem elapsed_of_ready (hdelay : ∀ {m n}, m ≤ n → rule.delay m ≤ rule.delay n)
    {kind : α → Bool} (hkind : ∀ a, kind a = true → rule.failed a = true) {now : ℤ}
    (htime : (attempts.filter rule.failed).Pairwise fun a b =>
      rule.failedAt a ≤ rule.failedAt b) (hready : (rule.after attempts).Ready now) :
    rule.Elapsed kind attempts now := by
  rcases hready with hcount | hdeadline
  · intro k a ha
    obtain ⟨hmem, hkept⟩ := List.mem_filter.mp (List.mem_of_getElem? ha)
    rw [count_after, failures, List.length_eq_zero_iff, List.filter_eq_nil_iff] at hcount
    exact absurd (hkind a hkept) (hcount a hmem)
  · exact (elapsed_deadline hdelay hkind attempts htime).mono hdeadline

theorem after_append (attempts attempts' : List α) :
    rule.after (attempts ++ attempts') = attempts'.foldl rule.next (rule.after attempts) :=
  List.foldl_append

/-- Every attempt starts when it may be made. -/
def Respected (rule : Rule α) (start : α → ℤ) (attempts : List α) : Prop :=
  ∀ before a after, attempts = before ++ a :: after → (rule.after before).Ready (start a)

/-- Every attempt starts when the waits after the failures of a kind before it are
over. -/
def Separated (rule : Rule α) (kind : α → Bool) (start : α → ℤ) (attempts : List α) : Prop :=
  ∀ before a after, attempts = before ++ a :: after → rule.Elapsed kind before (start a)

variable {start : α → ℤ}

theorem Respected.nil : rule.Respected start [] := by
  intro before a after h
  simp at h

theorem Respected.concat (h : rule.Respected start attempts)
    (hready : (rule.after attempts).Ready (start a)) :
    rule.Respected start (attempts ++ [a]) := by
  intro before b after heq
  rcases List.eq_nil_or_concat after with rfl | ⟨after', c, rfl⟩
  · obtain ⟨rfl, hab⟩ := List.append_inj' heq rfl
    cases hab
    exact hready
  · rw [List.concat_eq_append, ← List.cons_append, ← List.append_assoc] at heq
    exact h before b after' (List.append_inj' heq rfl).1

theorem Respected.separated (hdelay : ∀ {m n}, m ≤ n → rule.delay m ≤ rule.delay n)
    {kind : α → Bool} (hkind : ∀ a, kind a = true → rule.failed a = true)
    (htime : (attempts.filter rule.failed).Pairwise fun a b =>
      rule.failedAt a ≤ rule.failedAt b) (h : rule.Respected start attempts) :
    rule.Separated kind start attempts := by
  intro before a after heq
  refine elapsed_of_ready hdelay hkind ?_ (h before a after heq)
  rw [heq, List.filter_append] at htime
  exact (List.pairwise_append.mp htime).1

end Rule

end Backoff
