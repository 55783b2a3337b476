import Bossa.Telemetry.RingBuffer.Refinement

/-!
# The order of the samples

Between any calls of `enqueue` and `dequeue` the samples that have left the buffer, followed
by the residents, are a part of those that were enqueued, in their order; the others were
counted as dropped. To say which sample is which, the samples are numbered by the calls that
enqueue them; what the buffer does is the same with any numbers.
-/

namespace Bossa.Telemetry

namespace RingBuffer

/-- The sample of a call of `enqueue`. -/
def Call.incoming : Call → Option StoredSample
  | .enqueue sample => some sample
  | .dequeue => none

/-- The samples that are enqueued, in the order of the calls. -/
def enqueued (calls : List Call) : List StoredSample := calls.filterMap Call.incoming

def Reply.outgoing : Reply → Option StoredSample
  | .retained _ => none
  | .sample value => value

/-- The samples that are dequeued, in the order of the calls. -/
def dequeued (b : RingBuffer) (calls : List Call) : List StoredSample :=
  (Machine.run step b calls).filterMap fun r => r.1.outgoing

def after (b : RingBuffer) (calls : List Call) : RingBuffer :=
  calls.foldl (fun b call => (b.step call).2) b

/-- The calls with their samples numbered from `n` on. -/
def numbered : ℕ → List Call → List Call
  | _, [] => []
  | n, .enqueue sample :: calls =>
      .enqueue { sample with origin := n } :: numbered (n + 1) calls
  | n, .dequeue :: calls => .dequeue :: numbered n calls

section Calls

variable {b : RingBuffer} {sample : StoredSample} {calls : List Call}

@[simp] theorem enqueued_enqueue : enqueued (.enqueue sample :: calls) = sample :: enqueued calls :=
  rfl

@[simp] theorem enqueued_dequeue : enqueued (.dequeue :: calls) = enqueued calls := rfl

@[simp] theorem dequeued_enqueue :
    dequeued b (.enqueue sample :: calls) = dequeued (b.enqueue sample).2 calls := rfl

@[simp] theorem dequeued_dequeue :
    dequeued b (.dequeue :: calls) = b.residents.head?.toList ++ dequeued b.dequeue.2 calls := by
  have hreply : (b.step .dequeue).1.outgoing = b.dequeue.1 := rfl
  rw [← fst_dequeue, dequeued, Machine.run, List.filterMap_cons, hreply]
  cases b.dequeue.1 <;> rfl

@[simp] theorem after_enqueue :
    after b (.enqueue sample :: calls) = after (b.enqueue sample).2 calls := rfl

@[simp] theorem after_dequeue : after b (.dequeue :: calls) = after b.dequeue.2 calls := rfl

theorem residents_enqueue_sublist (b : RingBuffer) (sample : StoredSample) :
    (b.enqueue sample).2.residents.Sublist (b.residents ++ [sample]) := by
  rw [residents_enqueue]
  exact Selection.push_sublist _ _ _ _

theorem head?_append_tail (l : List StoredSample) : l.head?.toList ++ l.tail = l := by
  cases l <;> rfl

end Calls

/-- What has left the buffer and what is in it are parts of what was in it and what came, in
order. -/
theorem dequeued_residents_sublist :
    ∀ (calls : List Call) (b : RingBuffer),
      (dequeued b calls ++ (after b calls).residents).Sublist (b.residents ++ enqueued calls)
  | [], b => by
      rw [enqueued, List.filterMap_nil, List.append_nil]
      exact List.Sublist.refl _
  | .enqueue sample :: calls, b => by
      have ih := dequeued_residents_sublist calls (b.enqueue sample).2
      have hkept := (b.residents_enqueue_sublist sample).append_right
        (enqueued calls)
      rw [List.append_assoc, List.singleton_append] at hkept
      exact ih.trans hkept
  | .dequeue :: calls, b => by
      have ih := dequeued_residents_sublist calls b.dequeue.2
      rw [residents_dequeue] at ih
      rw [dequeued_dequeue, after_dequeue, enqueued_dequeue, List.append_assoc]
      have hfront := ih.append_left b.residents.head?.toList
      rwa [← List.append_assoc b.residents.head?.toList b.residents.tail, head?_append_tail]
        at hfront

/-- What was in the buffer and what came has left it, is in it or was counted as dropped. -/
theorem length_dequeued_residents :
    ∀ (calls : List Call) (b : RingBuffer),
      b.residents.length + (enqueued calls).length + b.dropCount =
        (dequeued b calls).length + (after b calls).residents.length + (after b calls).dropCount
  | [], b => by
      simp [enqueued, dequeued, after, Machine.run]
  | .enqueue sample :: calls, b => by
      have ih := length_dequeued_residents calls (b.enqueue sample).2
      have hone := (b.enqueue_perm sample).length_eq
      rw [List.length_append, List.length_append, List.length_singleton] at hone
      rw [dropCount_enqueue_eq] at ih
      rw [dequeued_enqueue, after_enqueue, enqueued_enqueue, List.length_cons]
      omega
  | .dequeue :: calls, b => by
      have ih := length_dequeued_residents calls b.dequeue.2
      have hone := congrArg List.length (head?_append_tail b.residents)
      rw [List.length_append] at hone
      rw [residents_dequeue, dequeue_dropCount] at ih
      rw [dequeued_dequeue, after_dequeue, enqueued_dequeue, List.length_append]
      omega

theorem origin_numbered :
    ∀ (calls : List Call) (n : ℕ),
      (enqueued (numbered n calls)).map StoredSample.origin =
        List.range' n (enqueued calls).length
  | [], n => rfl
  | .enqueue sample :: calls, n => by
      rw [numbered, enqueued_enqueue, List.map_cons, origin_numbered calls (n + 1),
        enqueued_enqueue, List.length_cons, List.range'_succ]
  | .dequeue :: calls, n => by
      rw [numbered, enqueued_dequeue, enqueued_dequeue, origin_numbered calls n]

section Numbers

def unnumbered (sample : StoredSample) : StoredSample := { sample with origin := 0 }

theorem map_unnumbered_enqueue (b : RingBuffer) (sample : StoredSample) :
    (b.enqueue sample).2.residents.map unnumbered =
      Selection.push StoredSample.dropKey b.capacity (b.residents.map unnumbered)
        (unnumbered sample) := by
  rw [residents_enqueue]
  exact (Selection.push_map StoredSample.dropKey StoredSample.dropKey (f := unnumbered)
    (fun _ => rfl) _ _ _).symm

/-- Two buffers that hold the same samples up to their numbers. -/
structure SameData (b b' : RingBuffer) : Prop where
  capacity : b.capacity = b'.capacity
  residents : b.residents.map unnumbered = b'.residents.map unnumbered
  dropCount : b.dropCount = b'.dropCount

variable {b b' : RingBuffer}

theorem SameData.size (h : SameData b b') : b.size = b'.size := by
  have hlength := congrArg List.length h.residents
  rwa [List.length_map, List.length_map, length_residents, length_residents] at hlength

theorem SameData.enqueue (h : SameData b b') {sample sample' : StoredSample}
    (hsample : unnumbered sample = unnumbered sample') :
    SameData (b.enqueue sample).2 (b'.enqueue sample').2 where
  capacity := by rw [enqueue_capacity, enqueue_capacity, h.capacity]
  residents := by
    rw [map_unnumbered_enqueue, map_unnumbered_enqueue, h.residents, h.capacity, hsample]
  dropCount := by
    rw [dropCount_enqueue, dropCount_enqueue, h.dropCount, h.size, h.capacity]

theorem SameData.dequeue (h : SameData b b') : SameData b.dequeue.2 b'.dequeue.2 where
  capacity := by rw [dequeue_capacity, dequeue_capacity, h.capacity]
  residents := by
    rw [residents_dequeue, residents_dequeue, List.map_tail, List.map_tail, h.residents]
  dropCount := by rw [dequeue_dropCount, dequeue_dropCount, h.dropCount]

theorem SameData.numbered :
    ∀ (calls : List Call) (n : ℕ) {b b' : RingBuffer}, SameData b b' →
      (dequeued b (numbered n calls)).map unnumbered = (dequeued b' calls).map unnumbered ∧
        SameData (after b (numbered n calls)) (after b' calls)
  | [], _, _, _, h => ⟨rfl, h⟩
  | .enqueue _ :: calls, n, _, _, h => SameData.numbered calls (n + 1) (h.enqueue rfl)
  | .dequeue :: calls, n, b, b', h => by
      obtain ⟨hout, hafter⟩ := SameData.numbered calls n h.dequeue
      refine ⟨?_, hafter⟩
      have hhead : b.residents.head?.toList.map unnumbered =
          b'.residents.head?.toList.map unnumbered := by
        rw [← Option.toList_map, ← Option.toList_map, ← List.head?_map, ← List.head?_map,
          h.residents]
      rw [RingBuffer.numbered, dequeued_dequeue, dequeued_dequeue, List.map_append,
        List.map_append, hhead, hout]

end Numbers

/-- From an empty buffer on, the samples leave in the order in which they came, none of them
twice; every call of `enqueue` is accounted for; and what a call drops has no higher priority
than what it keeps. The buffer does the same without the numbers. -/
theorem order_and_accounting {capacity : ℕ} (h : 0 < capacity) (calls : List Call) :
    let b := new capacity h
    let numberedCalls := numbered 0 calls
    let kept := dequeued b numberedCalls ++ (after b numberedCalls).residents
    kept.Sublist (enqueued numberedCalls) ∧
      (kept.map StoredSample.origin).Pairwise (· < ·) ∧
      (enqueued numberedCalls).length = (dequeued b numberedCalls).length +
        (after b numberedCalls).residents.length + (after b numberedCalls).dropCount ∧
      ((dequeued b numberedCalls).map unnumbered = (dequeued b calls).map unnumbered ∧
        SameData (after b numberedCalls) (after b calls)) ∧
      ∀ before sample rest, numberedCalls = before ++ .enqueue sample :: rest →
        ∀ d, ((after b before).residents ++ [sample]).Perm
            (((after b before).enqueue sample).2.residents ++ [d]) →
          ∀ a ∈ ((after b before).enqueue sample).2.residents,
            d.priority.toNat ≤ a.priority.toNat := by
  intro b numberedCalls kept
  have hsub : kept.Sublist (enqueued numberedCalls) :=
    dequeued_residents_sublist numberedCalls b
  refine ⟨hsub, ?_, ?_, SameData.numbered calls 0 ⟨rfl, rfl, rfl⟩,
    fun _ _ _ _ _ hperm => le_of_perm_enqueue hperm⟩
  · have hrange := hsub.map StoredSample.origin
    rw [origin_numbered] at hrange
    exact (List.pairwise_lt_range' (s := 0) (n := _)).sublist hrange
  · have hcount := length_dequeued_residents numberedCalls b
    rw [show b.residents.length = 0 from rfl, show b.dropCount = 0 from rfl] at hcount
    omega

theorem order_and_accounting_two :
    let b := new 2 (by decide)
    let calls : List Call :=
      [.enqueue default, .enqueue default, .dequeue, .enqueue default, .enqueue default]
    let numberedCalls := numbered 0 calls
    let kept := dequeued b numberedCalls ++ (after b numberedCalls).residents
    kept.Sublist (enqueued numberedCalls) ∧
      (kept.map StoredSample.origin).Pairwise (· < ·) ∧
      (enqueued numberedCalls).length = (dequeued b numberedCalls).length +
        (after b numberedCalls).residents.length + (after b numberedCalls).dropCount ∧
      ((dequeued b numberedCalls).map unnumbered = (dequeued b calls).map unnumbered ∧
        SameData (after b numberedCalls) (after b calls)) ∧
      ∀ before sample rest, numberedCalls = before ++ .enqueue sample :: rest →
        ∀ d, ((after b before).residents ++ [sample]).Perm
            (((after b before).enqueue sample).2.residents ++ [d]) →
          ∀ a ∈ ((after b before).enqueue sample).2.residents,
            d.priority.toNat ≤ a.priority.toNat :=
  order_and_accounting (by decide) _

end RingBuffer

end Bossa.Telemetry
