import Bossa.Data.Selection
import Bossa.Telemetry.RingBuffer.Basic
import Bossa.Transition.Machine

/-!
# The ring buffer as a bounded priority list

The reference model of the ring buffer is a list of at most `capacity` samples
with a drop counter. `residents` is the abstraction: each operation of the
circular implementation is described by what it does to the list of residents,
and from then on the indices modulo the capacity are out of sight. Two
consequences are stated for whole runs: the implementation answers every
sequence of calls as the reference does, and what a sequence of `enqueue` calls
leaves behind is a selection of the best samples.
-/

namespace Bossa.Telemetry

namespace RingBuffer

@[simp] theorem length_residents (b : RingBuffer) : b.residents.length = b.size := by
  simp [residents]

@[simp] theorem residents_new (capacity : ℕ) (h : 0 < capacity) :
    (new capacity h).residents = [] := rfl

theorem getElem?_residents (b : RingBuffer) (i : ℕ) :
    b.residents[i]? = if i < b.size then some (b.slotAt i) else none :=
  Circular.getElem?_window _ _ _ _ _

theorem getElem_residents (b : RingBuffer) {i : ℕ} (h : i < b.residents.length) :
    b.residents[i] = b.slotAt i := by
  simp [residents, Circular.window, slotAt]

theorem residents_append (b : RingBuffer) (sample : StoredSample)
    (h : b.size < b.capacity) :
    (b.append sample h).residents = b.residents ++ [sample] :=
  Circular.window_write_end _ _ _ h _

@[simp] theorem residents_countDrop (b : RingBuffer) :
    b.countDrop.residents = b.residents := rfl

theorem residents_eq_cons (b : RingBuffer) (h : 0 < b.size) :
    b.residents = b.slotAt 0 :: b.advanceHead.residents := by
  obtain ⟨size, hsize⟩ := Nat.exists_eq_succ_of_ne_zero h.ne'
  simp only [residents, advanceHead, hsize, slotAt]
  exact Circular.window_succ _ _ _ _

theorem residents_removeResident (b : RingBuffer) {i : ℕ} (h : i < b.size) :
    (b.removeResident i).residents = b.residents.eraseIdx i := by
  by_cases hi : i = 0
  · subst hi
    rw [removeResident, if_pos rfl, b.residents_eq_cons h, List.eraseIdx_cons_zero]
  · rw [removeResident, if_neg hi]
    exact Circular.window_closeGap _ _ _ h b.size_le

/-- What the scan has found after looking at the offsets below `count + 1`. -/
theorem findDrop_rounds (b : RingBuffer) (count : ℕ) :
    let r := (List.range' 1 count).foldl
      (fun (r : ℕ × Priority) i =>
        if (b.slotAt i).priority.toNat < r.2.toNat then (i, (b.slotAt i).priority) else r)
      (0, (b.slotAt 0).priority)
    r.1 ≤ count ∧ r.2 = (b.slotAt r.1).priority ∧
      (∀ j ≤ count, r.2.toNat ≤ (b.slotAt j).dropKey) ∧
      ∀ j < r.1, r.2.toNat < (b.slotAt j).dropKey := by
  induction count with
  | zero =>
      refine ⟨le_rfl, rfl, ?_, ?_⟩
      · intro j hj
        rw [Nat.le_zero.mp hj]
        exact le_rfl
      · intro j hj
        exact absurd hj (Nat.not_lt_zero j)
  | succ count ih =>
      rw [List.range'_concat, List.foldl_append]
      simp only [List.foldl_cons, List.foldl_nil, Nat.one_mul]
      generalize (List.range' 1 count).foldl
        (fun (r : ℕ × Priority) i =>
          if (b.slotAt i).priority.toNat < r.2.toNat then (i, (b.slotAt i).priority) else r)
        (0, (b.slotAt 0).priority) = r at ih ⊢
      obtain ⟨hr, hpriority, hle, hlt⟩ := ih
      by_cases hnew : (b.slotAt (1 + count)).priority.toNat < r.2.toNat
      · rw [if_pos hnew]
        refine ⟨(Nat.add_comm 1 count).le, rfl, ?_, ?_⟩
        · intro j hj
          rcases Nat.lt_or_ge j (1 + count) with hj' | hj'
          · exact hnew.le.trans (hle j (by omega))
          · rw [show j = 1 + count by omega]
            exact le_rfl
        · intro j hj
          exact hnew.trans_le (hle j (by simp only at hj; omega))
      · rw [if_neg hnew]
        refine ⟨hr.trans (Nat.le_succ count), hpriority, ?_, hlt⟩
        intro j hj
        rcases Nat.lt_or_ge j (1 + count) with hj' | hj'
        · exact hle j (by omega)
        · rw [show j = 1 + count by omega]
          exact Nat.le_of_not_lt hnew

/-- The scan finds the earliest resident of minimal priority. -/
theorem findDrop_eq (b : RingBuffer) (h : 0 < b.size) :
    b.findDrop.1 = Selection.earliestMin StoredSample.dropKey b.residents ∧
      b.findDrop.1 < b.size ∧ b.findDrop.2 = (b.slotAt b.findDrop.1).priority ∧
      ∀ a ∈ b.residents, b.findDrop.2.toNat ≤ a.dropKey := by
  obtain ⟨hle, hpriority, hmin, hfirst⟩ := b.findDrop_rounds (b.size - 1)
  change b.findDrop.1 ≤ b.size - 1 at hle
  change b.findDrop.2 = (b.slotAt b.findDrop.1).priority at hpriority
  change ∀ j ≤ b.size - 1, b.findDrop.2.toNat ≤ (b.slotAt j).dropKey at hmin
  change ∀ j < b.findDrop.1, b.findDrop.2.toNat < (b.slotAt j).dropKey at hfirst
  have hmem : ∀ a ∈ b.residents, b.findDrop.2.toNat ≤ a.dropKey := by
    intro a ha
    obtain ⟨i, hi, rfl⟩ := List.mem_iff_getElem.mp ha
    rw [getElem_residents]
    rw [length_residents] at hi
    exact hmin i (by omega)
  refine ⟨?_, by omega, hpriority, hmem⟩
  have hlen : b.findDrop.1 < b.residents.length := by
    rw [length_residents]
    omega
  symm
  rw [Selection.earliestMin, List.findIdx_eq hlen]
  constructor
  · simp only [List.all_eq_true, decide_eq_true_eq, getElem_residents]
    intro a ha
    rw [StoredSample.dropKey, ← hpriority]
    exact hmem a ha
  · intro j hj
    rw [List.all_eq_false]
    refine ⟨b.slotAt b.findDrop.1, ?_, ?_⟩
    · rw [← getElem_residents b hlen]
      exact List.getElem_mem hlen
    · have hlt := hfirst j hj
      simp only [getElem_residents, decide_eq_true_eq, not_le]
      rwa [hpriority] at hlt

/-- The incoming sample is refused exactly when its priority is below that of
every resident. -/
theorem lt_findDrop_iff (b : RingBuffer) (h : 0 < b.size) (sample : StoredSample) :
    sample.priority.toNat < b.findDrop.2.toNat ↔
      ∀ a ∈ b.residents, sample.dropKey < a.dropKey := by
  obtain ⟨-, hlt, hpriority, hmin⟩ := b.findDrop_eq h
  constructor
  · intro hlow a ha
    exact lt_of_lt_of_le hlow (hmin a ha)
  · intro hall
    have hlen : b.findDrop.1 < b.residents.length := by
      rwa [length_residents]
    have hlow := hall _ (List.getElem_mem hlen)
    rwa [getElem_residents, StoredSample.dropKey, StoredSample.dropKey, ← hpriority]
      at hlow

theorem size_pos_of_full (b : RingBuffer) (h : ¬ b.size < b.capacity) : 0 < b.size :=
  lt_of_lt_of_le b.capacity_pos (Nat.le_of_not_lt h)

@[simp] theorem enqueue_capacity (b : RingBuffer) (sample : StoredSample) :
    (b.enqueue sample).2.capacity = b.capacity := by
  unfold enqueue
  split
  · rfl
  · dsimp only
    split
    · rfl
    · simp [append, countDrop]

/-- `enqueue` maintains the residents by the local rule of the selection. -/
theorem residents_enqueue (b : RingBuffer) (sample : StoredSample) :
    (b.enqueue sample).2.residents =
      Selection.push StoredSample.dropKey b.capacity b.residents sample := by
  unfold enqueue
  split
  · next h =>
      rw [residents_append, Selection.push_of_length_lt _ (by simpa using h)]
  · next h =>
      have hpos := b.size_pos_of_full h
      have hfull : b.capacity ≤ b.residents.length := by
        rw [length_residents]
        omega
      obtain ⟨hidx, hlt, -, -⟩ := b.findDrop_eq hpos
      dsimp only
      split
      · next hlow =>
          rw [residents_countDrop,
            Selection.push_refuse _ hfull ((b.lt_findDrop_iff hpos sample).mp hlow)]
      · next hlow =>
          rw [lt_findDrop_iff b hpos] at hlow
          push Not at hlow
          rw [residents_append, residents_countDrop, residents_removeResident b hlt,
            Selection.push_evict _ hfull hlow, hidx]

theorem dropCount_enqueue (b : RingBuffer) (sample : StoredSample) :
    (b.enqueue sample).2.dropCount =
      b.dropCount + if b.size < b.capacity then 0 else 1 := by
  unfold enqueue
  split
  · rfl
  · dsimp only
    split
    · rfl
    · simp only [append, countDrop, removeResident]
      split <;> rfl

theorem fst_enqueue (b : RingBuffer) (sample : StoredSample) :
    (b.enqueue sample).1 =
      (decide (b.residents.length < b.capacity) ||
        !(b.residents.all fun a => sample.dropKey < a.dropKey)) := by
  unfold enqueue
  split
  · next h => simp [h]
  · next h =>
      have hiff := b.lt_findDrop_iff (b.size_pos_of_full h) sample
      dsimp only
      split
      · next hlow => simpa [h] using hiff.mp hlow
      · next hlow =>
          rw [hiff] at hlow
          simpa [h] using hlow

theorem fst_dequeue (b : RingBuffer) : b.dequeue.1 = b.residents.head? := by
  unfold dequeue
  split
  · next h =>
      have hnil : b.residents = [] := List.eq_nil_of_length_eq_zero (by simpa using h)
      rw [hnil, List.head?_nil]
  · next h => rw [b.residents_eq_cons (Nat.pos_of_ne_zero h), List.head?_cons]

theorem residents_dequeue (b : RingBuffer) :
    b.dequeue.2.residents = b.residents.tail := by
  unfold dequeue
  split
  · next h =>
      have hnil : b.residents = [] := List.eq_nil_of_length_eq_zero (by simpa using h)
      rw [hnil, List.tail_nil]
  · next h => rw [b.residents_eq_cons (Nat.pos_of_ne_zero h), List.tail_cons]

@[simp] theorem dequeue_capacity (b : RingBuffer) :
    b.dequeue.2.capacity = b.capacity := by
  unfold dequeue
  split <;> rfl

@[simp] theorem dequeue_dropCount (b : RingBuffer) :
    b.dequeue.2.dropCount = b.dropCount := by
  unfold dequeue
  split <;> rfl

/-- The sample that `enqueue` drops is the one the local rule gives up. -/
theorem dropped_eq (b : RingBuffer) (sample : StoredSample) :
    b.dropped sample =
      Selection.dropped StoredSample.dropKey b.capacity b.residents sample := by
  unfold dropped Selection.dropped
  rw [length_residents]
  split
  · rfl
  · next h =>
      have hpos := b.size_pos_of_full h
      obtain ⟨hidx, hlt, -, -⟩ := b.findDrop_eq hpos
      split
      · next hlow =>
          rw [Selection.victim, if_pos]
          simpa using (b.lt_findDrop_iff hpos sample).mp hlow
      · next hlow =>
          rw [lt_findDrop_iff b hpos] at hlow
          push Not at hlow
          rw [Selection.victim_of_evict _ hlow, ← hidx, getElem?_residents, if_pos hlt]

theorem enqueue_perm (b : RingBuffer) (sample : StoredSample) :
    ((b.enqueue sample).2.residents ++ (b.dropped sample).toList).Perm
      (b.residents ++ [sample]) := by
  rw [residents_enqueue, dropped_eq]
  exact Selection.push_perm _ _ _ b.capacity_pos

theorem le_of_perm_enqueue {b : RingBuffer} {sample d : StoredSample}
    (hperm : (b.residents ++ [sample]).Perm ((b.enqueue sample).2.residents ++ [d])) :
    ∀ a ∈ (b.enqueue sample).2.residents, d.priority.toNat ≤ a.priority.toNat := by
  have hsame := (List.perm_append_left_iff _).mp ((b.enqueue_perm sample).trans hperm)
  have hd : b.dropped sample = some d :=
    Option.toList_eq_singleton_iff.mp (List.perm_singleton.mp hsame)
  rw [dropped_eq] at hd
  rw [residents_enqueue]
  exact Selection.dropped_le StoredSample.dropKey hd

theorem dropCount_enqueue_eq (b : RingBuffer) (sample : StoredSample) :
    (b.enqueue sample).2.dropCount = b.dropCount + (b.dropped sample).toList.length := by
  rw [dropCount_enqueue, dropped]
  split
  · rfl
  · split <;> rfl

/-- A call of one of the two operations. -/
inductive Call where
  | enqueue (sample : StoredSample)
  | dequeue
  deriving DecidableEq, Repr

/-- What a call returns. -/
inductive Reply where
  | retained (value : Bool)
  | sample (value : Option StoredSample)
  deriving DecidableEq, Repr

def step (b : RingBuffer) : Call → Reply × RingBuffer
  | .enqueue sample => (.retained (b.enqueue sample).1, (b.enqueue sample).2)
  | .dequeue => (.sample b.dequeue.1, b.dequeue.2)

/-- The reference model: a list of samples and a drop counter. -/
structure Reference where
  items : List StoredSample
  dropCount : ℕ

/-- Adding a sample to the reference model. A full list refuses a sample whose
priority is strictly below the priorities of all its elements, and otherwise
erases the earliest of its elements of minimal priority. -/
def Reference.enqueue (capacity : ℕ) (r : Reference) (sample : StoredSample) :
    Bool × Reference :=
  if r.items.length < capacity then
    (true, { r with items := r.items ++ [sample] })
  else if r.items.all fun a => sample.priority.toNat < a.priority.toNat then
    (false, { r with dropCount := r.dropCount + 1 })
  else
    let oldest := Selection.earliestMin (fun a => a.priority.toNat) r.items
    (true, ⟨r.items.eraseIdx oldest ++ [sample], r.dropCount + 1⟩)

def Reference.step (capacity : ℕ) (r : Reference) : Call → Reply × Reference
  | .enqueue sample =>
      (.retained (r.enqueue capacity sample).1, (r.enqueue capacity sample).2)
  | .dequeue => (.sample r.items.head?, { r with items := r.items.tail })

/-- The implementation state `b` of the given capacity represents `r`. -/
structure Represents (capacity : ℕ) (b : RingBuffer) (r : Reference) : Prop where
  capacity_eq : b.capacity = capacity
  size_eq : b.size = r.items.length
  dropCount_eq : b.dropCount = r.dropCount
  residents_eq : b.residents = r.items
  head_lt : b.head < b.capacity
  size_le : b.size ≤ b.capacity

theorem Represents.of_residents {capacity : ℕ} {b : RingBuffer} {r : Reference}
    (hcapacity : b.capacity = capacity) (hresidents : b.residents = r.items)
    (hdrop : b.dropCount = r.dropCount) : Represents capacity b r :=
  ⟨hcapacity, by rw [← hresidents, length_residents], hdrop, hresidents, b.head_lt,
    b.size_le⟩

theorem enqueue_represents {capacity : ℕ} {b : RingBuffer} {r : Reference}
    (h : Represents capacity b r) (sample : StoredSample) :
    (b.enqueue sample).1 = (r.enqueue capacity sample).1 ∧
      Represents capacity (b.enqueue sample).2 (r.enqueue capacity sample).2 := by
  obtain ⟨rfl, hsize, hdrop, hitems, -, -⟩ := h
  have hresidents := b.residents_enqueue sample
  have hcount := b.dropCount_enqueue sample
  have hfst := b.fst_enqueue sample
  rw [hitems] at hresidents hfst
  rw [hsize, hdrop] at hcount
  unfold Reference.enqueue
  unfold Selection.push at hresidents
  split
  · next hlt =>
      rw [if_pos hlt] at hresidents hcount
      exact ⟨by simpa [hlt] using hfst,
        .of_residents (by simp) hresidents hcount⟩
  · next hlt =>
      rw [if_neg hlt] at hresidents hcount
      split
      · next hlow =>
          have hlow' : (r.items.all fun a => sample.dropKey < a.dropKey) = true := hlow
          rw [if_pos hlow'] at hresidents
          rw [hlow'] at hfst
          exact ⟨by simpa [hlt] using hfst, .of_residents (by simp) hresidents hcount⟩
      · next hlow =>
          have hlow' : ¬ (r.items.all fun a => sample.dropKey < a.dropKey) = true := hlow
          rw [if_neg hlow'] at hresidents
          rw [Bool.not_eq_true] at hlow'
          rw [hlow'] at hfst
          exact ⟨by simpa using hfst, .of_residents (by simp) hresidents hcount⟩

theorem step_represents {capacity : ℕ} (b : RingBuffer) (r : Reference) (call : Call)
    (h : Represents capacity b r) :
    (b.step call).1 = (r.step capacity call).1 ∧
      Represents capacity (b.step call).2 (r.step capacity call).2 := by
  cases call with
  | enqueue sample =>
      obtain ⟨hfst, hnext⟩ := enqueue_represents h sample
      exact ⟨congrArg Reply.retained hfst, hnext⟩
  | dequeue =>
      refine ⟨congrArg Reply.sample ?_, .of_residents ?_ ?_ ?_⟩
      · rw [fst_dequeue, h.residents_eq]
      · rw [step, dequeue_capacity, h.capacity_eq]
      · rw [step, residents_dequeue, h.residents_eq]
        rfl
      · rw [step, dequeue_dropCount, h.dropCount_eq]
        rfl

/-- For every sequence of calls the circular implementation and the reference
model return the same values, and after every call the state of the
implementation represents the state of the reference. -/
theorem run_represents {capacity : ℕ} (h : 0 < capacity) (calls : List Call) :
    List.Forall₂
      (fun x y => x.1 = y.1 ∧ Represents capacity x.2 y.2)
      (Machine.run step (new capacity h) calls)
      (Machine.run (Reference.step capacity) ⟨[], 0⟩ calls) :=
  Machine.run_forall₂ step_represents calls (.of_residents rfl rfl rfl)

theorem run_represents_two :
    List.Forall₂
      (fun x y => x.1 = y.1 ∧ Represents 2 x.2 y.2)
      (Machine.run step (new 2 (by decide))
        [.enqueue default, .dequeue, .enqueue default, .enqueue default, .enqueue default])
      (Machine.run (Reference.step 2) ⟨[], 0⟩
        [.enqueue default, .dequeue, .enqueue default, .enqueue default, .enqueue default]) :=
  run_represents (by decide) _

/-- The buffer after a sequence of `enqueue` calls. -/
def enqueueAll (b : RingBuffer) (samples : List StoredSample) : RingBuffer :=
  samples.foldl (fun b sample => (b.enqueue sample).2) b

theorem enqueueAll_append (b : RingBuffer) (samples samples' : List StoredSample) :
    b.enqueueAll (samples ++ samples') = (b.enqueueAll samples).enqueueAll samples' :=
  List.foldl_append

@[simp] theorem enqueueAll_append_singleton (b : RingBuffer) (samples : List StoredSample)
    (sample : StoredSample) :
    b.enqueueAll (samples ++ [sample]) = ((b.enqueueAll samples).enqueue sample).2 :=
  b.enqueueAll_append samples [sample]

@[simp] theorem enqueueAll_capacity (b : RingBuffer) (samples : List StoredSample) :
    (b.enqueueAll samples).capacity = b.capacity := by
  induction samples using List.reverseRecOn with
  | nil => rfl
  | append_singleton samples sample ih => simp [ih]

theorem residents_enqueueAll (b : RingBuffer) (samples : List StoredSample) :
    (b.enqueueAll samples).residents =
      Selection.best StoredSample.dropKey b.capacity (b.residents ++ samples) := by
  have hle : b.residents.length ≤ b.capacity := by
    rw [length_residents]
    exact b.size_le
  rw [← Selection.foldl_push StoredSample.dropKey b.capacity hle]
  induction samples using List.reverseRecOn with
  | nil => rfl
  | append_singleton samples sample ih =>
      rw [enqueueAll_append_singleton, residents_enqueue, ih, enqueueAll_capacity,
        List.foldl_append]
      rfl

theorem size_enqueueAll (b : RingBuffer) (samples : List StoredSample) :
    (b.enqueueAll samples).size = min b.capacity (b.size + samples.length) := by
  rw [← length_residents, residents_enqueueAll, Selection.length_best _ b.capacity_pos,
    List.length_append, length_residents]

theorem dropCount_enqueueAll (b : RingBuffer) (samples : List StoredSample) :
    (b.enqueueAll samples).dropCount =
      b.dropCount + (b.size + samples.length - b.capacity) := by
  have hle := b.size_le
  induction samples using List.reverseRecOn with
  | nil =>
      rw [List.length_nil, show b.size + 0 - b.capacity = 0 by omega]
      rfl
  | append_singleton samples sample ih =>
      rw [enqueueAll_append_singleton, dropCount_enqueue, ih, size_enqueueAll,
        enqueueAll_capacity, List.length_append, List.length_singleton]
      split <;> omega

/-- After any sequence of `enqueue` calls the residents are the best of what was
resident and what arrived, in order of arrival, and the others were counted as
dropped. No call drops a sample while one of strictly lower priority stays. -/
theorem enqueueAll_keeps_best (b : RingBuffer) (samples : List StoredSample) :
    (b.enqueueAll samples).residents =
        Selection.best (fun s => s.priority.toNat) b.capacity (b.residents ++ samples) ∧
      (b.enqueueAll samples).size =
        min b.capacity (b.residents.length + samples.length) ∧
      (b.enqueueAll samples).dropCount =
        b.dropCount + (b.residents.length + samples.length - b.capacity) ∧
      ∀ before sample after, samples = before ++ sample :: after →
        ∀ d, ((b.enqueueAll before).residents ++ [sample]).Perm
            (((b.enqueueAll before).enqueue sample).2.residents ++ [d]) →
          ∀ a ∈ ((b.enqueueAll before).enqueue sample).2.residents,
            d.priority.toNat ≤ a.priority.toNat := by
  refine ⟨residents_enqueueAll b samples, ?_, ?_, ?_⟩
  · rw [size_enqueueAll, length_residents]
  · rw [dropCount_enqueueAll, length_residents]
  · intro before sample after _ d hperm
    exact le_of_perm_enqueue hperm

end RingBuffer

end Bossa.Telemetry
