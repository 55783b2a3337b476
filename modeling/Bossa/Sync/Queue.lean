import Bossa.Data.Ascending
import Bossa.Sync.HttpUploader
import Bossa.Transition.Run

/-!
# The offline queue

The table as a queue between uploads that fail and retries, while any of its insertions
and deletions may fail. The rows stand in the order of their ids and ids are not used
again, so what `acknowledge` deletes is what was read, whatever was appended since.
-/

namespace Bossa.Storage.LocalStore

open Telemetry Ascending

/-- The largest id ever given out in the open database. -/
def sequence (s : LocalStore) : ℤ :=
  match s.db with
  | none => 0
  | some path => (s.files path).sequence

theorem rows_of_db {s : LocalStore} {path : Bytes} (hdb : s.db = some path) :
    s.rows = (s.files path).rows := by
  simp [rows, hdb]

theorem sequence_of_db {s : LocalStore} {path : Bytes} (hdb : s.db = some path) :
    s.sequence = (s.files path).sequence := by
  simp [sequence, hdb]

/-- The store later on: entries have left, and entries with new ids have been appended. -/
def Advances (s s' : LocalStore) : Prop :=
  Ascending.Advances PendingUpload.id s.rows s.sequence s'.rows s'.sequence

theorem sequence_modify {s : LocalStore} {path : Bytes} (hdb : s.db = some path)
    (f : PendingUploads → PendingUploads) :
    (s.modify path f).sequence = (f (s.files path)).sequence := by
  simp [sequence, modify, hdb]

/-- `enqueue` appends a row under the next id, unless its statement fails or the database
is closed. -/
theorem enqueue_cases (fault : Option Bytes) (sample : StoredSample) (s : LocalStore) :
    ((s.db = none ∨ insertFault fault sample ≠ none) ∧
        (s.enqueue fault sample).2.rows = s.rows ∧
        (s.enqueue fault sample).2.sequence = s.sequence) ∨
      ((s.db ≠ none ∧ insertFault fault sample = none) ∧
        (s.enqueue fault sample).2.rows = s.rows ++ [.ofSample (s.sequence + 1) sample] ∧
        (s.enqueue fault sample).2.sequence = s.sequence + 1) := by
  unfold enqueue
  split
  · next hdb => exact .inl ⟨.inl hdb, rfl, rfl⟩
  · next path hdb =>
      split
      · next message hfault => exact .inl ⟨.inr (by simp [hfault]), rfl, rfl⟩
      · next hfault =>
          refine .inr ⟨⟨by simp [hdb], hfault⟩, ?_, ?_⟩
          · rw [rows_of_db hdb, sequence_of_db hdb]
            exact rows_modify hdb fun t => t.insert sample
          · rw [sequence_of_db hdb]
            exact sequence_modify hdb fun t => t.insert sample

theorem acknowledge_sequence (fault : Option Bytes) (id : ℤ) (s : LocalStore) :
    (s.acknowledge fault id).2.sequence = s.sequence := by
  unfold acknowledge
  split
  · rfl
  · next path hdb =>
      split
      · rfl
      · rw [sequence_of_db hdb]
        exact sequence_modify hdb fun t => t.delete id

end Bossa.Storage.LocalStore

namespace Bossa.Sync

open Telemetry Storage

namespace HttpUploader

theorem interpretResponse_eq_accepted_iff {response : HttpResponse} :
    interpretResponse response = .accepted ↔
      response.error = [] ∧ (response.statusCode = 200 ∨ response.statusCode = 202) := by
  unfold interpretResponse
  constructor
  · intro h
    split at h
    · cases h
    · next hreached =>
        rw [not_or, not_not] at hreached
        split at h
        · next hstatus => exact ⟨hreached.1, hstatus.symm⟩
        · split at h
          · cases h
          · split at h <;> cases h
  · rintro ⟨herror, hstatus⟩
    rw [if_neg (by rcases hstatus with h | h <;> simp [herror, h]), if_pos hstatus.symm]

/-- The samples of a batch whose insertions do not fail. -/
def insertedSamples (fault : ℕ → Option Bytes) : List StoredSample → List StoredSample
  | [] => []
  | sample :: samples =>
      if LocalStore.insertFault (fault 0) sample = none then
        sample :: insertedSamples (fun i => fault (i + 1)) samples
      else insertedSamples (fun i => fault (i + 1)) samples

theorem insertedSamples_sublist :
    ∀ (samples : List StoredSample) (fault : ℕ → Option Bytes),
      (insertedSamples fault samples).Sublist samples
  | [], _ => .slnil
  | sample :: samples, fault => by
      have hrest := insertedSamples_sublist samples fun i => fault (i + 1)
      rw [insertedSamples]
      split
      · exact hrest.cons_cons sample
      · exact hrest.cons sample

/-- The samples of a batch that `persist_all` gets into the table. -/
def landed (u : HttpUploader) (fault : ℕ → Option Bytes) (samples : List StoredSample)
    (store : LocalStore) : List StoredSample :=
  if u.hasStore = true ∧ store.db ≠ none then insertedSamples fault samples else []

theorem landed_sublist (u : HttpUploader) (fault : ℕ → Option Bytes)
    (samples : List StoredSample) (store : LocalStore) :
    (u.landed fault samples store).Sublist samples := by
  unfold landed
  split
  · exact insertedSamples_sublist samples fault
  · exact List.nil_sublist samples

/-- Rows that were appended behind a store for samples, in their order. -/
structure Appended (store : LocalStore) (samples : List StoredSample) (store' : LocalStore)
    (new : List PendingUpload) : Prop where
  rows_eq : store'.rows = store.rows ++ new
  samples_eq : List.Forall₂ (fun r sample => r = .ofSample r.id sample) new samples
  id_gt : ∀ r ∈ new, store.sequence < r.id
  sequence_le : store.sequence ≤ store'.sequence

theorem Appended.nil (store : LocalStore) : Appended store [] store [] :=
  ⟨(List.append_nil _).symm, .nil, by simp, le_rfl⟩

theorem Appended.advances {store store' : LocalStore} {samples : List StoredSample}
    {new : List PendingUpload} (h : Appended store samples store' new) :
    store.Advances store' := by
  rw [LocalStore.Advances, h.rows_eq]
  exact .of_append h.sequence_le h.id_gt

/-- In an open database the rows of the samples whose insertions do not fail are
appended. -/
theorem persistSamples_appended :
    ∀ (samples : List StoredSample) (fault : ℕ → Option Bytes) (store : LocalStore),
      ∃ new, Appended store (if store.db ≠ none then insertedSamples fault samples else [])
        (persistSamples fault samples store).2.2 new
  | [], _, store => ⟨[], by
      simpa [insertedSamples, persistSamples] using Appended.nil store⟩
  | sample :: samples, fault, store => by
      obtain ⟨new, happended⟩ := persistSamples_appended samples (fun i => fault (i + 1))
        (store.enqueue (fault 0) sample).2
      rw [(store.enqueue_eq (fault 0) sample).1] at happended
      rw [insertedSamples]
      rcases store.enqueue_cases (fault 0) sample with
        ⟨hfails, hrows, hsequence⟩ | ⟨⟨hdb, hfault⟩, hrows, hsequence⟩
      · refine ⟨new, by rw [← hrows]; exact happended.rows_eq, ?_,
          hsequence ▸ happended.id_gt, hsequence ▸ happended.sequence_le⟩
        rcases hfails with hclosed | hfault
        · simpa [hclosed] using happended.samples_eq
        · simpa [hfault] using happended.samples_eq
      · rw [if_pos hdb] at happended ⊢
        rw [if_pos hfault]
        refine ⟨.ofSample (store.sequence + 1) sample :: new, ?_, .cons rfl happended.samples_eq,
          List.forall_mem_cons.mpr ⟨Int.lt_succ store.sequence, fun r hr => ?_⟩, ?_⟩
        · calc (persistSamples fault (sample :: samples) store).2.2.rows
              = (store.enqueue (fault 0) sample).2.rows ++ new := happended.rows_eq
            _ = store.rows ++ .ofSample (store.sequence + 1) sample :: new := by
              rw [hrows, List.append_assoc, List.singleton_append]
        · have hid := happended.id_gt r hr
          omega
        · have hle := happended.sequence_le
          rw [persistSamples_cons]
          omega

theorem persistAll_appended (u : HttpUploader) (samples : List StoredSample)
    (fault : ℕ → Option Bytes) (store : LocalStore) :
    ∃ new, Appended store (u.landed fault samples store)
      (u.persistAll fault samples store).2.2 new := by
  unfold persistAll landed
  cases hstore : u.hasStore with
  | false => exact ⟨[], by simpa using Appended.nil store⟩
  | true => simpa using persistSamples_appended samples fault store

theorem acknowledgeRows_advances :
    ∀ (rows : List PendingRow) (fault : ℕ → Option Bytes) (store : LocalStore),
      store.Advances (acknowledgeRows fault rows store).2
  | [], _, store => .refl store.rows store.sequence
  | row :: rows, fault, store => by
      have hrest := acknowledgeRows_advances rows (fun i => fault (i + 1))
        (store.acknowledge (fault 0) row.id).2
      have hfirst : store.Advances (store.acknowledge (fault 0) row.id).2 := by
        rw [LocalStore.Advances, store.acknowledge_sequence]
        refine .of_subset ?_
        rcases (store.acknowledge_eq (fault 0) row.id).2 with ⟨-, heq⟩ | ⟨-, heq⟩
        · rw [heq]
          exact List.Subset.refl _
        · rw [heq]
          exact List.filter_sublist.subset
      exact hfirst.trans hrest

variable {u : HttpUploader} {client : HttpClient} {faults : StoreFaults} {sentAt : ℤ}
  {store : LocalStore} {attempt : Attempt}

theorem upload_appended {samples : List StoredSample}
    (h : u.upload client faults sentAt samples store = .ok attempt) :
    ∃ persisted new, persisted.Sublist samples ∧
      Appended store persisted attempt.store new := by
  by_cases hne : samples = []
  · rw [upload, if_pos hne] at h
    cases h
    exact ⟨[], [], List.nil_sublist samples, .nil store⟩
  · obtain ⟨request, -, -, -, hcases⟩ := upload_cases hne h
    rcases hcases with ⟨-, -, hstore⟩ | ⟨-, -, hstore⟩
    · rw [hstore]
      exact ⟨[], [], List.nil_sublist samples, .nil store⟩
    · obtain ⟨new, happended⟩ := u.persistAll_appended samples faults.insert store
      rw [hstore]
      exact ⟨_, new, u.landed_sublist faults.insert samples store, happended⟩

theorem retryPending_advances {maxBatch : ℕ}
    (h : u.retryPending client faults sentAt maxBatch store = .ok attempt) :
    store.Advances attempt.store := by
  cases hstore : u.hasStore with
  | false =>
      rw [retryPending, if_pos (by simp [hstore])] at h
      cases h
      exact .refl store.rows store.sequence
  | true =>
      rcases retryPending_cases hstore h with
        ⟨-, rfl⟩ | ⟨-, request, -, -, -, ⟨-, -, heq⟩ | ⟨-, -, heq⟩⟩
      · exact .refl store.rows store.sequence
      · rw [heq]
        exact .refl store.rows store.sequence
      · rw [heq]
        exact acknowledgeRows_advances _ _ _

/-- A row that a retry takes away was in its batch, and the batch was accepted. -/
theorem exchange_of_not_mem_retryPending {maxBatch : ℕ} {r : PendingUpload}
    (h : u.retryPending client faults sentAt maxBatch store = .ok attempt)
    (hr : r ∈ store.rows) (hgone : r ∉ attempt.store.rows) :
    ∃ exchange count, attempt.exchange = some exchange ∧
      exchange.samples = (store.rows.take count).map (fun r => r.toRow.sample) ∧
      r ∈ store.rows.take count ∧ interpretResponse exchange.response = .accepted := by
  cases hstore : u.hasStore with
  | false =>
      rw [retryPending, if_pos (by simp [hstore])] at h
      cases h
      exact absurd hr hgone
  | true =>
      rcases retryPending_cases hstore h with
        ⟨-, rfl⟩ | ⟨-, request, _, hexchange, hresult, ⟨-, -, heq⟩ | ⟨haccepted, -, heq⟩⟩
      · exact absurd hr hgone
      · exact absurd (heq ▸ hr) hgone
      · obtain ⟨count, -, hpeek⟩ := store.peekBatch_eq faults.select maxBatch
        refine ⟨_, count, hexchange, by dsimp only; rw [hpeek, List.map_map]; rfl, ?_,
          hresult ▸ haccepted⟩
        -- a row that no acknowledged id names would have stayed
        by_contra hother
        refine hgone (heq ▸ mem_rows_acknowledgeRows hr fun row hrow hid => hother ?_)
        rw [hpeek] at hrow
        obtain ⟨r', hr', rfl⟩ := List.mem_map.mp hrow
        rwa [← store.eq_of_id_eq (List.mem_of_mem_take hr') hr hid]

end HttpUploader

/-- A call on an uploader: an upload of a batch or a retry. -/
inductive QueueCall where
  | upload (client : HttpClient) (faults : StoreFaults) (sentAt : ℤ)
      (samples : List StoredSample)
  | retry (client : HttpClient) (faults : StoreFaults) (sentAt : ℤ) (maxBatch : ℕ)

def QueueCall.perform (u : HttpUploader) (store : LocalStore) :
    QueueCall → Except Abort Attempt
  | .upload client faults sentAt samples => u.upload client faults sentAt samples store
  | .retry client faults sentAt maxBatch => u.retryPending client faults sentAt maxBatch store

/-- A call, the store it starts from and what it did. A call that throws did nothing. -/
structure QueueStep where
  before : LocalStore
  call : QueueCall
  attempt : Option Attempt

namespace QueueStep

def store (step : QueueStep) : LocalStore := step.attempt.elim step.before Attempt.store

/-- The transition that a call is. -/
def Holds (u : HttpUploader) (s : LocalStore) (step : QueueStep) (s' : LocalStore) : Prop :=
  step.before = s ∧ step.attempt = (step.call.perform u s).toOption ∧ s' = step.store

variable {u : HttpUploader} {s s' : LocalStore} {step : QueueStep}

theorem Holds.cases (h : step.Holds u s s') :
    (step.attempt = none ∧ s' = s) ∨ ∃ attempt, step.call.perform u s = .ok attempt ∧
      step.attempt = some attempt ∧ s' = attempt.store := by
  obtain ⟨rfl, hattempt, rfl⟩ := h
  cases hperform : step.call.perform u step.before with
  | error e =>
      rw [hperform] at hattempt
      exact .inl ⟨hattempt, by rw [store, hattempt]; rfl⟩
  | ok attempt =>
      rw [hperform] at hattempt
      exact .inr ⟨attempt, rfl, hattempt, by rw [store, hattempt]; rfl⟩

theorem Holds.advances (h : step.Holds u s s') : s.Advances s' := by
  rcases h.cases with ⟨-, rfl⟩ | ⟨attempt, hperform, -, rfl⟩
  · exact .refl s'.rows s'.sequence
  · cases hcall : step.call with
    | upload client faults sentAt samples =>
        rw [hcall] at hperform
        obtain ⟨persisted, new, -, happended⟩ := HttpUploader.upload_appended hperform
        exact happended.advances
    | retry client faults sentAt maxBatch =>
        rw [hcall] at hperform
        exact HttpUploader.retryPending_advances hperform

end QueueStep

/-- A run of calls on an uploader. -/
abbrev QueueRun (u : HttpUploader) : LocalStore → List QueueStep → LocalStore → Prop :=
  Transition.Run (QueueStep.Holds u)

namespace QueueRun

variable {u : HttpUploader} {s s' : LocalStore} {steps : List QueueStep}

theorem advances (hrun : QueueRun u s steps s') : s.Advances s' := by
  induction hrun with
  | nil => exact .refl s.rows s.sequence
  | snoc _ hstep ih => exact ih.trans hstep.advances

end QueueRun

def performAll (u : HttpUploader) : LocalStore → List QueueCall → List QueueStep × LocalStore
  | store, [] => ([], store)
  | store, call :: calls =>
      let step : QueueStep := ⟨store, call, (call.perform u store).toOption⟩
      let rest := performAll u step.store calls
      (step :: rest.1, rest.2)

section Outage

def outageUploader : HttpUploader := ⟨true, [], [], [], 30⟩

def outageSample (origin : ℕ) : StoredSample := { (default : StoredSample) with origin }

/-- The store after two uploads that failed. One of the insertions failed as well. -/
def outageStore : LocalStore :=
  (performAll outageUploader ⟨some [], fun _ => .empty, []⟩
    [.upload (fun _ => ⟨503, []⟩) {} 0 [outageSample 1, outageSample 2],
      .upload (fun _ => ⟨0, [1]⟩) { insert := fun i => if i = 0 then some [] else none } 0
        [outageSample 3, outageSample 4]]).2

end Outage

end Bossa.Sync
