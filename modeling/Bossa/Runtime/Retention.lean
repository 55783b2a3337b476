import Bossa.Runtime.Ticks
import Bossa.Sync.Queue

/-!
# Batches whose upload failed

A flush takes its batch off the ring buffer before it knows the outcome. When the upload
fails for the time being, the samples of the batch go into the table one by one, and
whether they got there is not looked at any more. A sample whose insertion fails is gone.
-/

namespace Bossa.Sync.HttpUploader

open Telemetry Storage

/-- All samples are inserted when none of the insertions fails. -/
theorem insertedSamples_eq_self_iff :
    ∀ {samples : List StoredSample} {fault : ℕ → Option Bytes},
      insertedSamples fault samples = samples ↔
        ∀ i x, samples[i]? = some x → LocalStore.insertFault (fault i) x = none
  | [], fault => by simp [insertedSamples]
  | sample :: samples, fault => by
      have hrest := @insertedSamples_eq_self_iff samples fun i => fault (i + 1)
      rw [insertedSamples]
      constructor
      · intro h i x hx
        split at h
        · next hfault =>
            cases i with
            | zero =>
                cases hx
                exact hfault
            | succ i => exact hrest.mp (List.cons.inj h).2 i x hx
        · have hle := (insertedSamples_sublist samples fun i => fault (i + 1)).length_le
          rw [h, List.length_cons] at hle
          omega
      · intro h
        rw [if_pos (h 0 sample rfl), hrest.mpr fun i x hx => h (i + 1) x hx]

end Bossa.Sync.HttpUploader

namespace Bossa.Runtime

open Bossa.Core Telemetry Storage Sync

/-- The event is the POST of a flush that fails for the time being. -/
def Event.flushFails : Event → Bool
  | .post .flush _ exchange =>
      HttpUploader.interpretResponse exchange.response = .transientFailure
  | _ => false

theorem rowOrigins_of_forall₂ {rows : List PendingUpload} {samples : List StoredSample}
    (h : List.Forall₂ (fun r sample => r = .ofSample r.id sample) rows samples) :
    rowOrigins rows = origins samples := by
  induction h with
  | nil => rfl
  | cons hrow _ ih => rw [rowOrigins_cons, origins_cons, ih, hrow, PendingUpload.ofSample_origin]

namespace TelemetryRuntime

/-- The batch that a flush takes off the ring buffer. -/
def batch (s : TelemetryRuntime) : List StoredSample := s.residents.take s.maxBatch

/-- Every sample of the batch is a row of the table afterwards, or back in the buffer. -/
def RetainsBatch (s s' : TelemetryRuntime) : Prop :=
  ∀ x ∈ s.batch, x.origin ∈ rowOrigins s'.store.rows ∨ x.origin ∈ origins s'.residents

instance (s s' : TelemetryRuntime) : Decidable (s.RetainsBatch s') :=
  inferInstanceAs (Decidable (∀ x ∈ s.batch, _))

/-- The uploader has a store, its database is open, and no insertion for a sample of the
batch fails. -/
def PersistsBatch (input : AttemptInput) (s : TelemetryRuntime) : Prop :=
  (∃ uploader, s.uploader = some uploader ∧ uploader.hasStore = true) ∧ s.store.db ≠ none ∧
    ∀ i x, s.batch[i]? = some x → LocalStore.insertFault (input.faults.insert i) x = none

variable {s s' : TelemetryRuntime} {input : AttemptInput} {events : List Event}

/-- A flush that fails leaves rows for the samples that landed, and the rest of the
buffer. -/
theorem maybeFlush_fails (h : s.maybeFlush input = .ok (events, s'))
    (hfails : events.any Event.flushFails = true) :
    s.batch ≠ [] ∧ ∃ uploader, s.uploader = some uploader ∧
      rowOrigins s'.store.rows = rowOrigins s.store.rows +
        origins (uploader.landed input.faults.insert s.batch s.store) ∧
      s'.residents = s.residents.drop s.maxBatch := by
  rcases maybeFlush_cases h with
    ⟨-, rfl, -⟩ | ⟨-, uploader, buffer, attempt, huploader, hbuffer, hne, hupload, rfl, rfl⟩
  · cases hfails
  · have hbatch : (drain s.maxBatch buffer).1 = s.batch := by
      rw [(drain_eq _ _).1, batch, residents, hbuffer]
      rfl
    rw [hbatch] at hne hupload
    obtain ⟨request, _, hexchange, hresult, hcases⟩ := HttpUploader.upload_cases hne hupload
    have htransient : attempt.result = .transientFailure := by
      obtain ⟨e, he, hfails⟩ := List.any_eq_true.mp hfails
      rcases List.mem_append.mp he with he | he
      · rw [hexchange] at he
        cases List.mem_singleton.mp he
        exact hresult.trans (of_decide_eq_true hfails)
      · obtain ⟨statement, -, rfl⟩ := List.mem_map.mp he
        cases hfails
    rcases hcases with ⟨hother, -⟩ | ⟨-, -, hstore⟩
    · exact absurd htransient hother
    · obtain ⟨new, happended⟩ :=
        uploader.persistAll_appended s.batch input.faults.insert s.store
      refine ⟨hne, uploader, huploader, ?_, ?_⟩
      · rw [htransient]
        change rowOrigins attempt.store.rows = _
        rw [hstore, happended.rows_eq, rowOrigins_append,
          rowOrigins_of_forall₂ happended.samples_eq]
      · rw [htransient]
        change (drain s.maxBatch buffer).2.residents = _
        rw [(drain_eq _ _).2, residents, hbuffer]
        rfl

/-- When a flush fails for the time being its batch is retained exactly when there is a
store and all its insertions succeed. -/
theorem retainsBatch_iff (hnodup : (rowOrigins s.store.rows + origins s.residents).Nodup)
    (h : s.maybeFlush input = .ok (events, s'))
    (hfails : events.any Event.flushFails = true) :
    s.RetainsBatch s' ↔ s.PersistsBatch input := by
  obtain ⟨hne, uploader, huploader, hrows, hresidents⟩ := maybeFlush_fails h hfails
  have hsublist := uploader.landed_sublist input.faults.insert s.batch s.store
  obtain ⟨-, hbuffered, hdisjoint⟩ := Multiset.nodup_add.mp hnodup
  have hsplit : s.residents = s.batch ++ s.residents.drop s.maxBatch :=
    (List.take_append_drop _ _).symm
  rw [hsplit, origins_append] at hbuffered hdisjoint
  obtain ⟨hbatch, -, hrest⟩ := Multiset.nodup_add.mp hbuffered
  -- a sample of the batch is nowhere else, so it was retained if its row landed
  have hretained : s.RetainsBatch s' ↔ ∀ x ∈ s.batch, x.origin ∈
      origins (uploader.landed input.faults.insert s.batch s.store) := by
    refine forall₂_congr fun x hx => ?_
    have hmem : x.origin ∈ origins s.batch := List.mem_map_of_mem hx
    have hrow : x.origin ∉ rowOrigins s.store.rows := fun hrow =>
      Multiset.disjoint_left.mp hdisjoint hrow (Multiset.mem_add.mpr (.inl hmem))
    rw [hrows, hresidents, Multiset.mem_add, or_iff_right hrow,
      or_iff_left (Multiset.disjoint_left.mp hrest hmem)]
  have hlanded : (∀ x ∈ s.batch, x.origin ∈
        origins (uploader.landed input.faults.insert s.batch s.store)) ↔
      uploader.landed input.faults.insert s.batch s.store = s.batch := by
    constructor
    · intro hall
      apply hsublist.eq_of_length_le
      have hsubset : s.batch ⊆ uploader.landed input.faults.insert s.batch s.store := by
        intro x hx
        obtain ⟨y, hy, horigin⟩ := List.mem_map.mp (hall x hx)
        rwa [List.inj_on_of_nodup_map hbatch hx (hsublist.subset hy) horigin.symm]
      exact (List.subperm_of_subset (.of_map _ hbatch) hsubset).length_le
    · intro heq x hx
      rw [heq]
      exact List.mem_map_of_mem hx
  rw [hretained, hlanded, HttpUploader.landed, PersistsBatch]
  split
  · next hstore =>
      rw [HttpUploader.insertedSamples_eq_self_iff]
      exact ⟨fun hall => ⟨⟨uploader, huploader, hstore.1⟩, hstore.2, hall⟩, fun hall =>
        hall.2.2⟩
  · next hstore =>
      refine ⟨fun hnil => absurd hnil.symm hne, ?_⟩
      rintro ⟨⟨uploader', huploader', hstore'⟩, hdb, -⟩
      cases huploader.symm.trans huploader'
      exact absurd ⟨hstore', hdb⟩ hstore

def fullDeployment : TelemetryRuntime :=
  ((deployed "2" "remote").pollChannel (Bytes.ascii "t")
    ⟨[deploymentSample 1, deploymentSample 2], by decide⟩ 0).2

theorem nodup_fullDeployment :
    (rowOrigins fullDeployment.store.rows + origins fullDeployment.residents).Nodup := by
  decide +kernel

/-- A batch that goes into the table. -/
theorem retainsBatch_iff_two_samples :
    ∃ events s', fullDeployment.maybeFlush (deploymentAttempt 1 503) = .ok (events, s') ∧
      fullDeployment.batch.length = 2 ∧
      fullDeployment.PersistsBatch (deploymentAttempt 1 503) := by
  obtain ⟨⟨events, s'⟩, hflush, hcheck⟩ := Abort.exists_ok_of_any
    (x := fullDeployment.maybeFlush (deploymentAttempt 1 503))
    (p := fun r => r.1.any Event.flushFails && decide (fullDeployment.RetainsBatch r.2))
    (by decide +kernel)
  rw [Bool.and_eq_true, decide_eq_true_eq] at hcheck
  exact ⟨events, s', hflush, by decide +kernel,
    (retainsBatch_iff nodup_fullDeployment hflush hcheck.1).mp hcheck.2⟩

/-- The insertion for the first of two samples fails, and the sample is gone. -/
theorem not_retainsBatch_insert_fails :
    ¬ ∀ (s s' : TelemetryRuntime) (input : AttemptInput) (events : List Event),
      (rowOrigins s.store.rows + origins s.residents).Nodup →
      s.maybeFlush input = .ok (events, s') → events.any Event.flushFails = true →
      s.RetainsBatch s' := by
  intro hclaim
  let input : AttemptInput :=
    { deploymentAttempt 1 503 with
      faults := { insert := fun i => if i = 0 then some (Bytes.ascii "disk full") else none } }
  obtain ⟨⟨events, s'⟩, hflush, hcheck⟩ := Abort.exists_ok_of_any
    (x := fullDeployment.maybeFlush input)
    (p := fun r => r.1.any Event.flushFails && decide (¬ fullDeployment.RetainsBatch r.2))
    (by decide +kernel)
  rw [Bool.and_eq_true, decide_eq_true_eq] at hcheck
  exact hcheck.2 (hclaim _ _ _ _ nodup_fullDeployment hflush hcheck.1)

end TelemetryRuntime

end Bossa.Runtime
