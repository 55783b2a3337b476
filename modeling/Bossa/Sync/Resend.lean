import Bossa.Sync.Queue

/-!
# Records that are sent again

A sample whose upload failed goes through the table before it is sent again: its time
loses what lies below the millisecond, its texts are copied by another routine and its
quality passes through another table of names. The record that reaches the server is the
same.
-/

namespace Bossa.Sync

open Telemetry Storage

theorem written_toJson_wireSample {sample : StoredSample}
    (hvalue : sample.value.isFinite = true) :
    (wireSample sample).toJson.written = (wireSample sample).toJson := by
  simp [WireSample.toJson, Json.written, Json.writtenMembers, wireSample, hvalue]

@[simp] theorem Priority.ofInt_toNat (p : Priority) : Priority.ofInt p.toNat = p := by
  cases p <;> rfl

/-- A sample and a row of the table are sent in the same record, the one in the upload of
a batch that holds the sample, the other in a retry that reaches the row. A retry with an
open store whose query succeeds reaches the rows in front of its limit. -/
structure SentAlike (stored : StoredSample) (row : PendingUpload) : Prop where
  priority_eq : row.toRow.sample.priority = stored.priority
  direct : ∀ {u : HttpUploader} {client : HttpClient} {faults : StoreFaults} {sentAt : ℤ}
    {samples : List StoredSample} {store : LocalStore} {attempt : Attempt} {i : ℕ},
    u.upload client faults sentAt samples store = .ok attempt → samples[i]? = some stored →
    ∃ exchange, attempt.exchange = some exchange ∧
      exchange.request.records[i]? = some (wireSample stored).toJson
  resent : ∀ {u : HttpUploader} {client : HttpClient} {faults : StoreFaults} {sentAt : ℤ}
    {maxBatch : ℕ} {store : LocalStore} {attempt : Attempt} {exchange : Exchange} {i : ℕ},
    u.retryPending client faults sentAt maxBatch store = .ok attempt →
    attempt.exchange = some exchange → store.rows[i]? = some row →
    i < exchange.request.records.length →
    exchange.request.records[i]? = some (wireSample stored).toJson
  reached : ∀ {u : HttpUploader} {client : HttpClient} {faults : StoreFaults} {sentAt : ℤ}
    {maxBatch : ℕ} {store : LocalStore} {attempt : Attempt} {i : ℕ},
    u.retryPending client faults sentAt maxBatch store = .ok attempt →
    u.hasStore = true → faults.select = none → store.rows[i]? = some row → i < maxBatch →
    ∃ exchange, attempt.exchange = some exchange ∧
      exchange.request.records[i]? = some (wireSample stored).toJson

/-- A retry posts the records of the rows that it has read. -/
theorem records_of_retryPending {u : HttpUploader} {client : HttpClient} {faults : StoreFaults}
    {sentAt : ℤ} {maxBatch : ℕ} {store : LocalStore} {attempt : Attempt} {exchange : Exchange}
    (h : u.retryPending client faults sentAt maxBatch store = .ok attempt)
    (hexchange : attempt.exchange = some exchange) :
    exchange.request.records = (store.peekBatch faults.select maxBatch).map fun row =>
      (wireSample row.sample).toJson.written := by
  cases hstore : u.hasStore with
  | false =>
      rw [HttpUploader.retryPending, if_pos (by simp [hstore])] at h
      cases h
      cases hexchange
  | true =>
      rcases HttpUploader.retryPending_cases hstore h with
        ⟨-, rfl⟩ | ⟨-, request, hrequest, hexchange', -⟩
      · cases hexchange
      · cases hexchange.symm.trans hexchange'
        rw [HttpUploader.records_request hrequest, List.map_map]
        rfl

theorem sentAlike_ofSample (id : ℤ) {stored : StoredSample}
    (hvalue : stored.value.isFinite = true) : SentAlike stored (.ofSample id stored) where
  priority_eq := Priority.ofInt_toNat stored.priority
  direct := by
    intro u client faults sentAt samples store attempt i hupload hstored
    have hne : samples ≠ [] := by
      rintro rfl
      cases hstored
    obtain ⟨request, hrequest, hexchange, -⟩ := HttpUploader.upload_cases hne hupload
    refine ⟨_, hexchange, ?_⟩
    rw [HttpUploader.records_request hrequest, List.getElem?_map, hstored, Option.map_some,
      written_toJson_wireSample hvalue]
  resent := by
    intro u client faults sentAt maxBatch store attempt exchange i hretry hexchange hrow hlt
    obtain ⟨count, -, hpeek⟩ := store.peekBatch_eq faults.select maxBatch
    rw [records_of_retryPending hretry hexchange, hpeek] at hlt ⊢
    simp only [List.length_map, List.length_take, lt_min_iff] at hlt
    rw [List.getElem?_map, List.getElem?_map, List.getElem?_take_of_lt hlt.1, hrow]
    simp only [Option.map_some, wireSample_toRow_ofSample]
    rw [written_toJson_wireSample hvalue]
  reached := by
    intro u client faults sentAt maxBatch store attempt i hretry hstore hselect hrow hlt
    have hpeek : store.peekBatch faults.select maxBatch =
        (store.rows.take maxBatch).map PendingUpload.toRow := by
      rw [hselect, LocalStore.peekBatch, if_neg (by omega)]
    rcases HttpUploader.retryPending_cases hstore hretry with
      ⟨hnil, -⟩ | ⟨-, request, hrequest, hexchange, -⟩
    · have hread : (store.rows.take maxBatch)[i]? = some (.ofSample id stored) := by
        rw [List.getElem?_take_of_lt hlt, hrow]
      rw [hpeek, List.map_eq_nil_iff] at hnil
      rw [hnil] at hread
      cases hread
    · refine ⟨_, hexchange, ?_⟩
      rw [records_of_retryPending hretry hexchange, hpeek, List.getElem?_map,
        List.getElem?_map, List.getElem?_take_of_lt hlt, hrow]
      simp only [Option.map_some, wireSample_toRow_ofSample]
      rw [written_toJson_wireSample hvalue]

/-- A sample with a finite value is sent in the same record directly and after it was
stored and read back, and its row has its priority. -/
theorem stored_sentAlike {sample : Sample} {priority : Priority} {store : LocalStore}
    (hvalue : sample.value.isFinite = true) (hdb : store.db ≠ none) :
    ∃ row, (store.enqueue none (.fromSample sample priority)).1 = true ∧
      (store.enqueue none (.fromSample sample priority)).2.rows = store.rows ++ [row] ∧
      (∀ maxCount, store.rows.length < maxCount →
        row.toRow ∈
          (store.enqueue none (.fromSample sample priority)).2.peekBatch none maxCount) ∧
      SentAlike (.fromSample sample priority) row := by
  have hfault : LocalStore.insertFault none (.fromSample sample priority) = none := by
    refine if_neg fun hnan => ?_
    rw [show sample.value = .nan from hnan] at hvalue
    cases hvalue
  rcases store.enqueue_cases none (.fromSample sample priority) with
    ⟨hfails, -⟩ | ⟨-, hrows, -⟩
  · exact absurd hfails (by simp [hdb, hfault])
  · refine ⟨_, ?_, hrows, fun maxCount hlt => ?_, sentAlike_ofSample _ hvalue⟩
    · obtain ⟨path, hpath⟩ := Option.ne_none_iff_exists'.mp hdb
      simp [LocalStore.enqueue, hpath, hfault]
    · rw [LocalStore.peekBatch, if_neg (by omega), hrows,
        List.take_of_length_le (by rw [List.length_append, List.length_singleton]; omega)]
      exact List.mem_map_of_mem (List.mem_append_right _ (List.mem_singleton_self _))

/-- A time before the epoch and a text that is too long for its array. -/
theorem stored_sentAlike_before_epoch :
    let sample : Sample :=
      { channelId := List.replicate 70 97, value := .finite (-3 / 2), timestamp := -1999999999,
        unit := Bytes.ascii "celsius", quality := .uncertain, origin := 1 }
    ∃ row, (outageStore.enqueue none (.fromSample sample .critical)).1 = true ∧
      (outageStore.enqueue none (.fromSample sample .critical)).2.rows =
        outageStore.rows ++ [row] ∧
      (∀ maxCount, outageStore.rows.length < maxCount →
        row.toRow ∈ (outageStore.enqueue none (.fromSample sample .critical)).2.peekBatch none
          maxCount) ∧
      SentAlike (.fromSample sample .critical) row :=
  stored_sentAlike rfl (by decide +kernel)

end Bossa.Sync
