import Bossa.Protocol.System

/-!
# Attempts

What a flush and a retry do to the system, with the uploader in the place where
`configure` has put it: which samples the POST carries, and what becomes of the
rows of the offline table for each response.
-/

namespace Bossa.Protocol

open Bossa.Core Telemetry Storage Sync Worker Bossa.Runtime

namespace System

/-- The uploader posts for the node and persists what it cannot deliver. -/
structure Ready (node : Bytes) (s : System) : Prop where
  uploader : ∀ u, s.runtime.uploader = some u → u.nodeId = node ∧ u.hasStore = true
  db : s.runtime.store.db ≠ none
  sent : ∀ e ∈ s.posts, Sent node e

variable {d1 : D1} {node : Bytes} {s t : System} {readings : Readings} {fate : Fate}
  {events : List Event} {runtime : TelemetryRuntime}

theorem Ready.start {conversions : YamlConversions} {load : Bytes → Except Bytes Yaml}
    {file : ConfigFile} {path : Bytes} {config : Config} {input : ConfigureInput}
    {s₀ : TelemetryRuntime} (database : Database)
    (hload : loadConfig conversions load file path = .ok config)
    (hconfigure : s₀.configure input config = (true, runtime)) :
    (System.start runtime database).Ready config.node.id := by
  obtain ⟨hconfig, -, ⟨hopen, hdb⟩, huploader⟩ := TelemetryRuntime.configure_spec hconfigure
  have hpath := (loadConfig_valid hload).path_ne_nil
  have hstoreOpen : runtime.storeOpen = true := by simpa [hpath] using hopen
  refine ⟨fun u hu => ?_, ?_, fun e he => ?_⟩
  · change runtime.uploader = some u at hu
    rw [huploader, TelemetryRuntime.createUploader] at hu
    split at hu
    · cases hu
      exact ⟨by rw [hconfig], hstoreOpen⟩
    · cases hu
  · change runtime.store.db ≠ none
    rw [hdb hstoreOpen]
    exact Option.some_ne_none _
  · cases he

/-- What a flush does. Without a batch there is no POST. Otherwise the batch is
posted, and it is persisted when the edge does not get an answer. -/
theorem flush_spec (hready : s.Ready node)
    (hflush : s.runtime.maybeFlush (s.attemptInput d1 readings fate) = .ok (events, runtime)) :
    (s.batch readings.now = [] ∧ events.findSome? exchange? = none ∧ runtime = s.runtime) ∨
      ∃ exchange, events.findSome? exchange? = some exchange ∧
        exchange.samples = s.batch readings.now ∧ Sent node exchange ∧
        runtime.uploader = s.runtime.uploader ∧
        ((HttpUploader.interpretResponse (fate.response
              (answer d1 readings.serverNow exchange.request s.database).1) ≠
              .transientFailure ∧
            runtime.store = s.runtime.store) ∨
          runtime.store = (HttpUploader.persistSamples (fun _ => none) exchange.samples
            s.runtime.store).2.2) := by
  have hframe := TelemetryRuntime.maybeFlush_frame hflush
  rcases TelemetryRuntime.maybeFlush_cases hflush with
    ⟨hwait, rfl, rfl⟩ | ⟨hdue, u, buffer, attempt, hu, hbuffer, hne, hupload, rfl, hruntime⟩
  · refine .inl ⟨?_, rfl, rfl⟩
    unfold batch
    split
    · rfl
    · exact if_neg (by simpa [attemptInput] using hwait)
  · obtain ⟨hnode, hstore⟩ := hready.uploader u hu
    obtain ⟨request, hrequest, hexchange, hresult, hcases⟩ :=
      HttpUploader.upload_cases hne hupload
    have hbatch : s.batch readings.now = (drain s.runtime.maxBatch buffer).1 := by
      simp only [batch, hbuffer]
      exact if_pos hdue
    have hkept : runtime.store = attempt.store := by
      rw [hruntime]
      cases attempt.result <;> rfl
    refine .inr ⟨_, (findSome?_attemptEvents _ _ _).trans hexchange, hbatch.symm,
      ⟨u, readings.sentAt, hnode, hrequest⟩, hframe.uploader, ?_⟩
    rw [hresult] at hcases
    rcases hcases with ⟨hanswered, -, hsame⟩ | ⟨-, -, hpersisted⟩
    · exact .inl ⟨hanswered, hkept.trans hsame⟩
    · refine .inr (hkept.trans (hpersisted.trans ?_))
      rw [HttpUploader.persistAll, if_pos hstore]
      rfl

/-- What a retry does. Rows are posted, and they are deleted when the POST is
accepted. -/
theorem retry_spec (hready : s.Ready node)
    (hretry : s.runtime.maybeRetry false (s.attemptInput d1 readings fate) =
      .ok (events, runtime)) :
    runtime.uploader = s.runtime.uploader ∧
      ((events.findSome? exchange? = none ∧ runtime.store = s.runtime.store) ∨
        ∃ rows exchange, rows = s.runtime.store.peekBatch none s.runtime.maxBatch ∧
          events.findSome? exchange? = some exchange ∧
          exchange.samples = rows.map PendingRow.sample ∧ Sent node exchange ∧
          (runtime.store = s.runtime.store ∨
            (HttpUploader.interpretResponse (fate.response
                (answer d1 readings.serverNow exchange.request s.database).1) = .accepted ∧
              runtime.store =
                (HttpUploader.acknowledgeRows (fun _ => none) rows s.runtime.store).2))) := by
  refine ⟨(TelemetryRuntime.maybeRetry_frame hretry).uploader, ?_⟩
  rcases TelemetryRuntime.maybeRetry_cases hretry with
    ⟨hevents, rfl⟩ | ⟨u, attempt, hu, -, hattempt, rfl, hruntime⟩
  · refine .inl ⟨?_, rfl⟩
    rcases hevents with rfl | rfl <;> rfl
  · obtain ⟨hnode, hstore⟩ := hready.uploader u hu
    have hposted : (.statement (.count !false) ::
        attemptEvents .retry readings.now attempt).findSome? exchange? = attempt.exchange :=
      findSome?_attemptEvents _ _ _
    have hkept : runtime.store = attempt.store := by
      rw [hruntime]
      cases attempt.result <;> rfl
    rcases HttpUploader.retryPending_cases hstore hattempt with
      ⟨-, rfl⟩ | ⟨-, request, hrequest, hexchange, hresult, hcases⟩
    · exact .inl ⟨hposted, hkept⟩
    · refine .inr ⟨_, _, rfl, hposted.trans hexchange, rfl,
        ⟨u, readings.sentAt, hnode, hrequest⟩, ?_⟩
      rw [hresult] at hcases
      rcases hcases with ⟨-, -, hsame⟩ | ⟨haccepted, -, hdeleted⟩
      · exact .inl (hkept.trans hsame)
      · exact .inr ⟨haccepted, hkept.trans hdeleted⟩

/-- An attempt keeps the uploader and the store, and its POST is of the node. -/
theorem Ready.deliver (hready : s.Ready node)
    (huploader : runtime.uploader = s.runtime.uploader)
    (hdb : runtime.store.db = s.runtime.store.db) {posted : Option Exchange}
    (hsent : ∀ exchange ∈ posted, Sent node exchange) {taken : List StoredSample} :
    ({ s with taken := taken, runtime := runtime }.deliver d1 readings fate posted).Ready
      node where
  uploader := by
    rw [deliver_runtime, huploader]
    exact hready.uploader
  db := by
    rw [deliver_runtime, hdb]
    exact hready.db
  sent := by
    intro e he
    rw [deliver_posts] at he
    rcases List.mem_append.mp he with hold | hnew
    · exact hready.sent e hold
    · exact hsent e (Option.mem_toList.mp hnew)

theorem flush_sent (hready : s.Ready node)
    (hflush : s.runtime.maybeFlush (s.attemptInput d1 readings fate) = .ok (events, runtime)) :
    ∀ exchange ∈ events.findSome? exchange?, Sent node exchange := by
  rcases flush_spec hready hflush with ⟨-, hnone, -⟩ | ⟨exchange, hexchange, -, hsent, -, -⟩
  · simp [hnone]
  · simpa [hexchange] using hsent

theorem retry_sent (hready : s.Ready node)
    (hretry : s.runtime.maybeRetry false (s.attemptInput d1 readings fate) =
      .ok (events, runtime)) :
    ∀ exchange ∈ events.findSome? exchange?, Sent node exchange := by
  obtain ⟨-, ⟨hnone, -⟩ | ⟨rows, exchange, -, hexchange, -, hsent, -⟩⟩ :=
    retry_spec hready hretry
  · simp [hnone]
  · simpa [hexchange] using hsent

theorem Ready.flushed (hready : s.Ready node)
    (hflush : s.runtime.maybeFlush (s.attemptInput d1 readings fate) = .ok (events, runtime))
    {taken : List StoredSample} :
    ({ s with taken := taken, runtime := runtime }.deliver d1 readings fate
      (events.findSome? exchange?)).Ready node := by
  have hsent := flush_sent hready hflush
  rcases flush_spec hready hflush with ⟨-, -, rfl⟩ | ⟨exchange, -, -, -, huploader, hcases⟩
  · exact hready.deliver rfl rfl hsent
  · refine hready.deliver huploader ?_ hsent
    rcases hcases with ⟨-, hsame⟩ | hpersisted
    · rw [hsame]
    · rw [hpersisted, HttpUploader.persistSamples_db]

theorem Ready.retried (hready : s.Ready node)
    (hretry : s.runtime.maybeRetry false (s.attemptInput d1 readings fate) =
      .ok (events, runtime)) :
    ({ s with runtime := runtime }.deliver d1 readings fate
      (events.findSome? exchange?)).Ready node := by
  have hsent := retry_sent hready hretry
  obtain ⟨huploader, ⟨-, hsame⟩ | ⟨rows, exchange, -, -, -, -, hcases⟩⟩ :=
    retry_spec hready hretry
  · exact hready.deliver huploader (by rw [hsame]) hsent
  · refine hready.deliver huploader ?_ hsent
    rcases hcases with hsame | ⟨-, hdeleted⟩
    · rw [hsame]
    · rw [hdeleted, HttpUploader.acknowledgeRows_db]

theorem Ready.effect (hready : s.Ready node) (heffect : Effect d1 s t) : t.Ready node := by
  cases heffect with
  | polled hframe =>
      exact ⟨by rw [hframe.uploader]; exact hready.uploader,
        by rw [hframe.store]; exact hready.db, hready.sent⟩
  | flushed hflush => exact hready.flushed hflush
  | flushThrew _ => exact ⟨hready.uploader, hready.db, hready.sent⟩
  | retried hretry => exact hready.retried hretry
  | retryThrew => exact ⟨hready.uploader, hready.db, hready.sent⟩
  | served _ => exact ⟨hready.uploader, hready.db, hready.sent⟩

end System

end Bossa.Protocol
