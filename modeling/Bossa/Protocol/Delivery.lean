import Bossa.Protocol.Attempts

/-!
# Delivery under lost messages

A sample that a flush has taken is in the offline table or has reached the Worker,
whichever POSTs are lost, as long as the payloads can be built. The invariant is
kept by every step: a failed flush persists its batch, rows are deleted only after
the Worker has stored their points, and the Worker removes no point. The row of a
sample is sent as the sample itself would have been sent.
-/

namespace Bossa.Protocol

open Bossa.Core Telemetry Storage Sync Worker Bossa.Runtime

namespace System

/-- The sample is in the offline table or at the Worker, under its key. -/
def Held (node : Bytes) (s : System) (x : StoredSample) : Prop :=
  (∃ r ∈ s.runtime.store.rows, wireKey node r.toRow.sample = wireKey node x) ∨
    wireKey node x ∈ s.database.telemetryPoints.keys

instance (node : Bytes) (s : System) (x : StoredSample) : Decidable (s.Held node x) :=
  inferInstanceAs (Decidable (_ ∨ _))

/-- The sample is in the offline table, with all it was to be sent with, or its key
is at the Worker. -/
def Kept (node : Bytes) (s : System) (x : StoredSample) : Prop :=
  (∃ r ∈ s.runtime.store.rows, wireSample r.toRow.sample = wireSample x) ∨
    wireKey node x ∈ s.database.telemetryPoints.keys

theorem Kept.held {node : Bytes} {s : System} {x : StoredSample} (h : s.Kept node x) :
    s.Held node x := by
  rcases h with ⟨r, hr, hwire⟩ | hkey
  · exact .inl ⟨r, hr, wireKey_congr hwire⟩
  · exact .inr hkey

variable {d1 : D1} {node : Bytes} {s t : System} {readings : Readings} {fate : Fate}
  {events : List Event} {runtime : TelemetryRuntime}

/-- A sample of a flush is persisted, or the Worker has stored it. -/
theorem flush_kept (hnode : node ≠ []) (hready : s.Ready node)
    (hflush : s.runtime.maybeFlush (s.attemptInput d1 readings fate) = .ok (events, runtime))
    {x : StoredSample} (hx : x ∈ s.batch readings.now)
    (hbatch : ∀ y ∈ s.batch readings.now, y.value.isFinite = true) (hcomplete : Complete x)
    {taken : List StoredSample} :
    ({ s with taken := taken, runtime := runtime }.deliver d1 readings fate
      (events.findSome? exchange?)).Kept node x := by
  rcases flush_spec hready hflush with
    ⟨hnil, -, -⟩ | ⟨exchange, hexchange, hsamples, hsent, -, hcases⟩
  · rw [hnil] at hx
    cases hx
  · rw [← hsamples] at hx hbatch
    rcases hcases with ⟨hanswered, -⟩ | hpersisted
    · right
      cases hresult : HttpUploader.interpretResponse
          (fate.response (answer d1 readings.serverNow exchange.request s.database).1) with
      | transientFailure => exact absurd hresult hanswered
      | rejected =>
          obtain ⟨u, sentAt, rfl, hrequest⟩ := hsent
          exact absurd (rejected_of_response hresult)
            (handleTelemetry_request_ne_400 hrequest hnode)
      | accepted =>
          obtain ⟨rfl, haccepted⟩ := accepted_of_response hresult
          rw [hexchange]
          exact key_mem_serve
            (s := { s with taken := taken, runtime := runtime, posts := s.posts ++ [exchange] })
            hsent haccepted hx hcomplete
    · left
      have hvalues : ∀ y ∈ exchange.samples, y.value ≠ .nan := by
        intro y hy hnan
        have hfinite := hbatch y hy
        rw [hnan] at hfinite
        cases hfinite
      obtain ⟨id, hrow⟩ := HttpUploader.exists_mem_persistSamples hready.db hvalues x hx
      refine ⟨_, ?_, wireSample_toRow_ofSample id x⟩
      rw [deliver_runtime, hpersisted]
      exact hrow

theorem flush_rows (hready : s.Ready node)
    (hflush : s.runtime.maybeFlush (s.attemptInput d1 readings fate) = .ok (events, runtime)) :
    s.runtime.store.rows ⊆ runtime.store.rows := by
  rcases flush_spec hready hflush with ⟨-, -, rfl⟩ | ⟨exchange, -, -, -, -, hcases⟩
  · exact List.Subset.refl _
  · rcases hcases with ⟨-, hsame⟩ | hpersisted
    · rw [hsame]
      exact List.Subset.refl _
    · obtain ⟨new, hrows, -⟩ := HttpUploader.persistSamples_rows exchange.samples
        (fun _ => none) s.runtime.store
      rw [hpersisted, hrows]
      exact List.subset_append_left _ _

/-- A retry deletes the row of a sample only when the Worker has stored it. -/
theorem retry_kept (hready : s.Ready node)
    (hretry : s.runtime.maybeRetry false (s.attemptInput d1 readings fate) =
      .ok (events, runtime))
    {x : StoredSample} (hcomplete : Complete x) (hkept : s.Kept node x) :
    ({ s with runtime := runtime }.deliver d1 readings fate
      (events.findSome? exchange?)).Kept node x := by
  rcases hkept with ⟨r, hr, hwire⟩ | hkey
  · obtain ⟨-, ⟨-, hsame⟩ | ⟨rows, exchange, hrows, hexchange, hsamples, hsent, hcases⟩⟩ :=
      retry_spec hready hretry
    · exact .inl ⟨r, by rwa [deliver_runtime, hsame], hwire⟩
    · rcases hcases with hsame | ⟨hresult, hdeleted⟩
      · exact .inl ⟨r, by rwa [deliver_runtime, hsame], hwire⟩
      · by_cases hposted : r.toRow ∈ rows
        · right
          obtain ⟨rfl, haccepted⟩ := accepted_of_response hresult
          have hx : r.toRow.sample ∈ exchange.samples := hsamples ▸ List.mem_map_of_mem hposted
          rw [hexchange, ← wireKey_congr hwire]
          exact key_mem_serve
            (s := { s with runtime := runtime, posts := s.posts ++ [exchange] })
            hsent haccepted hx ((complete_congr hwire).mpr hcomplete)
        · left
          refine ⟨r, ?_, hwire⟩
          rw [deliver_runtime, hdeleted]
          refine HttpUploader.mem_rows_acknowledgeRows hr fun row hrow hid => hposted ?_
          rw [hrows] at hrow ⊢
          exact s.runtime.store.toRow_mem_peekBatch hr hrow hid
  · exact .inr (keys_subset_deliver _ hkey)

/-- A flush goes through when the texts of its batch are valid. -/
theorem flush_isOk (hready : s.Ready node) (hid : Bytes.validUtf8 node = true)
    (htext : ∀ x ∈ s.batch readings.now, ValidText x) :
    ∃ r, s.runtime.maybeFlush (s.attemptInput d1 readings fate) = .ok r := by
  refine TelemetryRuntime.maybeFlush_isOk_iff.mpr fun hdue u hu =>
    ⟨(hready.uploader u hu).1 ▸ hid, fun x hx => htext x ?_⟩
  have hbatch : s.batch readings.now = s.runtime.drained.1 := batch_of_flushDue hdue
  rwa [hbatch]

/-- The samples of a system can be sent: their ids and units are not empty and are
valid UTF-8, and their values are finite. -/
def Sendable (s : System) : Prop :=
  ∀ x ∈ s.taken, Complete x ∧ x.value.isFinite = true ∧ ValidText x

theorem taken_subset (heffect : Effect d1 s t) : s.taken ⊆ t.taken := by
  cases heffect with
  | polled _ => exact List.Subset.refl _
  | flushed _ =>
      rw [deliver_taken]
      exact List.subset_append_left _ _
  | flushThrew _ => exact List.subset_append_left _ _
  | retried _ =>
      rw [deliver_taken]
      exact List.Subset.refl _
  | retryThrew => exact List.Subset.refl _
  | served _ => exact List.Subset.refl _

theorem kept_effect (hnode : node ≠ []) (hid : Bytes.validUtf8 node = true)
    (hready : s.Ready node) (heffect : Effect d1 s t) (hsendable : t.Sendable)
    (hkept : ∀ x ∈ s.taken, s.Kept node x) : ∀ x ∈ t.taken, t.Kept node x := by
  have hold := taken_subset heffect
  cases heffect with
  | polled hframe =>
      intro x hx
      exact (hkept x hx).imp_left fun ⟨r, hr, hwire⟩ => ⟨r, by rwa [hframe.store], hwire⟩
  | @flushed readings fate events runtime hflush =>
      rw [Sendable, deliver_taken] at hsendable
      intro x hx
      rw [deliver_taken] at hx
      rcases List.mem_append.mp hx with htaken | hbatch
      · rcases hkept x htaken with ⟨r, hr, hwire⟩ | hkey
        · refine .inl ⟨r, ?_, hwire⟩
          rw [deliver_runtime]
          exact flush_rows hready hflush hr
        · exact .inr (keys_subset_deliver _ hkey)
      · have hgood := hsendable x hx
        exact flush_kept hnode hready hflush hbatch
          (fun y hy => (hsendable y (List.mem_append_right _ hy)).2.1) hgood.1
  | @flushThrew readings fate e hflush =>
      obtain ⟨r, hr⟩ : ∃ r, s.runtime.maybeFlush (s.attemptInput d1 readings fate) = .ok r :=
        flush_isOk hready hid fun x hx => (hsendable x (List.mem_append_right _ hx)).2.2
      cases hr.symm.trans hflush
  | retried hretry =>
      intro x hx
      rw [deliver_taken] at hx
      exact retry_kept hready hretry (hsendable x (hold hx)).1 (hkept x hx)
  | retryThrew => exact hkept
  | served _ =>
      intro x hx
      exact (hkept x hx).imp_right fun hkey => keys_subset_serve _ _ hkey

theorem Steps.kept {actions : List Action} (hrun : Steps d1 s actions t) (hnode : node ≠ [])
    (hid : Bytes.validUtf8 node = true) (hready : s.Ready node) (hnone : s.taken = [])
    (hsendable : t.Sendable) : ∀ x ∈ t.taken, t.Kept node x := by
  have hinvariant : t.Ready node ∧ (t.Sendable → ∀ x ∈ t.taken, t.Kept node x) := by
    refine Transition.Run.invariant (Q := fun _ => True)
      (P := fun s => s.Ready node ∧ (s.Sendable → ∀ x ∈ s.taken, s.Kept node x)) ?_ hrun
      (fun _ _ => trivial) ⟨hready, fun _ x hx => by simp [hnone] at hx⟩
    rintro s action t - ⟨hready, hkept⟩ hstep
    have heffect := effect_of_step hstep
    refine ⟨hready.effect heffect, fun hsendable => ?_⟩
    exact kept_effect hnode hid hready heffect hsendable
      (hkept fun x hx => hsendable x (taken_subset heffect hx))
  exact hinvariant.2 hsendable

end System

section Runs

variable {d1 : D1} {conversions : YamlConversions} {load : Bytes → Except Bytes Yaml}
  {file : ConfigFile} {path : Bytes} {config : Config} {input : ConfigureInput}
  {s₀ runtime : TelemetryRuntime} {database : Database} {actions : List Action} {t : System}

/-- Delivery under lost messages: in every run in which the node id and the ids and
units of the samples that flushes take are valid UTF-8, each of these samples is in
the offline table or at the Worker, under its key, and no two points at the Worker
have the same key. -/
theorem held_of_validText (hload : loadConfig conversions load file path = .ok config)
    (hconfigure : s₀.configure input config = (true, runtime))
    (hrun : System.Steps d1 (.start runtime database) actions t)
    (hsamples : ∀ x ∈ t.taken, Complete x ∧ x.value.isFinite = true)
    (hid : Bytes.validUtf8 config.node.id = true) (htext : ∀ x ∈ t.taken, ValidText x) :
    (∀ x ∈ t.taken, t.Held config.node.id x) ∧
      (t.database.telemetryPoints.rows.map TelemetryPoint.key).Nodup := by
  refine ⟨fun x hx => ?_, t.database.telemetryPoints.unique⟩
  have hnode := (loadConfig_valid hload).nodeId_ne_nil
  have hready := System.Ready.start database hload hconfigure
  exact (System.Steps.kept hrun hnode hid hready rfl
    (fun y hy => ⟨(hsamples y hy).1, (hsamples y hy).2, htext y hy⟩) x hx).held

/-- A polled sample whose response is lost: it is persisted, retried and stored. -/
theorem held_of_validText_response_lost :
    ∃ t, System.Steps D1.plain (.start (deployed "1" "remote") .empty)
        [.poll (deploymentTick 1 (some 1) 0 0),
          .flush ⟨1000000000, 1000000000, 1000000000, Bytes.ascii "now"⟩
            (.responseLost ⟨⟨0, Bytes.ascii "timeout"⟩, rfl⟩),
          .retry ⟨10000000000, 10000000000, 10000000000, Bytes.ascii "now"⟩ .delivered] t ∧
      t.taken ≠ [] ∧ t.runtime.store.rows = [] ∧
      (∀ x ∈ t.taken, t.Held (deploymentConfig "1" "remote").node.id x) ∧
        (t.database.telemetryPoints.rows.map TelemetryPoint.key).Nodup := by
  obtain ⟨t, hrun, hcheck⟩ := System.exists_steps D1.plain
    (.start (deployed "1" "remote") .empty)
    [.poll (deploymentTick 1 (some 1) 0 0),
      .flush ⟨1000000000, 1000000000, 1000000000, Bytes.ascii "now"⟩
        (.responseLost ⟨⟨0, Bytes.ascii "timeout"⟩, rfl⟩),
      .retry ⟨10000000000, 10000000000, 10000000000, Bytes.ascii "now"⟩ .delivered]
    (fun t => decide (t.taken ≠ [] ∧ t.runtime.store.rows = [] ∧
      (∀ x ∈ t.taken, Complete x ∧ x.value.isFinite = true) ∧ ∀ x ∈ t.taken, ValidText x))
    (by decide +kernel)
  obtain ⟨htaken, hrows, hsamples, htext⟩ := of_decide_eq_true hcheck
  exact ⟨t, hrun, htaken, hrows, held_of_validText deploymentResult_one_remote
    configure_one_remote hrun hsamples (by decide +kernel) htext⟩

/-- A reading of a channel whose id has 64 bytes in UTF-8. The last character has
two bytes, and the second does not fit into the array. -/
def longIdSample : Sample :=
  { deploymentSample 1 with channelId := List.replicate 62 97 ++ [0xC3, 0xA9] }

/-- A flush of that reading throws, and the reading is gone. -/
theorem not_held_truncated_id :
    ¬ ∀ (d1 : D1) (conversions : YamlConversions) (load : Bytes → Except Bytes Yaml)
      (file : ConfigFile) (path : Bytes) (config : Config) (input : ConfigureInput)
      (s₀ runtime : TelemetryRuntime) (database : Database) (actions : List Action)
      (t : System), loadConfig conversions load file path = .ok config →
      s₀.configure input config = (true, runtime) → runtime.apiKey ≠ [] →
      System.Steps d1 (.start runtime database) actions t →
      (∀ x ∈ t.taken, Complete x ∧ x.value.isFinite = true) →
      (∀ x ∈ t.taken, t.Held config.node.id x) ∧
        (t.database.telemetryPoints.rows.map TelemetryPoint.key).Nodup := by
  intro hclaim
  obtain ⟨t, hrun, hcheck⟩ := System.exists_steps D1.plain
    (.start (deployed "1" "remote") .empty)
    [.poll { deploymentTick 1 none 0 0 with reads := fun _ => ⟨[longIdSample], by simp⟩ },
      .flush ⟨1000000000, 1000000000, 1000000000, Bytes.ascii "now"⟩ .delivered]
    (fun t => decide ((∀ x ∈ t.taken, Complete x ∧ x.value.isFinite = true) ∧
      ¬ ∀ x ∈ t.taken, t.Held (deploymentConfig "1" "remote").node.id x))
    (by decide +kernel)
  obtain ⟨hsamples, hlost⟩ := of_decide_eq_true hcheck
  exact hlost (hclaim _ _ _ _ _ _ _ _ _ _ _ _ deploymentResult_one_remote
    configure_one_remote (by decide +kernel) hrun hsamples).1

end Runs

end Bossa.Protocol
