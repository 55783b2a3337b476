import Bossa.Protocol.Delivery
import Bossa.Runtime.Progress

/-!
# Eventual delivery

Once messages come through again the edge catches up: a retry that is delivered takes
the oldest rows off the offline table, one batch at a time, and nothing that is
delivered adds a row. So whatever was lost before, as many retries as there are batches
in the table bring everything to the Worker that flushes have taken.
-/

namespace Bossa.Sync.HttpUploader

open Telemetry Storage

/-- When no deletion fails, acknowledging the rows in front leaves those behind them. -/
theorem acknowledgeRows_take :
    ∀ (count : ℕ) (store : LocalStore), store.db ≠ none →
      (acknowledgeRows (fun _ => none) ((store.rows.take count).map PendingUpload.toRow)
        store).2.rows = store.rows.drop count
  | 0, store, _ => by
      rw [List.take_zero, List.map_nil, List.drop_zero]
      rfl
  | count + 1, store, hdb => by
      cases hrows : store.rows with
      | nil =>
          rw [List.take_nil, List.map_nil, List.drop_nil]
          exact hrows
      | cons r rows =>
          obtain ⟨hsame, hcases⟩ := store.acknowledge_eq none r.id
          obtain ⟨path, hpath⟩ := Option.ne_none_iff_exists'.mp hdb
          have hdeleted : (store.acknowledge none r.id).2.rows = rows := by
            rcases hcases with ⟨hfailed, -⟩ | ⟨-, hfiltered⟩
            · simp [LocalStore.acknowledge, hpath] at hfailed
            · rw [hfiltered, hrows]
              exact PendingUploads.filter_head_id (hrows ▸ store.rows_ordered)
          have hrest := acknowledgeRows_take count (store.acknowledge none r.id).2
            (by rwa [hsame])
          rw [hdeleted] at hrest
          exact hrest

end Bossa.Sync.HttpUploader

namespace Bossa.Protocol

open Bossa.Core Telemetry Storage Sync Worker Bossa.Runtime

namespace System

variable {d1 : D1} {node : Bytes} {s t : System} {readings : Readings} {fate : Fate}
  {events : List Event} {runtime : TelemetryRuntime} {u : HttpUploader}

theorem frame_effect (heffect : Effect d1 s t) :
    TelemetryRuntime.Frame s.runtime t.runtime := by
  cases heffect with
  | polled hframe => exact hframe.toFrame
  | flushed hflush =>
      rw [deliver_runtime]
      exact TelemetryRuntime.maybeFlush_frame hflush
  | flushThrew _ => exact .refl _
  | retried hretry =>
      rw [deliver_runtime]
      exact TelemetryRuntime.maybeRetry_frame hretry
  | retryThrew => exact .refl _
  | served _ => exact .refl _

/-- The rows of the table can be sent. -/
def RowsSendable (s : System) : Prop :=
  ∀ r ∈ s.runtime.store.rows,
    r.toRow.sample.value.isFinite = true ∧ ValidText r.toRow.sample

theorem RowsSendable.effect (hrows : s.RowsSendable) (hready : s.Ready node)
    (heffect : Effect d1 s t) (hsendable : t.Sendable) : t.RowsSendable := by
  cases heffect with
  | polled hframe =>
      intro r hr
      exact hrows r (by rwa [← hframe.store])
  | flushed hflush =>
      rw [Sendable, deliver_taken] at hsendable
      rw [RowsSendable, deliver_runtime]
      rcases flush_spec hready hflush with ⟨-, -, rfl⟩ | ⟨exchange, -, hsamples, -, -, hcases⟩
      · exact hrows
      · rcases hcases with ⟨-, hsame⟩ | hpersisted
        · rw [hsame]
          exact hrows
        · obtain ⟨new, happended, hnew⟩ := HttpUploader.persistSamples_rows exchange.samples
            (fun _ => none) s.runtime.store
          rw [hpersisted, happended, List.forall_mem_append]
          refine ⟨hrows, fun r hr => ?_⟩
          obtain ⟨x, hx, id, rfl⟩ := hnew r hr
          rw [hsamples] at hx
          obtain ⟨-, hvalue, htext⟩ := hsendable x (List.mem_append_right _ hx)
          exact ⟨hvalue, (validText_toRow_ofSample id x).mpr htext⟩
  | flushThrew _ => exact hrows
  | retried hretry =>
      rw [RowsSendable, deliver_runtime]
      obtain ⟨-, ⟨-, hsame⟩ | ⟨rows, exchange, -, -, -, -, hsame | ⟨-, hdeleted⟩⟩⟩ :=
        retry_spec hready hretry
      · rw [hsame]
        exact hrows
      · rw [hsame]
        exact hrows
      · intro r hr
        rw [hdeleted] at hr
        exact hrows r ((HttpUploader.acknowledgeRows_rows _ _ _).subset hr)
  | retryThrew => exact hrows
  | served _ => exact hrows

theorem RowsSendable.maybeRetry_isOk (hrows : s.RowsSendable)
    (hnode : ∀ v, s.runtime.uploader = some v → Bytes.validUtf8 v.nodeId = true)
    (input : AttemptInput) : ∃ r, s.runtime.maybeRetry false input = .ok r :=
  TelemetryRuntime.maybeRetry_isOk hnode (fun r hr => (hrows r hr).2) false input

/-- The edge posts with an uploader that the Worker answers: it has a node id and a key, and
its database is open. -/
structure Posting (node : Bytes) (u : HttpUploader) (s : System) : Prop where
  ready : s.Ready node
  uploader : s.runtime.uploader = some u
  storeOpen : s.runtime.storeOpen = true
  node_ne_nil : node ≠ []
  valid : Bytes.validUtf8 node = true
  key : ∃ h : u.apiKey ≠ [], isHttpWhitespace (u.apiKey.getLast h) = false

theorem Posting.effect (hposting : s.Posting node u) (heffect : Effect d1 s t) :
    t.Posting node u where
  ready := hposting.ready.effect heffect
  uploader := (frame_effect heffect).uploader.trans hposting.uploader
  storeOpen := (frame_effect heffect).storeOpen.trans hposting.storeOpen
  node_ne_nil := hposting.node_ne_nil
  valid := hposting.valid
  key := hposting.key

theorem Posting.accepted (hposting : s.Posting node u) {sentAt : ℤ}
    {samples : List StoredSample} {request : HttpRequest}
    (hrequest : u.request sentAt samples = .ok request)
    (hvalues : ∀ x ∈ samples, x.value.isFinite = true) (serverNow : Bytes)
    (database : Database) :
    HttpUploader.interpretResponse
      (Fate.delivered.response (answer d1 serverNow request database).1) = .accepted := by
  obtain ⟨hkey, hlast⟩ := hposting.key
  have hnode := (hposting.ready.uploader u hposting.uploader).1
  have hanswer : (answer d1 serverNow request database).1 = .ok 202 :=
    handleTelemetry_request_accepted hrequest (hnode ▸ hposting.node_ne_nil)
      (authorized_request hrequest hkey hlast) hvalues
  rw [hanswer]
  rfl

/-- A flush that is delivered leaves the table alone, and no failure waits behind it that
has not waited before. -/
theorem Posting.flush_delivered (hposting : s.Posting node u)
    (hvalues : ∀ x ∈ s.batch readings.now, x.value.isFinite = true)
    (hflush : s.runtime.maybeFlush (s.attemptInput d1 readings .delivered) =
      .ok (events, runtime)) :
    runtime.store = s.runtime.store ∧
      (runtime.retryAttempt = 0 ∨ runtime.backoff = s.runtime.backoff) := by
  rcases TelemetryRuntime.maybeFlush_cases hflush with
    ⟨-, -, rfl⟩ | ⟨hdue, v, buffer, attempt, hv, hbuffer, hne, hupload, -, rfl⟩
  · exact ⟨rfl, .inr rfl⟩
  · cases hposting.uploader.symm.trans hv
    obtain ⟨request, hrequest, -, hresult, hcases⟩ := HttpUploader.upload_cases hne hupload
    have hbatch : s.batch readings.now = (drain s.runtime.maxBatch buffer).1 := by
      simp only [batch, hbuffer]
      exact if_pos hdue
    rw [hbatch] at hvalues
    have haccepted : attempt.result = .accepted :=
      hresult.trans (hposting.accepted hrequest hvalues readings.serverNow s.database)
    rw [haccepted] at hcases ⊢
    rcases hcases with ⟨-, -, hstore⟩ | ⟨hfailed, -⟩
    · exact ⟨hstore, .inl rfl⟩
    · cases hfailed

/-- A retry that is delivered while no failure waits takes the oldest rows off the table. -/
theorem Posting.retry_delivered (hposting : s.Posting node u) (hrows : s.RowsSendable)
    (hwait : s.runtime.backoff.Ready readings.now)
    (hretry : s.runtime.maybeRetry false (s.attemptInput d1 readings .delivered) =
      .ok (events, runtime)) :
    runtime.store.rows = s.runtime.store.rows.drop s.runtime.maxBatch ∧
      (runtime.retryAttempt = 0 ∨ runtime.backoff = s.runtime.backoff) := by
  rcases TelemetryRuntime.maybeRetry_due_cases hretry with
    ⟨hnot, -, rfl⟩ | ⟨-, v, attempt, hv, -, hpending, hattempt, -, rfl⟩
  · have hnil : s.runtime.store.rows = [] := by
      by_contra hne
      refine Bool.false_ne_true (hnot.symm.trans (TelemetryRuntime.retryDue_iff.mpr
        ⟨⟨⟨?_, hposting.storeOpen⟩, ?_⟩, hwait⟩))
      · rw [hposting.uploader]
        rfl
      · simpa [LocalStore.pendingCount] using hne
    rw [hnil, List.drop_nil]
    exact ⟨rfl, .inr rfl⟩
  · cases hposting.uploader.symm.trans hv
    obtain ⟨-, hstore⟩ := hposting.ready.uploader u hposting.uploader
    have hpeek : s.runtime.store.peekBatch none s.runtime.maxBatch =
        (s.runtime.store.rows.take s.runtime.maxBatch).map PendingUpload.toRow :=
      if_neg s.runtime.maxBatch_pos.ne'
    rcases HttpUploader.retryPending_cases hstore hattempt with
      ⟨hnil, -⟩ | ⟨-, request, hrequest, -, hresult, hcases⟩
    · exact absurd hnil (TelemetryRuntime.peekBatch_ne_nil
        (TelemetryRuntime.pendingCount_ne_zero hpending).2 s.runtime.maxBatch_pos
        (by simp [attemptInput]))
    · have hvalues : ∀ x ∈ (s.runtime.store.peekBatch none s.runtime.maxBatch).map
          PendingRow.sample, x.value.isFinite = true := by
        intro x hx
        rw [hpeek, List.map_map, List.mem_map] at hx
        obtain ⟨r, hr, rfl⟩ := hx
        exact (hrows r (List.mem_of_mem_take hr)).1
      have haccepted : attempt.result = .accepted :=
        hresult.trans (hposting.accepted hrequest hvalues readings.serverNow s.database)
      rw [haccepted] at hcases ⊢
      rcases hcases with ⟨hrefused, -⟩ | ⟨-, -, hdeleted⟩
      · exact absurd rfl hrefused
      · refine ⟨?_, .inl rfl⟩
        change attempt.store.rows = _
        rw [hdeleted]
        change (HttpUploader.acknowledgeRows (fun _ => none)
          (s.runtime.store.peekBatch none s.runtime.maxBatch) s.runtime.store).2.rows = _
        rw [hpeek]
        exact HttpUploader.acknowledgeRows_take _ _ hposting.ready.db

end System

def Action.isRetry : Action → Bool
  | .retry _ _ => true
  | _ => false

/-- The messages of the action come through, and if it is a retry the wait is over. -/
def Action.ComesThrough (wait : Backoff) : Action → Prop
  | .poll _ => True
  | .flush _ fate => fate = .delivered
  | .retry readings fate => fate = .delivered ∧ wait.Ready readings.now
  | .arrive _ _ => True

namespace System

variable {d1 : D1} {node : Bytes} {s t : System} {u : HttpUploader}

/-- An action that comes through adds no row, and a retry takes a batch off. -/
theorem Posting.step (hposting : s.Posting node u) (hrows : s.RowsSendable)
    {action : Action} (hcomes : action.ComesThrough s.runtime.backoff)
    (hstep : s.step d1 action = some t) (hsendable : t.Sendable) :
    t.runtime.store.rows =
        s.runtime.store.rows.drop (if action.isRetry then s.runtime.maxBatch else 0) ∧
      (t.runtime.retryAttempt = 0 ∨ t.runtime.backoff = s.runtime.backoff) := by
  have hold := taken_subset (effect_of_step hstep)
  cases action with
  | poll input =>
      rw [System.step] at hstep
      split at hstep
      · obtain ⟨polled, hpolled, rfl⟩ := Option.map_eq_some_iff.mp hstep
        cases hpoll : s.runtime.pollDue input with
        | error e =>
            rw [hpoll] at hpolled
            cases hpolled
        | ok r =>
            rw [hpoll] at hpolled
            cases hpolled
            have hframe := TelemetryRuntime.pollDue_frame hpoll
            refine ⟨?_, .inr (TelemetryRuntime.pollDue_backoff hpoll).1⟩
            change polled.2.store.rows = s.runtime.store.rows.drop 0
            rw [hframe.store, List.drop_zero]
      · cases hstep
  | flush readings fate =>
      rw [System.step] at hstep
      split at hstep
      · cases hcomes
        cases hstep
        cases hflush : s.runtime.maybeFlush (s.attemptInput d1 readings .delivered) with
        | error e => exact ⟨rfl, .inr rfl⟩
        | ok r =>
            rw [hflush] at hsendable
            have hbatch : ∀ x ∈ s.batch readings.now, x.value.isFinite = true := by
              intro x hx
              refine (hsendable x ?_).2.1
              rw [finish, deliver_taken]
              exact List.mem_append_right _ hx
            rw [finish, deliver_runtime]
            obtain ⟨hstore, hbackoff⟩ := hposting.flush_delivered hbatch hflush
            exact ⟨congrArg LocalStore.rows hstore, hbackoff⟩
      · cases hstep
  | retry readings fate =>
      rw [System.step] at hstep
      split at hstep
      · obtain ⟨rfl, hwait⟩ := hcomes
        cases hstep
        obtain ⟨r, hretry⟩ := hrows.maybeRetry_isOk
          (fun v hv => (hposting.ready.uploader v hv).1 ▸ hposting.valid)
          (s.attemptInput d1 readings .delivered)
        rw [hretry, finish, deliver_runtime]
        exact hposting.retry_delivered hrows hwait hretry
      · cases hstep
  | arrive serverNow index =>
      obtain ⟨exchange, -, rfl⟩ := Option.map_eq_some_iff.mp hstep
      exact ⟨rfl, .inr rfl⟩

/-- While messages come through, every retry takes a batch off the table. -/
theorem Steps.drained {actions : List Action} (hrun : Steps d1 s actions t)
    (hposting : s.Posting node u) (hrows : s.RowsSendable)
    (hcomes : ∀ action ∈ actions, action.ComesThrough s.runtime.backoff)
    (hsendable : t.Sendable) :
    (t.Posting node u ∧ t.RowsSendable ∧ t.runtime.maxBatch = s.runtime.maxBatch) ∧
      (t.runtime.retryAttempt = 0 ∨ t.runtime.backoff = s.runtime.backoff) ∧
      t.runtime.store.rows =
        s.runtime.store.rows.drop (actions.countP Action.isRetry * s.runtime.maxBatch) := by
  induction hrun with
  | nil => exact ⟨⟨hposting, hrows, rfl⟩, .inr rfl, by simp⟩
  | @snoc v t actions action _ hstep ih =>
      have heffect := effect_of_step hstep
      rw [List.forall_mem_append, List.forall_mem_singleton] at hcomes
      obtain ⟨⟨hposting', hrows', hbatch⟩, hwait, hleft⟩ :=
        ih hcomes.1 fun x hx => hsendable x (taken_subset heffect hx)
      -- no failure waits that has not waited before
      have hcomes' : action.ComesThrough v.runtime.backoff := by
        rcases hwait with hreset | hsame
        · cases action with
          | retry readings fate => exact ⟨hcomes.2.1, .inl hreset⟩
          | _ => exact hcomes.2
        · rw [hsame]
          exact hcomes.2
      obtain ⟨hdrop, hbackoff⟩ := hposting'.step hrows' hcomes' hstep hsendable
      have hframe := frame_effect heffect
      refine ⟨⟨hposting'.effect heffect, hrows'.effect hposting'.ready heffect hsendable, ?_⟩,
        ?_, ?_⟩
      · rw [← hbatch, TelemetryRuntime.maxBatch, hframe.config, TelemetryRuntime.maxBatch]
      · rcases hbackoff with hreset | hsame
        · exact .inl hreset
        · rcases hwait with hreset | hsame'
          · exact .inl ((congrArg Backoff.count hsame).trans hreset)
          · exact .inr (hsame.trans hsame')
      · rw [hdrop, hleft, hbatch, List.drop_drop, List.countP_append, List.countP_singleton,
          Nat.add_mul]
        split <;> simp

theorem Steps.posting {actions : List Action} (hrun : Steps d1 s actions t)
    (hposting : s.Posting node u) (hrows : s.RowsSendable) (hsendable : t.Sendable) :
    t.Posting node u ∧ t.RowsSendable := by
  induction hrun with
  | nil => exact ⟨hposting, hrows⟩
  | snoc _ hstep ih =>
      have heffect := effect_of_step hstep
      obtain ⟨hposting', hrows'⟩ := ih fun x hx => hsendable x (taken_subset heffect hx)
      exact ⟨hposting'.effect heffect, hrows'.effect hposting'.ready heffect hsendable⟩

end System

section Runs

variable {d1 : D1} {conversions : YamlConversions} {load : Bytes → Except Bytes Yaml}
  {file : ConfigFile} {path : Bytes} {config : Config} {input : ConfigureInput}
  {s₀ runtime : TelemetryRuntime} {database : Database} {actions actions' : List Action}
  {s t : System}

theorem System.Posting.start (database : Database)
    (hload : loadConfig conversions load file path = .ok config)
    (hconfigure : s₀.configure input config = (true, runtime))
    (hurl : config.server.url ≠ []) (hid : Bytes.validUtf8 config.node.id = true)
    (hkey : ∃ h : runtime.apiKey ≠ [], isHttpWhitespace (runtime.apiKey.getLast h) = false) :
    ∃ u, (System.start runtime database).Posting config.node.id u := by
  obtain ⟨hconfig, -, ⟨hopen, -⟩, huploader⟩ := TelemetryRuntime.configure_spec hconfigure
  have hvalid := loadConfig_valid hload
  rw [TelemetryRuntime.createUploader, hconfig, if_pos hurl] at huploader
  exact ⟨_,
    { ready := .start database hload hconfigure
      uploader := huploader
      storeOpen := hopen.trans (decide_eq_true hvalid.path_ne_nil)
      node_ne_nil := hvalid.nodeId_ne_nil
      valid := hid
      key := hkey }⟩

/-- Eventual delivery: whatever was lost in the run so far, once messages come through and
as many retries have been made after the wait as there are batches in the table, the table
is empty and everything that flushes have taken is at the Worker. -/
theorem eventually_delivered (hload : loadConfig conversions load file path = .ok config)
    (hconfigure : s₀.configure input config = (true, runtime))
    (hurl : config.server.url ≠ []) (hid : Bytes.validUtf8 config.node.id = true)
    (hkey : ∃ h : runtime.apiKey ≠ [], isHttpWhitespace (runtime.apiKey.getLast h) = false)
    (hfound : (System.start runtime database).RowsSendable)
    (hrun : System.Steps d1 (.start runtime database) actions s)
    (hrun' : System.Steps d1 s actions' t)
    (hcomes : ∀ action ∈ actions', action.ComesThrough s.runtime.backoff)
    (henough : s.runtime.store.rows.length ≤
      actions'.countP Action.isRetry * (max 1 config.server.maxBatchSize).toNat)
    (hsendable : t.Sendable) :
    t.runtime.store.rows = [] ∧
      ∀ x ∈ t.taken, wireKey config.node.id x ∈ t.database.telemetryPoints.keys := by
  obtain ⟨u, hstart⟩ := System.Posting.start database hload hconfigure hurl hid hkey
  have hframe : TelemetryRuntime.Frame runtime s.runtime := by
    refine hrun.invariant (Q := fun _ => True)
      (P := fun v => TelemetryRuntime.Frame runtime v.runtime) ?_ (fun _ _ => trivial) (.refl _)
    intro v action w _ hframe hstep
    exact hframe.trans (System.frame_effect (System.effect_of_step hstep))
  have hbatch : s.runtime.maxBatch = (max 1 config.server.maxBatchSize).toNat := by
    rw [TelemetryRuntime.maxBatch, hframe.config,
      (TelemetryRuntime.configure_spec hconfigure).1]
  have hsubset : s.taken ⊆ t.taken := by
    refine hrun'.invariant (Q := fun _ => True) (P := fun v => s.taken ⊆ v.taken) ?_
      (fun _ _ => trivial) (List.Subset.refl _)
    intro v action w _ hsubset hstep
    exact List.Subset.trans hsubset (System.taken_subset (System.effect_of_step hstep))
  obtain ⟨hposting, hrows⟩ := System.Steps.posting hrun hstart hfound
    fun x hx => hsendable x (hsubset hx)
  obtain ⟨-, -, hleft⟩ := System.Steps.drained hrun' hposting hrows hcomes hsendable
  have hempty : t.runtime.store.rows = [] := by
    rw [hleft, hbatch]
    exact List.drop_eq_nil_of_le henough
  refine ⟨hempty, fun x hx => ?_⟩
  rcases System.Steps.kept (hrun.append hrun') hstart.node_ne_nil hid hstart.ready rfl hsendable
    x hx with ⟨r, hr, -⟩ | hkey
  · rw [hempty] at hr
    cases hr
  · exact hkey

def outage : List Action :=
  [.poll (deploymentTick 1 (some 1) 0 0),
    .flush ⟨1000000000, 1000000000, 1000000000, Bytes.ascii "now"⟩
      (.requestLost timedOut),
    .poll (deploymentTick 2 (some 2) 0 0),
    .flush ⟨2000000000, 2000000000, 2000000000, Bytes.ascii "now"⟩
      (.responseLost timedOut)]

/-- Another reading is sent, and the two rows are retried. -/
def recovery : List Action :=
  [.poll (deploymentTick 20 (some 3) 0 0),
    .flush ⟨20000000000, 20000000000, 0, Bytes.ascii "now"⟩ .delivered,
    .retry ⟨20000000000, 20000000000, 0, Bytes.ascii "now"⟩ .delivered,
    .retry ⟨21000000000, 21000000000, 0, Bytes.ascii "now"⟩ .delivered]

/-- After the outage two retries bring all three readings to the Worker. -/
theorem eventually_delivered_two_rows :
    ∃ s t, System.Steps D1.plain (.start (deployed "1" "remote") .empty) outage s ∧
      System.Steps D1.plain s recovery t ∧ s.runtime.store.rows.length = 2 ∧
      t.taken.length = 3 ∧ t.runtime.store.rows = [] ∧
      ∀ x ∈ t.taken, wireKey (deploymentConfig "1" "remote").node.id x ∈
        t.database.telemetryPoints.keys := by
  obtain ⟨s, hrun, hs⟩ := System.exists_steps D1.plain (.start (deployed "1" "remote") .empty)
    outage (fun (s : System) => (System.runSteps D1.plain s recovery).any fun (t : System) =>
      decide (s.runtime.store.rows.length = 2 ∧ s.runtime.nextRetryAt ≤ 20000000000 ∧
        t.taken.length = 3 ∧
        ∀ x ∈ t.taken, Complete x ∧ x.value.isFinite = true ∧ ValidText x))
    (by decide +kernel)
  obtain ⟨t, hrun', ht⟩ := Option.any_eq_true _ _ |>.mp hs
  obtain ⟨hlength, hwait, htaken, hsendable⟩ := of_decide_eq_true ht
  have hkey : ∃ h : (deployed "1" "remote").apiKey ≠ [],
      isHttpWhitespace ((deployed "1" "remote").apiKey.getLast h) = false :=
    ⟨by decide +kernel, by decide +kernel⟩
  have hnone : (System.start (deployed "1" "remote") .empty).runtime.store.rows = [] := by
    decide +kernel
  have hfound : (System.start (deployed "1" "remote") .empty).RowsSendable := by
    intro r hr
    rw [hnone] at hr
    cases hr
  have hcomes : ∀ action ∈ recovery, action.ComesThrough s.runtime.backoff := by
    have hlater : s.runtime.nextRetryAt ≤ 21000000000 := hwait.trans (by decide)
    simp [recovery, Action.ComesThrough, Backoff.Ready, TelemetryRuntime.backoff, hwait, hlater]
  refine ⟨s, t, hrun, System.steps_of_runSteps hrun', hlength, htaken, ?_⟩
  exact eventually_delivered deploymentResult_one_remote configure_one_remote
    (by decide +kernel) (by decide +kernel) hkey hfound hrun (System.steps_of_runSteps hrun')
    hcomes (by rw [hlength]; decide +kernel) hsendable

end Runs

end Bossa.Protocol
