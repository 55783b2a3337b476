import Bossa.Runtime.Overflow
import Bossa.Telemetry.Scheduler.Range

/-!
# Progress of the retries

A tick of a runtime with a bound channel posts something when rows are pending and no
failure waits: the flush does, or else the retry. A runtime without a channel does nothing
in a tick.
-/

namespace Bossa.Sync

open Telemetry Storage

theorem validText_toRow_ofSample (id : ℤ) (sample : StoredSample) :
    ValidText (PendingUpload.ofSample id sample).toRow.sample ↔ ValidText sample := by
  simp only [ValidText, PendingUpload.toRow, PendingUpload.ofSample,
    CharArray.cString_ofPrefix_cString]

namespace HttpUploader

variable {u : HttpUploader} {client : HttpClient} {faults : StoreFaults} {sentAt : ℤ}
  {store : LocalStore}

/-- A retry does not throw when its texts are valid UTF-8. -/
theorem retryPending_isOk {maxBatch : ℕ} (hnode : Bytes.validUtf8 u.nodeId = true)
    (hrows : ∀ r ∈ store.rows, ValidText r.toRow.sample) :
    ∃ attempt, u.retryPending client faults sentAt maxBatch store = .ok attempt := by
  obtain ⟨count, -, hpeek⟩ := store.peekBatch_eq faults.select maxBatch
  have htexts : ∀ x ∈ (store.peekBatch faults.select maxBatch).map PendingRow.sample,
      ValidText x := by
    intro x hx
    rw [hpeek, List.map_map, List.mem_map] at hx
    obtain ⟨r, hr, rfl⟩ := hx
    exact hrows r (List.mem_of_mem_take hr)
  obtain ⟨request, hrequest⟩ := request_isOk_iff.mpr ⟨hnode, htexts⟩
  unfold retryPending
  split
  · exact ⟨_, rfl⟩
  · dsimp only
    split
    · exact ⟨_, rfl⟩
    · rw [post_eq_ok_iff.mpr ⟨request, hrequest, rfl⟩]
      dsimp only [bind, Except.bind]
      split <;> exact ⟨_, rfl⟩

/-- An upload leaves rows whose texts are valid UTF-8, as those of before and of its batch
are. -/
theorem upload_validText {samples : List StoredSample} {attempt : Attempt}
    (hne : samples ≠ []) (hsamples : ∀ x ∈ samples, ValidText x)
    (hrows : ∀ r ∈ store.rows, ValidText r.toRow.sample)
    (h : u.upload client faults sentAt samples store = .ok attempt) :
    ∀ r ∈ attempt.store.rows, ValidText r.toRow.sample := by
  obtain ⟨request, -, -, -, hcases⟩ := upload_cases hne h
  rcases hcases with ⟨-, -, hstore⟩ | ⟨-, -, hstore⟩
  · rwa [hstore]
  · obtain ⟨new, hnew, hofSample⟩ := u.persistAll_rows samples faults.insert store
    rw [hstore, hnew, List.forall_mem_append]
    refine ⟨hrows, fun r hr => ?_⟩
    obtain ⟨sample, hsample, id, rfl⟩ := hofSample r hr
    exact (validText_toRow_ofSample id sample).mpr (hsamples sample hsample)

end HttpUploader

end Bossa.Sync

namespace Bossa.Runtime

open Bossa.Core Telemetry Storage Sync

namespace TelemetryRuntime

variable {s s' : TelemetryRuntime} {events : List Event}

/-- The texts that the uploads of the runtime would send are valid UTF-8. -/
structure Sendable (s : TelemetryRuntime) : Prop where
  node : ∀ u, s.uploader = some u → Bytes.validUtf8 u.nodeId = true
  residents : ∀ x ∈ s.residents, ValidText x
  rows : ∀ r ∈ s.store.rows, ValidText r.toRow.sample

theorem Sendable.maybeFlush_isOk (hs : s.Sendable) (input : AttemptInput) :
    ∃ r, s.maybeFlush input = .ok r := by
  refine maybeFlush_isOk_iff.mpr fun _ u hu => ⟨hs.node u hu, fun x hx => ?_⟩
  exact hs.residents x (s.residents_drained_subset.1 hx)

theorem residents_maybeFlush_subset {input : AttemptInput}
    (h : s.maybeFlush input = .ok (events, s')) : s'.residents ⊆ s.residents := by
  rcases maybeFlush_cases h with
    ⟨-, -, rfl⟩ | ⟨-, uploader, buffer, attempt, -, hbuffer, -, -, -, rfl⟩
  · exact List.Subset.refl _
  · have hrest : (drain s.maxBatch buffer).2.residents ⊆ s.residents := by
      rw [(drain_eq _ _).2]
      simpa [TelemetryRuntime.residents, hbuffer] using List.drop_subset s.maxBatch buffer.residents
    cases attempt.result <;> exact hrest

theorem Sendable.of_maybeFlush {input : AttemptInput} (hs : s.Sendable)
    (h : s.maybeFlush input = .ok (events, s')) : s'.Sendable := by
  have hframe := maybeFlush_frame h
  have hrest := residents_maybeFlush_subset h
  rcases maybeFlush_cases h with
    ⟨-, -, rfl⟩ | ⟨-, uploader, buffer, attempt, -, hbuffer, hne, hupload, -, rfl⟩
  · exact hs
  · have hbuffered : ∀ x ∈ buffer.residents, ValidText x := by
      simpa [TelemetryRuntime.residents, hbuffer] using hs.residents
    have hbatch : ∀ x ∈ (drain s.maxBatch buffer).1, ValidText x := by
      intro x hx
      rw [(drain_eq _ _).1] at hx
      exact hbuffered x (List.mem_of_mem_take hx)
    have hrows := HttpUploader.upload_validText hne hbatch hs.rows hupload
    refine ⟨fun u hu => hs.node u (hframe.uploader ▸ hu),
      fun x hx => hs.residents x (hrest hx), ?_⟩
    cases attempt.result <;> exact hrows

theorem maybeRetry_isOk (hnode : ∀ u, s.uploader = some u → Bytes.validUtf8 u.nodeId = true)
    (hrows : ∀ r ∈ s.store.rows, ValidText r.toRow.sample) (countFault : Bool)
    (input : AttemptInput) : ∃ r, s.maybeRetry countFault input = .ok r := by
  unfold maybeRetry
  split
  · exact ⟨_, rfl⟩
  · next uploader huploader =>
      split
      · exact ⟨_, rfl⟩
      · dsimp only
        split
        · exact ⟨_, rfl⟩
        · split
          · exact ⟨_, rfl⟩
          · obtain ⟨attempt, hattempt⟩ : ∃ attempt, uploader.retryPending input.client
                input.faults input.sentAt s.maxBatch s.store = .ok attempt :=
              HttpUploader.retryPending_isOk (hnode uploader huploader) hrows
            rw [hattempt]
            exact ⟨_, rfl⟩

theorem Sendable.maybeRetry_isOk (hs : s.Sendable) (countFault : Bool)
    (input : AttemptInput) : ∃ r, s.maybeRetry countFault input = .ok r :=
  TelemetryRuntime.maybeRetry_isOk hs.node hs.rows countFault input

theorem mem_storedSamples_pollChannels {input : TickInput} {x : StoredSample} :
    ∀ (polls : List Bytes) (index : ℕ) (s : TelemetryRuntime),
      x ∈ (s.pollChannels input index polls).1.flatMap Event.storedSamples →
      ∃ i, ∃ sample ∈ (input.reads i).samples, ∃ priority, x = .fromSample sample priority
  | [], _, _, hx => by cases hx
  | channelId :: polls, index, s, hx => by
      rw [pollChannels, List.flatMap_append, List.mem_append] at hx
      rcases hx with hx | hx
      · rw [pollChannel] at hx
        split at hx
        · cases hx
        · next binding hbinding =>
            rw [recordSamples_storedSamples, List.mem_map] at hx
            obtain ⟨sample, hsample, rfl⟩ := hx
            exact ⟨index, sample, hsample, _, rfl⟩
      · exact mem_storedSamples_pollChannels polls (index + 1) _ hx

end TelemetryRuntime

/-- The texts of the samples that the drivers return are valid UTF-8. -/
def TickInput.ValidTexts (input : TickInput) : Prop :=
  ∀ i, ∀ sample ∈ (input.reads i).samples, ValidText (.fromSample sample .normal)

namespace TelemetryRuntime

variable {s s' : TelemetryRuntime} {input : TickInput} {events : List Event}

theorem forall_residents_pollDue {P : StoredSample → Prop} (hs : ∀ x ∈ s.residents, P x)
    (hreads : ∀ i, ∀ sample ∈ (input.reads i).samples, ∀ p, P (.fromSample sample p))
    (h : s.pollDue input = .ok (events, s')) : ∀ x ∈ s'.residents, P x := by
  have hresidents := residents_pollDue_sublist h
  obtain ⟨dispatch, -, rfl, -⟩ := pollDue_cases h
  intro x hx
  rcases List.mem_append.mp (hresidents.subset hx) with hx | hx
  · exact hs x hx
  · obtain ⟨i, sample, hsample, priority, rfl⟩ :=
      mem_storedSamples_pollChannels dispatch.polls 0 s hx
    exact hreads i sample hsample priority

theorem Sendable.of_pollDue (hs : s.Sendable) (hreads : input.ValidTexts)
    (h : s.pollDue input = .ok (events, s')) : s'.Sendable where
  node := fun u hu => hs.node u ((pollDue_frame h).uploader ▸ hu)
  residents := forall_residents_pollDue hs.residents (fun i x hx _ => hreads i x hx) h
  rows := by
    rw [(pollDue_frame h).store]
    exact hs.rows

theorem Sendable.tick_isOk (hs : s.Sendable) (hreads : input.ValidTexts)
    (hpoll : ∃ r, s.pollDue input = .ok r) : ∃ r, s.tick input = .ok r := by
  unfold tick
  split
  · exact ⟨_, rfl⟩
  · obtain ⟨⟨pollEvents, polled⟩, hpoll⟩ := hpoll
    have hpolled := hs.of_pollDue hreads hpoll
    obtain ⟨⟨flushEvents, flushed⟩, hflush⟩ := hpolled.maybeFlush_isOk input.flush
    obtain ⟨⟨retryEvents, retried⟩, hretry⟩ :=
      (hpolled.of_maybeFlush hflush).maybeRetry_isOk input.countFault input.retry
    exact ⟨_, Abort.bind_eq_ok_iff.mpr ⟨_, hpoll, Abort.bind_eq_ok_iff.mpr ⟨_, hflush,
      Abort.bind_eq_ok_iff.mpr ⟨_, hretry, rfl⟩⟩⟩⟩

theorem pollDue_isOk {d : Scheduler.Dispatch} (h : s.scheduler.Returns add64 input.now d) :
    ∃ fuel r, s.pollDue { input with fuel := fuel } = .ok r := by
  obtain ⟨fuel, hdispatch⟩ := h
  exact ⟨fuel, _, Abort.bind_eq_ok_iff.mpr ⟨d, hdispatch, rfl⟩⟩

theorem post_mem_maybeRetry {attemptInput : AttemptInput}
    (hwired : ∀ u, s.uploader = some u → u.hasStore = s.storeOpen)
    (hselect : attemptInput.faults.select = none)
    (hdue : s.retryDue false attemptInput.now = true)
    (h : s.maybeRetry false attemptInput = .ok (events, s')) :
    ∃ now exchange, .post .retry now exchange ∈ events := by
  rcases maybeRetry_attempts hwired (fun _ => by simp [hselect]) h with
    ⟨hwait, -⟩ | ⟨-, request, attempt, _, hexchange, -, -, rfl, -⟩
  · rw [hdue] at hwait
    cases hwait
  · exact ⟨_, _, List.mem_cons_of_mem _ (post_mem_attemptEvents.mpr ⟨⟨rfl, rfl⟩, hexchange⟩)⟩

theorem post_mem_maybeFlush {attemptInput : AttemptInput}
    (hdue : s.flushDue attemptInput.now = true)
    (h : s.maybeFlush attemptInput = .ok (events, s')) :
    ∃ now exchange, .post .flush now exchange ∈ events := by
  rcases maybeFlush_cases h with
    ⟨hwait, -⟩ | ⟨-, uploader, buffer, attempt, -, -, hne, hupload, rfl, -⟩
  · rw [hdue] at hwait
    cases hwait
  · obtain ⟨request, _, hexchange, -, -⟩ := HttpUploader.upload_cases hne hupload
    exact ⟨_, _, post_mem_attemptEvents.mpr ⟨⟨rfl, rfl⟩, hexchange⟩⟩

/-- A tick posts something when rows are pending and no failure waits. -/
theorem post_mem_tick (hwired : s.Wired) (hchannels : s.channels.entries ≠ [])
    (huploader : s.uploader.isSome = true) (hopen : s.storeOpen = true)
    (hrows : s.store.rows ≠ []) (hcount : input.countFault = false)
    (hselect : input.retry.faults.select = none)
    (hready : s.backoff.Ready input.retry.now)
    (h : s.tick input = .ok (events, s')) :
    ∃ route now exchange, .post route now exchange ∈ events := by
  rcases tick_cases h with
    ⟨hnil, -⟩ | ⟨-, pollEvents, polled, flushEvents, flushed, retryEvents, hpoll, hflush,
      hretry, rfl⟩
  · exact absurd hnil hchannels
  · have hpolled := pollDue_frame hpoll
    cases hdue : polled.flushDue input.flush.now with
    | true =>
        obtain ⟨now, exchange, hpost⟩ := post_mem_maybeFlush hdue hflush
        exact ⟨.flush, now, exchange, List.mem_append_left _ (List.mem_append_right _ hpost)⟩
    | false =>
        -- nothing was flushed, so the retry finds the rows and the backoff of before
        have hsame : flushed = polled := by
          rcases maybeFlush_cases hflush with ⟨-, -, hsame⟩ | ⟨hdue', -⟩
          · exact hsame
          · rw [hdue] at hdue'
            cases hdue'
        subst hsame
        rw [hcount] at hretry
        have hretryDue : flushed.retryDue false input.retry.now = true := by
          rw [retryDue_iff, hpolled.uploader, hpolled.storeOpen, hpolled.store,
            (pollDue_backoff hpoll).1]
          exact ⟨⟨⟨huploader, hopen⟩, by simpa [LocalStore.pendingCount] using hrows⟩, hready⟩
        obtain ⟨now, exchange, hpost⟩ :=
          post_mem_maybeRetry (hpolled.toFrame.wired hwired).uploader hselect hretryDue hretry
        exact ⟨.retry, now, exchange, List.mem_append_right _ hpost⟩

end TelemetryRuntime

open TelemetryRuntime

/-- After a successful `configure` with a channel that is polled, a tick posts something
when rows are pending and no failure waits. It ends when the loops of the scheduler do and
its texts are valid UTF-8. -/
theorem pending_retried {input : ConfigureInput} {config : Config}
    {s₀ s u : TelemetryRuntime} {ticks : List Tick} {t : TickInput}
    (hconfigure : s₀.configure input config = (true, s)) (hrun : Ticks s ticks u)
    (hchannel : ∃ channel ∈ config.channels, channel.sampleRateHz.le (.finite 0) = false)
    (hurl : config.server.url ≠ []) (hpath : config.localStorage.path ≠ [])
    (hrows : u.store.rows ≠ []) (hcount : t.countFault = false)
    (hselect : t.retry.faults.select = none)
    (hready : u.retryAttempt = 0 ∨ u.nextRetryAt ≤ t.retry.now) :
    (∀ events u', u.tick t = .ok (events, u') →
        ∃ route now exchange, .post route now exchange ∈ events) ∧
      ((∃ d, u.scheduler.Returns add64 t.now d) → u.Sendable → t.ValidTexts →
        ∃ fuel r, u.tick { t with fuel := fuel } = .ok r) := by
  obtain ⟨hconfig, -, ⟨hopen, -⟩, hcreated⟩ := configure_spec hconfigure
  have hwired := configure_wired hconfigure
  have hframe := Ticks.frame hrun
  constructor
  · intro events u' htick
    refine post_mem_tick (hframe.wired hwired) ?_ ?_ ?_ hrows hcount hselect hready htick
    · rw [hframe.channels]
      exact configure_channels_ne_nil hconfigure hchannel
    · rw [hframe.uploader, hcreated, createUploader, hconfig, if_pos hurl]
      rfl
    · rw [hframe.storeOpen, hopen]
      exact decide_eq_true hpath
  · rintro ⟨d, hreturns⟩ hsendable htexts
    obtain ⟨fuel, hpoll⟩ := pollDue_isOk hreturns
    exact ⟨fuel, hsendable.tick_isOk htexts hpoll⟩

/-- A batch that failed is retried in the next tick after its delay, and this tick ends. -/
theorem pending_retried_two_ticks :
    ∃ ticks u, Ticks (deployed "1" "remote") ticks u ∧ u.store.rows ≠ [] ∧
      (∀ events u', u.tick (deploymentTick 10 none 503 202) = .ok (events, u') →
        ∃ route now exchange, .post route now exchange ∈ events) ∧
      ∃ fuel r, u.tick { deploymentTick 10 none 503 202 with fuel := fuel } = .ok r := by
  obtain ⟨ticks, u, hrun, hcheck⟩ := exists_ticks (deployed "1" "remote")
    [deploymentTick 1 (some 1) 503 503]
    (fun _ u => (u.store.rows ≠ [] ∧ u.nextRetryAt ≤ 10000000000) ∧
      (∀ v ∈ u.uploader, Bytes.validUtf8 v.nodeId = true) ∧ (∀ x ∈ u.residents, ValidText x) ∧
      (∀ r ∈ u.store.rows, ValidText r.toRow.sample) ∧
      (u.scheduler.dispatchDue add64 100 10000000000).toOption.isSome = true)
    (by decide +kernel)
  obtain ⟨⟨hrows, hready⟩, hnode, hresidents, htexts, hdispatch⟩ := of_decide_eq_true hcheck
  obtain ⟨hposts, hends⟩ := pending_retried (t := deploymentTick 10 none 503 202)
    configure_one_remote hrun (by decide +kernel) (by decide +kernel) (by decide +kernel) hrows
    rfl rfl (.inr hready)
  refine ⟨ticks, u, hrun, hrows, hposts, hends ?_ ⟨hnode, hresidents, htexts⟩ ?_⟩
  · cases hresult : u.scheduler.dispatchDue add64 100 10000000000 with
    | error e =>
        rw [hresult] at hdispatch
        cases hdispatch
    | ok d => exact ⟨d, 100, hresult⟩
  · intro i x hx
    cases hx

/-- A reload without channels leaves the pending rows alone. -/
theorem not_pending_retried_no_channels :
    ¬ ∀ (input : ConfigureInput) (config : Config) (s₀ s u u' : TelemetryRuntime)
      (ticks : List Tick) (t : TickInput) (events : List Event),
      s₀.configure input config = (true, s) → Ticks s ticks u → config.server.url ≠ [] →
      config.localStorage.path ≠ [] → u.store.rows ≠ [] → t.countFault = false →
      t.retry.faults.select = none →
      (u.retryAttempt = 0 ∨ u.nextRetryAt ≤ t.retry.now) → u.tick t = .ok (events, u') →
      ∃ route now exchange, .post route now exchange ∈ events := by
  intro hclaim
  let config := { deploymentConfig "1" "remote" with channels := [] }
  obtain ⟨ticks, s₀, -, hcheck⟩ := exists_ticks (deployed "1" "remote")
    [deploymentTick 1 (some 1) 503 503]
    (fun _ s₀ => (s₀.configure deploymentInput config).1 = true ∧
      (s₀.configure deploymentInput config).2.store.rows ≠ [] ∧
      (s₀.configure deploymentInput config).2.retryAttempt = 0 ∧
      (s₀.configure deploymentInput config).2.channels.entries = []) (by decide +kernel)
  obtain ⟨hok, hrows, hready, hnil⟩ := of_decide_eq_true hcheck
  have htick : (s₀.configure deploymentInput config).2.tick (deploymentTick 10 none 503 202) =
      .ok ([], (s₀.configure deploymentInput config).2) := if_pos hnil
  obtain ⟨route, now, exchange, hpost⟩ := hclaim _ _ s₀ _ _ _ [] _ _ (Prod.ext hok rfl) .nil
    (by decide +kernel) (by decide +kernel) hrows rfl rfl (.inl hready) htick
  cases hpost

end Bossa.Runtime
