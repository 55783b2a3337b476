import Bossa.Runtime.Confinement
import Bossa.Runtime.History

/-!
# Flushes take everything, in time

The ring buffer has room for one batch, so a flush empties it, and after a tick no flush is
outstanding. What a flush waits for is what the policy has registered: the settings of the
last channel with an id. Where the other channels with that id ask for an earlier flush,
their samples stay in the buffer.
-/

namespace Bossa.Sync.UploadPolicy

variable {now : ℤ} {bufferedCount maxBatchSize : ℕ} {p : UploadPolicy}

theorem shouldFlush_of_pending (hcount : 0 < bufferedCount)
    (h : (p.anyPendingRealtime || p.anyPendingOnChange) = true) :
    p.shouldFlush now bufferedCount maxBatchSize = true := by
  rw [shouldFlush, if_neg (by omega), if_pos h, ite_self]

theorem intervalElapsed_eq_false {id : Bytes} {state : RuntimeState}
    (hcount : 0 < bufferedCount) (h : p.shouldFlush now bufferedCount maxBatchSize = false)
    (hlookup : p.channels.lookup id = some state) : intervalElapsed now state = false := by
  rw [shouldFlush, if_neg (by omega)] at h
  split at h
  · cases h
  · split at h
    · cases h
    · rw [List.any_eq_false] at h
      exact Bool.eq_false_iff.mpr (h ⟨id, state⟩ (AList.mem_lookup_iff.mp hlookup))

end Bossa.Sync.UploadPolicy

namespace Bossa.Runtime

open Bossa.Core Telemetry Storage Sync

/-- Of the channels with one id the last one asks for a flush as early as the others. -/
def LastEntriesCover (config : Config) : Prop :=
  ∀ c ∈ config.channels, c.sync.destinationRemote = true → ∀ d ∈ config.lastEntry c.id,
    (c.sync.mode = .realtime →
        d.sync.mode = .realtime ∧ d.sync.destinationRemote = true) ∧
      (c.sync.mode = .batch → d.sync.mode = .batch ∧ d.sync.destinationRemote = true ∧
        d.sync.remoteIntervalSeconds ≤ c.sync.remoteIntervalSeconds)

instance (config : Config) : Decidable (LastEntriesCover config) :=
  inferInstanceAs (Decidable (∀ c ∈ config.channels, _))

/-- The POST of a flush, with the clock reading it was begun at. -/
def Event.flush : Event → Option (ℤ × Exchange)
  | post .flush now exchange => some (now, exchange)
  | _ => none

def flushes (events : List Event) : List (ℤ × Exchange) := events.filterMap Event.flush

theorem mem_flushes {events : List Event} {now : ℤ} {exchange : Exchange} :
    (now, exchange) ∈ flushes events ↔ .post .flush now exchange ∈ events := by
  rw [flushes, List.mem_filterMap]
  constructor
  · rintro ⟨e, he, hflush⟩
    rcases e with _ | _ | ⟨_ | _⟩ | _ <;> cases hflush
    exact he
  · exact fun he => ⟨_, he, rfl⟩

theorem flushes_append (events events' : List Event) :
    flushes (events ++ events') = flushes events ++ flushes events' :=
  List.filterMap_append

theorem flushes_of_isPoll {events : List Event} (h : ∀ e ∈ events, TelemetryRuntime.IsPoll e) :
    flushes events = [] :=
  List.filterMap_eq_nil_iff.mpr fun e he => by cases h e he <;> rfl

namespace TelemetryRuntime

variable {s s' : TelemetryRuntime} {events : List Event}

theorem maybeRetry_keeps {countFault : Bool} {input : AttemptInput}
    (h : s.maybeRetry countFault input = .ok (events, s')) :
    s'.residents = s.residents ∧ s'.policy = s.policy := by
  rcases maybeRetry_cases h with ⟨-, rfl⟩ | ⟨uploader, attempt, -, -, -, -, rfl⟩
  · exact ⟨rfl, rfl⟩
  · cases attempt.result <;> exact ⟨rfl, rfl⟩

theorem flushes_attemptEvents (route : Route) (now : ℤ) (attempt : Attempt) :
    flushes (attemptEvents route now attempt) =
      flushes (attempt.exchange.map (Event.post route now)).toList := by
  have hstatements : ∀ statements : List Statement,
      flushes (statements.map Event.statement) = [] := fun _ =>
    List.filterMap_eq_nil_iff.mpr fun _ he => by
      obtain ⟨_, -, rfl⟩ := List.mem_map.mp he
      rfl
  rw [attemptEvents, flushes_append, hstatements, List.append_nil]

/-- A flush that is due posts everything in the ring buffer, once, and empties it. -/
theorem maybeFlush_empties {input : AttemptInput} (hwired : s.Wired)
    (hbatch : 0 < s.config.server.maxBatchSize) (hdue : s.flushDue input.now = true)
    (h : s.maybeFlush input = .ok (events, s')) :
    s'.residents = [] ∧ ∃ exchange : Exchange, exchange.samples = s.residents ∧
      flushes events = [(input.now, exchange)] := by
  rcases maybeFlush_cases h with
    ⟨hwait, -⟩ | ⟨-, uploader, buffer, attempt, -, hbuffer, hne, hupload, rfl, rfl⟩
  · rw [hdue] at hwait
    cases hwait
  · obtain ⟨request, hrequest, hexchange, -, -⟩ := HttpUploader.upload_cases hne hupload
    obtain ⟨hall, hrest⟩ := drain_all hwired hbatch hbuffer
    refine ⟨?_, ⟨(drain s.maxBatch buffer).1, request, input.client request,
      HttpUploader.records_request hrequest⟩, ?_, ?_⟩
    · cases attempt.result <;> exact hrest
    · dsimp only
      rw [hall, residents, hbuffer]
      rfl
    · rw [flushes_attemptEvents, hexchange]
      rfl

theorem flushes_ne_nil_of_due {input : AttemptInput} (hdue : s.flushDue input.now = true)
    (h : s.maybeFlush input = .ok (events, s')) : flushes events ≠ [] := by
  rcases maybeFlush_cases h with
    ⟨hwait, -⟩ | ⟨-, uploader, buffer, attempt, -, -, hne, hupload, rfl, -⟩
  · rw [hdue] at hwait
    cases hwait
  · obtain ⟨request, _, hexchange, -, -⟩ := HttpUploader.upload_cases hne hupload
    rw [flushes_attemptEvents, hexchange]
    exact List.cons_ne_nil _ _

theorem flushes_maybeRetry {countFault : Bool} {input : AttemptInput}
    (h : s.maybeRetry countFault input = .ok (events, s')) : flushes events = [] := by
  rcases maybeRetry_cases h with ⟨hevents, -⟩ | ⟨uploader, attempt, -, -, -, rfl, -⟩
  · rcases hevents with rfl | rfl <;> rfl
  · have hattempt : flushes (attemptEvents .retry input.now attempt) = [] := by
      rw [flushes_attemptEvents]
      cases attempt.exchange <;> rfl
    exact hattempt

theorem channel_of_mem_recordSamples {channelId : Bytes} {channel channel' : ChannelConfig}
    {now now' : ℤ} {sample : Sample} :
    ∀ {samples : List Sample} {s : TelemetryRuntime},
      .read channel' now' sample ∈ (s.recordSamples channelId channel now samples).1 →
      channel = channel'
  | [], _, h => by cases h
  | _ :: samples, s, h => by
      rcases List.mem_append.mp h with h | h
      · rcases List.mem_cons.mp h with h | h
        · cases h
          rfl
        · obtain ⟨d, -, h⟩ := Option.map_eq_some_iff.mp (Option.mem_toList.mp h)
          cases h
      · exact channel_of_mem_recordSamples h

theorem mem_read_pollChannels {channel : ChannelConfig} {now : ℤ} {sample : Sample}
    {input : TickInput} :
    ∀ {polls : List Bytes} {index : ℕ} {s : TelemetryRuntime},
      .read channel now sample ∈ (s.pollChannels input index polls).1 →
      ∃ id binding, s.channels.lookup id = some binding ∧ binding.config = channel
  | [], _, _, h => by cases h
  | channelId :: polls, index, s, h => by
      rw [pollChannels, List.mem_append] at h
      rcases h with h | h
      · rw [pollChannel] at h
        split at h
        · cases h
        · next binding hbinding =>
            exact ⟨channelId, binding, hbinding, channel_of_mem_recordSamples h⟩
      · obtain ⟨id, binding, hlookup, hconfig⟩ := mem_read_pollChannels h
        rw [(pollChannel_frame channelId (input.reads index) (input.pollNow index) s).channels]
          at hlookup
        exact ⟨id, binding, hlookup, hconfig⟩

/-- What a tick does with the buffer: it polls, and then either keeps what is buffered,
because no flush is due, or posts it all at once. -/
theorem tick_flushes {input : TickInput} (hwired : s.Wired)
    (hbatch : 0 < s.config.server.maxBatchSize) (hne : s.channels.entries ≠ [])
    (h : s.tick input = .ok (events, s')) :
    ∃ pollEvents polled laterEvents, s.pollDue input = .ok (pollEvents, polled) ∧
      events = pollEvents ++ laterEvents ∧ laterEvents.flatMap Event.readSamples = [] ∧
      ((polled.flushDue input.flush.now = false ∧ s'.residents = polled.residents ∧
          s'.policy = polled.policy ∧ flushes events = []) ∨
        (polled.flushDue input.flush.now = true ∧ s'.residents = [] ∧
          ∃ exchange : Exchange, exchange.samples = polled.residents ∧
            flushes events = [(input.flush.now, exchange)])) := by
  rcases tick_cases h with
    ⟨hnil, -⟩ | ⟨-, pollEvents, polled, flushEvents, flushed, retryEvents, hpoll, hflush,
      hretry, rfl⟩
  · exact absurd hnil hne
  · have hframe := (pollDue_frame hpoll).toFrame
    obtain ⟨hresidents, hpolicy⟩ := maybeRetry_keeps hretry
    have hreads : (flushEvents ++ retryEvents).flatMap Event.readSamples = [] :=
      flatMap_flush_retry (fun _ _ _ => rfl) (fun _ => rfl) hflush hretry
    have hflushes : flushes (pollEvents ++ flushEvents ++ retryEvents) = flushes flushEvents := by
      rw [flushes_append, flushes_append, flushes_of_isPoll (pollDue_isPoll hpoll),
        flushes_maybeRetry hretry, List.nil_append, List.append_nil]
    refine ⟨pollEvents, polled, flushEvents ++ retryEvents, hpoll, List.append_assoc _ _ _,
      hreads, ?_⟩
    rw [hflushes]
    cases hdue : polled.flushDue input.flush.now with
    | false =>
        rcases maybeFlush_cases hflush with ⟨-, rfl, rfl⟩ | ⟨hdue', -⟩
        · exact .inl ⟨rfl, hresidents, hpolicy, rfl⟩
        · rw [hdue] at hdue'
          cases hdue'
    | true =>
        obtain ⟨hempty, exchange, hsamples, hpost⟩ := maybeFlush_empties
          (hframe.wired hwired) (by rwa [hframe.config]) hdue hflush
        exact .inr ⟨rfl, hresidents.trans hempty, exchange, hsamples, hpost⟩

theorem flushes_tick {input : TickInput} (hwired : s.Wired)
    (hbatch : 0 < s.config.server.maxBatchSize) (h : s.tick input = .ok (events, s')) :
    flushes events = [] ∨ ∃ pollEvents polled exchange,
      s.pollDue input = .ok (pollEvents, polled) ∧ polled.flushDue input.flush.now = true ∧
        exchange.samples = polled.residents ∧ flushes events = [(input.flush.now, exchange)] := by
  by_cases hnil : s.channels.entries = []
  · rcases tick_cases h with ⟨-, rfl, -⟩ | ⟨hne, -⟩
    · exact .inl rfl
    · exact absurd hnil hne
  · obtain ⟨pollEvents, polled, laterEvents, hpoll, -, -, hcases⟩ :=
      tick_flushes hwired hbatch hnil h
    rcases hcases with ⟨-, -, -, hnone⟩ | ⟨hdue, -, exchange, hsamples, hone⟩
    · exact .inl hnone
    · exact .inr ⟨pollEvents, polled, exchange, hpoll, hdue, hsamples, hone⟩

theorem read_of_pollDue {channel : ChannelConfig} {now : ℤ} {sample : Sample}
    {input : TickInput} (hbound : s.BoundById) (h : s.pollDue input = .ok (events, s'))
    (hmem : .read channel now sample ∈ events) :
    ∃ binding, s.channels.lookup channel.id = some binding ∧ binding.config = channel := by
  obtain ⟨dispatch, -, rfl, rfl⟩ := pollDue_cases h
  obtain ⟨id, binding, hlookup, rfl⟩ := mem_read_pollChannels hmem
  exact ⟨binding, by rw [hbound id binding hlookup, hlookup], rfl⟩

theorem flushDue_eq_shouldFlush (hwired : s.Wired) (huploader : s.uploader.isSome = true)
    (now : ℤ) :
    s.flushDue now = s.policy.shouldFlush now s.residents.length s.maxBatch := by
  obtain ⟨uploader, huploader⟩ := Option.isSome_iff_exists.mp huploader
  obtain ⟨buffer, hbuffer⟩ := Option.isSome_iff_exists.mp hwired.buffer_isSome
  simp [flushDue, huploader, hbuffer, residents]

/-- A runtime that was configured to upload. -/
structure Uploads (s : TelemetryRuntime) : Prop where
  wired : s.Wired
  boundById : s.BoundById
  uploader : s.uploader.isSome = true

theorem Frame.uploads (h : Frame s s') (huploads : s.Uploads) : s'.Uploads where
  wired := h.wired huploads.wired
  boundById := h.boundById huploads.boundById
  uploader := by rw [h.uploader, huploads.uploader]

theorem uploads_of_configure {input : ConfigureInput} {config : Config}
    (h : s.configure input config = (true, s')) (hurl : config.server.url ≠ []) :
    s'.Uploads where
  wired := configure_wired h
  boundById := configure_boundById h
  uploader := by
    obtain ⟨hconfig, -, -, huploader⟩ := configure_spec h
    rw [huploader, createUploader, hconfig, if_pos hurl]
    rfl

theorem flushDue_of_triggered {input : TickInput} (huploads : s.Uploads)
    (h : s.pollDue input = .ok (events, s')) (htriggered : Triggered events s.policy)
    (hresident : s'.residents ≠ []) (now : ℤ) : s'.flushDue now = true := by
  have hpolled := (pollDue_frame h).toFrame.uploads huploads
  have hpending := pending_of_triggered (pollDue_isPoll h) htriggered
  rw [← pollDue_policy huploads.boundById h] at hpending
  rw [flushDue_eq_shouldFlush hpolled.wired hpolled.uploader]
  exact UploadPolicy.shouldFlush_of_pending (List.length_pos_iff.mpr hresident) hpending

end TelemetryRuntime

open TelemetryRuntime

/-- No flush is outstanding after the tick, and a flush in it posted everything that was in
the buffer. -/
structure FlushesAll (config : Config) (t : Tick) (u : TelemetryRuntime) : Prop where
  settled : u.residents = [] ∨ u.policy.shouldFlush t.input.flush.now u.residents.length
    config.server.maxBatchSize.toNat = false
  complete : ∀ pollEvents polled, t.before.pollDue t.input = .ok (pollEvents, polled) →
    ∀ now exchange, .post .flush now exchange ∈ t.events → exchange.samples = polled.residents

/-- A sample of a realtime channel that is in the buffer after the polls is posted in the
tick in which it was read, and no sample stays in the buffer when the interval of a batch
channel has elapsed since the last completed flush, or since its registration. -/
structure FlushesInTime (config : Config) (s : TelemetryRuntime) (past : List Tick) (t : Tick)
    (u : TelemetryRuntime) : Prop where
  realtime : ∀ pollEvents polled, t.before.pollDue t.input = .ok (pollEvents, polled) →
    ∀ channel now sample, .read channel now sample ∈ t.events →
    channel.sync.mode = .realtime → channel.sync.destinationRemote = true →
    .fromSample sample channel.sync.priority ∈ polled.residents →
    ∃ now exchange, .post .flush now exchange ∈ t.events ∧
      .fromSample sample channel.sync.priority ∈ exchange.samples
  batch : u.residents ≠ [] → ∀ c ∈ config.channels, c.sync.mode = .batch →
    c.sync.destinationRemote = true →
    ∃ state, s.policy.channels.lookup c.id = some state ∧
      t.input.flush.now - (lastCompleted (eventsOf (past ++ [t]))).getD state.lastFlush <
        c.sync.remoteIntervalSeconds * 1000000000

theorem exists_registered {input : ConfigureInput} {config : Config} {s₀ s : TelemetryRuntime}
    (hpolled : ∀ c ∈ config.channels, c.polled = true)
    (hconfigure : s₀.configure input config = (true, s)) {c : ChannelConfig}
    (hc : c ∈ config.channels) :
    ∃ d ∈ config.lastEntry c.id, ∃ state, s.policy.channels.lookup c.id = some state ∧
      state.config = syncState d := by
  have hfound : (config.lastEntry c.id).isSome = true :=
    List.find?_isSome.mpr ⟨c, List.mem_reverse.mpr hc, by simp⟩
  obtain ⟨d, hd⟩ := Option.isSome_iff_exists.mp hfound
  have hconfig := (configure_lookup hpolled hconfigure c.id).1
  rw [hd, Option.map_some] at hconfig
  obtain ⟨state, hstate, hsync⟩ := Option.map_eq_some_iff.mp hconfig
  exact ⟨d, hd, state, hstate, hsync⟩

theorem Ticks.eq_of_channels_nil {s s' : TelemetryRuntime} {ticks : List Tick}
    (hnil : s.channels.entries = []) (hrun : Ticks s ticks s') : s' = s := by
  induction hrun with
  | nil => rfl
  | snoc hinit hstep ih =>
      rcases tick_cases hstep.2 with ⟨-, -, hsame⟩ | ⟨hne, -⟩
      · exact hsame.trans ih
      · rw [ih] at hne
        exact absurd hnil hne

section Tick

variable {t : Tick} {u : TelemetryRuntime}

/-- A tick of a runtime that uploads leaves no flush outstanding. -/
theorem flushesAll_of_tick (huploads : t.before.Uploads)
    (hbatch : 0 < t.before.config.server.maxBatchSize) (hne : t.before.channels.entries ≠ [])
    (htick : t.before.tick t.input = .ok (t.events, u)) :
    FlushesAll t.before.config t u := by
  obtain ⟨pollEvents, polled, laterEvents, hpoll, -, -, hcases⟩ :=
    tick_flushes huploads.wired hbatch hne htick
  have hframe := (pollDue_frame hpoll).toFrame
  have hpolled := hframe.uploads huploads
  rcases hcases with ⟨hwait, hresidents, hpolicy, hnone⟩ | ⟨-, hempty, exchange, hsamples, hone⟩
  · constructor
    · right
      rw [flushDue_eq_shouldFlush hpolled.wired hpolled.uploader, maxBatch, hframe.config] at hwait
      rw [hpolicy, hresidents, ← hwait]
      congr 1
      omega
    · intro _ _ _ now exchange hpost
      rw [← mem_flushes, hnone] at hpost
      cases hpost
  · constructor
    · exact .inl hempty
    · intro _ _ hpoll' now exchange' hpost
      cases hpoll.symm.trans hpoll'
      rw [← mem_flushes, hone] at hpost
      cases List.mem_singleton.mp hpost
      exact hsamples

theorem flushed_of_triggered (huploads : t.before.Uploads)
    (hbatch : 0 < t.before.config.server.maxBatchSize) (hne : t.before.channels.entries ≠ [])
    (htick : t.before.tick t.input = .ok (t.events, u)) {pollEvents : List Event}
    {polled : TelemetryRuntime} (hpoll : t.before.pollDue t.input = .ok (pollEvents, polled))
    (htriggered : Triggered pollEvents t.before.policy) (hresident : polled.residents ≠ []) :
    ∃ now exchange, .post .flush now exchange ∈ t.events ∧
      exchange.samples = polled.residents := by
  obtain ⟨_, _, -, hpoll', -, -, hcases⟩ := tick_flushes huploads.wired hbatch hne htick
  cases hpoll.symm.trans hpoll'
  rcases hcases with ⟨hwait, -⟩ | ⟨-, -, exchange, hsamples, hone⟩
  · rw [flushDue_of_triggered huploads hpoll htriggered hresident] at hwait
    cases hwait
  · exact ⟨t.input.flush.now, exchange, mem_flushes.mp (hone ▸ List.mem_singleton_self _),
      hsamples⟩

theorem read_of_tick (huploads : t.before.Uploads)
    (hbatch : 0 < t.before.config.server.maxBatchSize) (hne : t.before.channels.entries ≠ [])
    (htick : t.before.tick t.input = .ok (t.events, u)) {pollEvents : List Event}
    {polled : TelemetryRuntime} (hpoll : t.before.pollDue t.input = .ok (pollEvents, polled))
    {channel : ChannelConfig} {now : ℤ} {sample : Sample}
    (hread : .read channel now sample ∈ t.events) : .read channel now sample ∈ pollEvents := by
  obtain ⟨_, _, laterEvents, hpoll', hevents, hlater, -⟩ :=
    tick_flushes huploads.wired hbatch hne htick
  cases hpoll.symm.trans hpoll'
  rw [hevents, List.mem_append] at hread
  refine hread.resolve_right fun hmem => ?_
  cases List.flatMap_eq_nil_iff.mp hlater _ hmem

/-- A sample of a channel that the policy flushes at once is posted in its tick, if the
buffer keeps it so long. -/
theorem realtime_of_tick (huploads : t.before.Uploads)
    (hbatch : 0 < t.before.config.server.maxBatchSize) (hne : t.before.channels.entries ≠ [])
    (htick : t.before.tick t.input = .ok (t.events, u)) {pollEvents : List Event}
    {polled : TelemetryRuntime} (hpoll : t.before.pollDue t.input = .ok (pollEvents, polled))
    {channel : ChannelConfig} {now : ℤ} {sample : Sample}
    (hread : .read channel now sample ∈ pollEvents) {state : RuntimeState}
    (hstate : t.before.policy.channels.lookup channel.id = some state)
    (hmode : state.config.mode = .realtime) (hremote : state.config.destinationRemote = true)
    {x : StoredSample} (hresident : x ∈ polled.residents) :
    ∃ now exchange, .post .flush now exchange ∈ t.events ∧ x ∈ exchange.samples := by
  obtain ⟨before, after, rfl⟩ := List.append_of_mem hread
  have htriggers : UploadPolicy.triggers (stateAfter channel.id before state) sample.value =
      true := by
    simp [UploadPolicy.triggers, stateAfter_config, hmode, hremote]
  obtain ⟨now', exchange, hpost, hsamples⟩ := flushed_of_triggered huploads hbatch hne htick hpoll
    (triggered_of_read hstate htriggers) (List.ne_nil_of_mem hresident)
  exact ⟨now', exchange, hpost, hsamples ▸ hresident⟩

theorem not_intervalElapsed_of_residents (huploads : t.before.Uploads)
    (hbatch : 0 < t.before.config.server.maxBatchSize) (hne : t.before.channels.entries ≠ [])
    (htick : t.before.tick t.input = .ok (t.events, u)) (hresidents : u.residents ≠ [])
    {id : Bytes} {state : RuntimeState} (hlookup : u.policy.channels.lookup id = some state) :
    UploadPolicy.intervalElapsed t.input.flush.now state = false := by
  have hflushes := flushesAll_of_tick huploads hbatch hne htick
  exact UploadPolicy.intervalElapsed_eq_false (List.length_pos_iff.mpr hresidents)
    (hflushes.settled.resolve_left hresidents) hlookup

end Tick

theorem Ticks.lookup_policy {s s' : TelemetryRuntime} {ticks : List Tick} (hbound : s.BoundById)
    (hrun : Ticks s ticks s') {id : Bytes} {state : RuntimeState}
    (hstate : s.policy.channels.lookup id = some state) :
    s'.policy.channels.lookup id = some (stateAfter id (eventsOf ticks) state) := by
  rw [Ticks.policy_eq hbound hrun, lookup_policyAfter, hstate, Option.map_some]

/-- After every tick no flush is outstanding. When the last entries cover the others, every
channel gets its flush in time. -/
theorem flushes_in_time {conversions : YamlConversions} {load : Bytes → Except Bytes Yaml}
    {file : ConfigFile} {path : Bytes} {config : Config} {input : ConfigureInput}
    {s₀ s u : TelemetryRuntime} {past : List Tick} {t : Tick}
    (hload : loadConfig conversions load file path = .ok config)
    (hconfigure : s₀.configure input config = (true, s)) (hurl : config.server.url ≠ [])
    (hrun : Ticks s (past ++ [t]) u) :
    FlushesAll config t u ∧ (LastEntriesCover config → FlushesInTime config s past t u) := by
  obtain ⟨v, hpast, hbefore, htick⟩ := Transition.Run.concat_iff.mp hrun
  subst hbefore
  have hvalid := loadConfig_valid hload
  have hpolled : ∀ c ∈ config.channels, c.polled = true := fun c hc =>
    polled_of_valid (hvalid.channels c hc)
  have hbound := configure_boundById hconfigure
  have hframe := Ticks.frame hpast
  have huploads := hframe.uploads (uploads_of_configure hconfigure hurl)
  have hconfig : t.before.config = config := hframe.config.trans (configure_spec hconfigure).1
  have hbatch : 0 < t.before.config.server.maxBatchSize := hconfig ▸ hvalid.maxBatchSize_pos
  by_cases hnil : t.before.channels.entries = []
  · -- without channels a tick does nothing
    rcases tick_cases htick with ⟨-, hevents, rfl⟩ | ⟨hne, -⟩
    · have hempty : t.before.residents = [] := by
        rw [Ticks.eq_of_channels_nil (hframe.channels ▸ hnil) hpast,
          residents_configure hconfigure]
      have hnone : ∀ e, e ∉ t.events := by simp [hevents]
      exact ⟨⟨.inl hempty, fun _ _ _ _ _ h => absurd h (hnone _)⟩, fun _ =>
        ⟨fun _ _ _ _ _ _ h => absurd h (hnone _), fun h => absurd hempty h⟩⟩
    · exact absurd hnil hne
  · refine ⟨hconfig ▸ flushesAll_of_tick huploads hbatch hnil htick, fun hcover =>
      ⟨fun pollEvents polled hpoll channel now sample hread hmode hremote hresident => ?_,
        fun hresidents c hc hmode hremote => ?_⟩⟩
    · have hread := read_of_tick huploads hbatch hnil htick hpoll hread
      obtain ⟨binding, hlookup, rfl⟩ := read_of_pollDue huploads.boundById hpoll hread
      rw [hframe.channels] at hlookup
      have hmem := ((configure_lookup hpolled hconfigure _).2 binding hlookup).1
      obtain ⟨d, hd, state, hstate, hsync⟩ := exists_registered hpolled hconfigure hmem
      obtain ⟨hrealtime, hdestination⟩ := (hcover _ hmem hremote d hd).1 hmode
      refine realtime_of_tick huploads hbatch hnil htick hpoll hread
        (Ticks.lookup_policy hbound hpast hstate) ?_ ?_ hresident
      · rw [stateAfter_config, hsync, syncState, hrealtime]
      · rw [stateAfter_config, hsync, syncState, hdestination]
    · obtain ⟨d, hd, state, hstate, hsync⟩ := exists_registered hpolled hconfigure hc
      obtain ⟨hbatchMode, hdestination, hinterval⟩ := (hcover c hc hremote d hd).2 hmode
      have hwaits := not_intervalElapsed_of_residents huploads hbatch hnil htick hresidents
        (Ticks.lookup_policy hbound hrun hstate)
      rw [UploadPolicy.intervalElapsed, stateAfter_config, stateAfter_lastFlush, hsync,
        syncState, hbatchMode, hdestination] at hwaits
      have hshort : t.input.flush.now -
          (lastCompleted (eventsOf (past ++ [t]))).getD state.lastFlush <
            d.sync.remoteIntervalSeconds * 1000000000 := by simpa using hwaits
      exact ⟨state, hstate, hshort.trans_le (by omega)⟩

/-- A sample of a batch channel waits for a sample of a realtime channel, and both are
posted. -/
theorem flushes_in_time_two_channels :
    ∃ (channels : List FleetChannel) (past : List Tick) (t : Tick) (u : TelemetryRuntime),
      Ticks (fleet "10" channels) (past ++ [t]) u ∧
      (eventsOf past).flatMap Event.postedSamples = [] ∧
      (t.events.flatMap Event.postedSamples).length = 3 ∧
      FlushesInTime (fleetConfig "10" channels) (fleet "10" channels) past t u := by
  let channels : List FleetChannel :=
    [⟨"t", "remote", "batch", "60", "0"⟩, ⟨"h", "remote", "realtime", "60", "0"⟩]
  obtain ⟨ticks, u, hrun, hcheck⟩ := exists_ticks (fleet "10" channels)
    [fleetTick 1 [[fleetSample 20 1], []] 202, fleetTick 2 [[fleetSample 20 2],
      [fleetSample 50 3]] 202]
    (fun ticks _ => ticks ≠ [] ∧ (eventsOf ticks.dropLast).flatMap Event.postedSamples = [] ∧
      ∀ t ∈ ticks.getLast?, (t.events.flatMap Event.postedSamples).length = 3)
    (by decide +kernel)
  obtain ⟨hne, hpast, hlast⟩ := of_decide_eq_true hcheck
  rcases List.eq_nil_or_concat ticks with rfl | ⟨past, t, rfl⟩
  · exact absurd rfl hne
  · rw [List.concat_eq_append] at hrun hpast hlast
    refine ⟨channels, past, t, u, hrun, by simpa using hpast, hlast t (by simp), ?_⟩
    exact (flushes_in_time (fleetResult_eq _ _ (by decide +kernel))
      (configure_fleet _ _ (by decide +kernel)) (by decide +kernel) hrun).2 (by decide +kernel)

/-- Of two entries of one id the policy follows the last, and the samples of the other wait
past its interval. -/
theorem not_flushesInTime_one_id :
    ¬ ∀ (conversions : YamlConversions) (load : Bytes → Except Bytes Yaml)
      (file : ConfigFile) (path : Bytes) (config : Config) (input : ConfigureInput)
      (s₀ s u : TelemetryRuntime) (past : List Tick) (t : Tick),
      loadConfig conversions load file path = .ok config →
      s₀.configure input config = (true, s) → config.server.url ≠ [] →
      Ticks s (past ++ [t]) u → FlushesAll config t u ∧ FlushesInTime config s past t u := by
  intro hclaim
  let channels : List FleetChannel :=
    [⟨"t", "remote", "batch", "1", "0"⟩, ⟨"t", "remote", "batch", "60", "0"⟩]
  obtain ⟨ticks, u, hrun, hcheck⟩ := exists_ticks (fleet "10" channels)
    [fleetTick 2 [[fleetSample 20 1], [fleetSample 20 2]] 202]
    (fun ticks u => ticks.map (fun t => t.input.flush.now) = [2000000000] ∧
      lastCompleted (eventsOf ticks) = none ∧ u.residents ≠ []) (by decide +kernel)
  obtain ⟨hclock, hlast, hresidents⟩ := of_decide_eq_true hcheck
  obtain ⟨t, rfl, hnow⟩ := List.map_eq_singleton_iff.mp hclock
  obtain ⟨-, hflushes⟩ := hclaim _ _ _ _ _ _ _ _ u [] t
    (fleetResult_eq _ _ (by decide +kernel)) (configure_fleet _ _ (by decide +kernel))
    (by decide +kernel) hrun
  have hfirst : ∃ c ∈ (fleetConfig "10" channels).channels, c.sync.mode = .batch ∧
      c.sync.destinationRemote = true ∧ c.sync.remoteIntervalSeconds = 1 ∧
      ((fleet "10" channels).policy.channels.lookup c.id).map RuntimeState.lastFlush = some 0 := by
    decide +kernel
  obtain ⟨c, hc, hmode, hremote, hinterval, hregistered⟩ := hfirst
  obtain ⟨state, hstate, hshort⟩ := hflushes.batch hresidents c hc hmode hremote
  rw [hstate, Option.map_some, Option.some_inj] at hregistered
  rw [List.nil_append, hlast, Option.getD_none, hregistered, hnow, hinterval] at hshort
  omega

end Bossa.Runtime
