import Bossa.Runtime.Confinement
import Bossa.Runtime.Reload
import Bossa.Runtime.Retry

/-!
# Overflow

The ring buffer holds as many samples as a batch, and whether a batch is full is looked at
only after all due channels have been polled. A tick drops what the polls bring beyond the
capacity. While every POST is answered with 202 every sample that was read has been posted
once or is in the buffer, exactly when no tick reads more than there is room for.
-/

namespace Bossa.Runtime

open Bossa.Core Telemetry Storage Sync
open Ledger (Entry Posts)

namespace Event

/-- The event is not a POST that is answered otherwise than with 202. -/
def answered202 : Event → Bool
  | post _ _ exchange => exchange.response = ⟨202, []⟩
  | _ => true

/-- The event is not a POST that has to be tried again. -/
def answered : Event → Bool
  | post _ _ exchange => HttpUploader.interpretResponse exchange.response ≠ .transientFailure
  | _ => true

theorem answered_of_answered202 {e : Event} (h : e.answered202 = true) : e.answered = true := by
  cases e with
  | post route now exchange =>
      have hresponse : exchange.response = ⟨202, []⟩ := of_decide_eq_true h
      rw [answered, hresponse]
      rfl
  | read | dropped | statement => rfl

def storedSamples : Event → List StoredSample
  | read channel _ sample => [.fromSample sample channel.sync.priority]
  | _ => []

def retriedSamples : Event → List StoredSample
  | post .retry _ exchange => exchange.samples
  | _ => []

end Event

theorem length_storedSamples (events : List Event) :
    (events.flatMap Event.storedSamples).length =
      (events.flatMap Event.readSamples).length := by
  induction events with
  | nil => rfl
  | cons e events ih => cases e <;> simp [Event.storedSamples, Event.readSamples, ih]

theorem origins_postedSamples (events : List Event) :
    origins (events.flatMap Event.postedSamples) =
      origins (events.flatMap Event.flushedSamples) +
        origins (events.flatMap Event.retriedSamples) := by
  induction events with
  | nil => rfl
  | cons e events ih =>
      rcases e with _ | _ | ⟨_ | _⟩ | _ <;>
        simp [Event.postedSamples, Event.flushedSamples, Event.retriedSamples, ih, add_assoc,
          add_left_comm]

namespace TelemetryRuntime

theorem recordSample_storedSamples (channelId : Bytes) (channel : ChannelConfig) (now : ℤ)
    (sample : Sample) (s : TelemetryRuntime) :
    (s.recordSample channelId channel now sample).1.flatMap Event.storedSamples =
      [.fromSample sample channel.sync.priority] := by
  cases hdropped : s.buffer.bind fun b =>
      b.dropped (.fromSample sample channel.sync.priority) with
  | none => simp [recordSample, hdropped, Event.storedSamples]
  | some d => simp [recordSample, hdropped, Event.storedSamples]

theorem recordSamples_storedSamples (channelId : Bytes) (channel : ChannelConfig) (now : ℤ) :
    ∀ (samples : List Sample) (s : TelemetryRuntime),
      (s.recordSamples channelId channel now samples).1.flatMap Event.storedSamples =
        samples.map fun sample => .fromSample sample channel.sync.priority
  | [], _ => rfl
  | sample :: samples, s => by
      have hrest := recordSamples_storedSamples channelId channel now samples
        (s.recordSample channelId channel now sample).2
      rw [recordSamples]
      dsimp only
      rw [List.flatMap_append, hrest, recordSample_storedSamples, List.map_cons,
        List.singleton_append]

theorem recordSamples_buffer (channelId : Bytes) (channel : ChannelConfig) (now : ℤ) :
    ∀ (samples : List Sample) (s : TelemetryRuntime),
      (s.recordSamples channelId channel now samples).2.buffer =
        s.buffer.map fun b => b.enqueueAll
          ((s.recordSamples channelId channel now samples).1.flatMap Event.storedSamples)
  | [], s => by
      cases hb : s.buffer <;> simp [recordSamples, hb, RingBuffer.enqueueAll]
  | sample :: samples, s => by
      have ih := recordSamples_buffer channelId channel now samples
        (s.recordSample channelId channel now sample).2
      rw [recordSamples]
      dsimp only
      rw [ih, List.flatMap_append, recordSample_storedSamples, recordSample, Option.map_map]
      rfl

theorem pollChannels_buffer (input : TickInput) :
    ∀ (polls : List Bytes) (index : ℕ) (s : TelemetryRuntime),
      (s.pollChannels input index polls).2.buffer =
        s.buffer.map fun b => b.enqueueAll
          ((s.pollChannels input index polls).1.flatMap Event.storedSamples)
  | [], index, s => by
      cases hb : s.buffer <;> simp [pollChannels, hb, RingBuffer.enqueueAll]
  | channelId :: polls, index, s => by
      have ih := pollChannels_buffer input polls (index + 1)
        (s.pollChannel channelId (input.reads index) (input.pollNow index)).2
      have hpoll : (s.pollChannel channelId (input.reads index) (input.pollNow index)).2.buffer =
          s.buffer.map fun b => b.enqueueAll
            ((s.pollChannel channelId (input.reads index) (input.pollNow index)).1.flatMap
              Event.storedSamples) := by
        unfold pollChannel
        split
        · cases hb : s.buffer <;> simp [RingBuffer.enqueueAll]
        · exact recordSamples_buffer _ _ _ _ _
      rw [pollChannels]
      dsimp only
      rw [ih, hpoll, Option.map_map, List.flatMap_append]
      simp only [Function.comp_def, RingBuffer.enqueueAll_append]

/-- The polls of a tick leave samples that were there before or came in, in the order of
arrival. -/
theorem residents_pollDue_sublist {input : TickInput} {s s' : TelemetryRuntime}
    {events : List Event} (h : s.pollDue input = .ok (events, s')) :
    s'.residents.Sublist (s.residents ++ events.flatMap Event.storedSamples) := by
  obtain ⟨dispatch, -, rfl, rfl⟩ := pollDue_cases h
  have hbuffer := pollChannels_buffer input dispatch.polls 0 s
  cases hb : s.buffer with
  | none =>
      rw [hb, Option.map_none] at hbuffer
      simp [residents, hbuffer]
  | some b =>
      rw [hb, Option.map_some] at hbuffer
      simp only [residents, hbuffer, hb, Option.elim_some, RingBuffer.residents_enqueueAll]
      exact Selection.best_sublist _ _ _

/-- A tick drops the samples for which there is no room in the buffer. -/
theorem length_dropped_tick {input : TickInput} {s s' : TelemetryRuntime}
    {events : List Event} (hwired : s.Wired) (h : s.tick input = .ok (events, s')) :
    (events.flatMap Event.droppedSamples).length =
      s.residents.length + (events.flatMap Event.readSamples).length -
        bufferCapacity s.config := by
  obtain ⟨buffer, hbuffer⟩ := Option.isSome_iff_exists.mp hwired.buffer_isSome
  have hcapacity := hwired.capacity
  rw [hbuffer, Option.map_some, Option.some_inj] at hcapacity
  have hresidents : s.residents.length = buffer.size := by simp [residents, hbuffer]
  rcases tick_cases h with
    ⟨-, rfl, -⟩ | ⟨-, pollEvents, polled, flushEvents, flushed, retryEvents, hpoll, hflush,
      hretry, rfl⟩
  · have hle := buffer.size_le
    rw [hresidents, ← hcapacity]
    simp only [List.flatMap_nil, List.length_nil, Nat.add_zero]
    omega
  · obtain ⟨dispatch, -, rfl, rfl⟩ := pollDue_cases hpoll
    have hcount := pollChannels_dropCount input dispatch.polls 0 s
    rw [dropCount, pollChannels_buffer, dropCount, hbuffer, Option.map_some, Option.elim_some,
      Option.elim_some, RingBuffer.dropCount_enqueueAll, length_storedSamples, hcapacity] at hcount
    rw [List.append_assoc, List.flatMap_append,
      flatMap_flush_retry (fun _ _ _ => rfl) (fun _ => rfl) hflush hretry, List.append_nil,
      List.flatMap_append, flatMap_flush_retry (fun _ _ _ => rfl) (fun _ => rfl) hflush hretry,
      List.append_nil, hresidents]
    omega

theorem maybeFlush_store_of_answered {input : AttemptInput} {s s' : TelemetryRuntime}
    {events : List Event} (hanswers : ∀ e ∈ events, e.answered = true)
    (h : s.maybeFlush input = .ok (events, s')) : s'.store = s.store := by
  rcases maybeFlush_cases h with
    ⟨-, -, rfl⟩ | ⟨-, uploader, buffer, attempt, -, -, hne, hupload, rfl, rfl⟩
  · rfl
  · obtain ⟨request, _, hexchange, hresult, hstore⟩ := HttpUploader.upload_cases hne hupload
    have hanswered := hanswers _ (post_mem_attemptEvents.mpr ⟨⟨rfl, rfl⟩, hexchange⟩)
    rw [Event.answered, ← hresult, decide_eq_true_eq] at hanswered
    have hstays : attempt.store = s.store :=
      (hstore.resolve_right fun htransient => hanswered htransient.1).2.2
    cases attempt.result <;> exact hstays

theorem pollAndFlush_store_of_answered202 {input : TickInput} {s s' : TelemetryRuntime}
    {events : List Event} (hhealthy : ∀ e ∈ events, e.answered202 = true)
    (h : s.pollAndFlush input = .ok (events, s')) : s'.store = s.store := by
  obtain ⟨pollEvents, polled, flushEvents, hpoll, hflush, rfl⟩ := pollAndFlush_eq_ok_iff.mp h
  rw [List.forall_mem_append] at hhealthy
  have hstore := maybeFlush_store_of_answered (fun e he =>
    Event.answered_of_answered202 (hhealthy.2 e he)) hflush
  exact hstore.trans (pollDue_frame hpoll).store

/-- While the server answers with 202, retries post rows that were pending before. -/
theorem tick_retried {O : List ℕ} {input : TickInput} {s s' : TelemetryRuntime}
    {events : List Event} (hwired : s.Wired) (hrows : ∀ r ∈ s.store.rows, r.origin ∉ O)
    (hhealthy : ∀ e ∈ events, e.answered202 = true) (h : s.tick input = .ok (events, s')) :
    (∀ x ∈ events.flatMap Event.retriedSamples, x.origin ∉ O) ∧
      ∀ r ∈ s'.store.rows, r.origin ∉ O := by
  rcases tick_stages h with
    ⟨-, rfl, rfl⟩ | ⟨-, firstEvents, flushed, retryEvents, hfirst, hretry, rfl⟩
  · exact ⟨by simp, hrows⟩
  · rw [List.forall_mem_append] at hhealthy
    have hstore := pollAndFlush_store_of_answered202 hhealthy.1 hfirst
    obtain ⟨hposted, hrows'⟩ := maybeRetry_admitted ((pollAndFlush_frame hfirst).wired hwired)
      (hstore ▸ hrows) hretry
    refine ⟨fun x hx => ?_, hrows'⟩
    obtain ⟨e, he, hx⟩ := List.mem_flatMap.mp hx
    cases e with
    | post route now exchange =>
        cases route with
        | flush => cases hx
        | retry =>
            rcases List.mem_append.mp he with he | he
            · exact absurd he (not_mem_pollAndFlush hfirst)
            · exact hposted _ he x hx
    | read | dropped | statement => cases hx

end TelemetryRuntime

open TelemetryRuntime

theorem Ticks.retried {s s' : TelemetryRuntime} {ticks : List Tick} {O : List ℕ}
    (hwired : s.Wired) (hrows : ∀ r ∈ s.store.rows, r.origin ∉ O) (hrun : Ticks s ticks s')
    (hhealthy : ∀ e ∈ eventsOf ticks, e.answered202 = true) :
    (∀ x ∈ (eventsOf ticks).flatMap Event.retriedSamples, x.origin ∉ O) ∧
      ∀ r ∈ s'.store.rows, r.origin ∉ O := by
  induction hrun with
  | nil => exact ⟨by simp [eventsOf], hrows⟩
  | snoc hinit hstep ih =>
      rw [eventsOf_append, eventsOf_singleton, List.forall_mem_append] at hhealthy
      obtain ⟨hretried, hrows'⟩ := ih hhealthy.1
      obtain ⟨hlast, hrows''⟩ :=
        tick_retried ((frame hinit).wired hwired) hrows' hhealthy.2 hstep.2
      refine ⟨?_, hrows''⟩
      rw [eventsOf_append, eventsOf_singleton, List.flatMap_append, List.forall_mem_append]
      exact ⟨hretried, hlast⟩

theorem Ticks.buffered_eq {s s' : TelemetryRuntime} {ticks : List Tick} (hwired : s.Wired)
    (hempty : s.residents = []) (hrun : Ticks s ticks s') :
    origins s'.residents + (origins ((eventsOf ticks).flatMap Event.droppedSamples) +
        origins ((eventsOf ticks).flatMap Event.flushedSamples)) =
      readOrigins (eventsOf ticks) := by
  obtain ⟨h', hposts, hbooks⟩ := hrun.posts hwired (booked_openingBooks s)
  have hbalance := hposts.balance .buffered
  rw [outflow_buffered_journal, inflow_buffered_journal, hbooks.buffered] at hbalance
  simpa [openingBooks, hempty] using hbalance

theorem Ticks.dropped_eq_nil_iff {s s' : TelemetryRuntime} {ticks : List Tick}
    (hwired : s.Wired) (hrun : Ticks s ticks s') :
    (eventsOf ticks).flatMap Event.droppedSamples = [] ↔ ∀ t ∈ ticks,
      t.before.residents.length + (t.events.flatMap Event.readSamples).length ≤
        bufferCapacity s.config := by
  rw [eventsOf, List.flatMap_assoc, List.flatMap_eq_nil_iff]
  refine forall₂_congr fun t ht => ?_
  obtain ⟨hframe, s'', htick⟩ := hrun.mem t ht
  have hlength := length_dropped_tick (hframe.wired hwired) htick
  rw [hframe.config] at hlength
  rw [← List.length_eq_zero_iff, hlength]
  omega

/-- Nothing is dropped, and every sample that was read was posted once or is in the
buffer, when samples are told apart by their origins. -/
structure KeepsSamples (s s' : TelemetryRuntime) (events : List Event) : Prop where
  dropCount_eq : s'.dropCount = 0
  once : (rowOrigins s.store.rows + readOrigins events).Nodup → ∀ o ∈ readOrigins events,
    (origins (events.flatMap Event.postedSamples)).count o + (origins s'.residents).count o = 1

/-- In no tick the drivers return more samples than there is room for in the buffer. -/
def FitsBuffer (config : Config) (ticks : List Tick) : Prop :=
  ∀ t ∈ ticks, (t.before.residents.length + (t.events.flatMap Event.readSamples).length : ℤ) ≤
    config.server.maxBatchSize

instance (config : Config) (ticks : List Tick) : Decidable (FitsBuffer config ticks) :=
  inferInstanceAs (Decidable (∀ t ∈ ticks, _))

/-- While every POST is answered with 202, no sample is lost in a run of a loaded
configuration if and only if no tick reads more than there is room for. -/
theorem keepsSamples_iff_fitsBuffer {conversions : YamlConversions}
    {load : Bytes → Except Bytes Yaml} {file : ConfigFile} {path : Bytes} {config : Config}
    {input : ConfigureInput} {s₀ s s' : TelemetryRuntime} {ticks : List Tick}
    (hload : loadConfig conversions load file path = .ok config)
    (hconfigure : s₀.configure input config = (true, s)) (hrun : Ticks s ticks s')
    (hhealthy : ∀ e ∈ eventsOf ticks, e.answered202 = true) :
    KeepsSamples s s' (eventsOf ticks) ↔ FitsBuffer config ticks := by
  have hwired := configure_wired hconfigure
  obtain ⟨hconfig, hbuffer, -, -⟩ := configure_spec hconfigure
  have hempty : s.residents = [] := by simp [residents, hbuffer]
  have hpositive := (loadConfig_valid hload).maxBatchSize_pos
  have hdropped : s'.dropCount = 0 ↔ (eventsOf ticks).flatMap Event.droppedSamples = [] := by
    have hzero : s.dropCount = 0 := by simp [dropCount, hbuffer, RingBuffer.new]
    rw [hrun.dropCount_eq, hzero, Nat.zero_add, List.length_eq_zero_iff]
  have hfits : (eventsOf ticks).flatMap Event.droppedSamples = [] ↔ FitsBuffer config ticks := by
    rw [hrun.dropped_eq_nil_iff hwired, hconfig, bufferCapacity, if_pos hpositive]
    refine forall₂_congr fun t _ => ?_
    omega
  rw [← hfits]
  refine ⟨fun hkeeps => hdropped.mp hkeeps.dropCount_eq, fun hnone =>
    ⟨hdropped.mpr hnone, fun hnodup o ho => ?_⟩⟩
  obtain ⟨-, hreads, hdisjoint⟩ := Multiset.nodup_add.mp hnodup
  have hrows : ∀ r ∈ s.store.rows, r.origin ∉ [o] := by
    intro r hr hmem
    have hrow : r.origin ∈ rowOrigins s.store.rows := List.mem_map_of_mem hr
    rw [List.mem_singleton.mp hmem] at hrow
    exact Multiset.disjoint_left.mp hdisjoint hrow ho
  -- what left the buffer was posted by a flush, and retries post old rows only
  have hretried : (origins ((eventsOf ticks).flatMap Event.retriedSamples)).count o = 0 := by
    refine Multiset.count_eq_zero.mpr fun hmem => ?_
    obtain ⟨x, hx, rfl⟩ := List.mem_map.mp hmem
    exact (hrun.retried hwired hrows hhealthy).1 x hx (List.mem_singleton_self _)
  have hbalance := hrun.buffered_eq hwired hempty
  rw [hnone, origins_nil, zero_add] at hbalance
  rw [origins_postedSamples, Multiset.count_add, hretried, add_zero, add_comm,
    ← Multiset.count_add, hbalance]
  exact Multiset.count_eq_one_of_mem hreads ho

def burstTick (samples : List Sample) (h : samples.length ≤ 8) : TickInput :=
  { deploymentTick 1 none 202 202 with reads := fun _ => ⟨samples, h⟩ }

/-- Two samples in a batch of two. -/
theorem keepsSamples_iff_fitsBuffer_two_samples :
    ∃ ticks s', Ticks (deployed "2" "remote") ticks s' ∧
      (eventsOf ticks).flatMap Event.readSamples = [deploymentSample 1, deploymentSample 2] ∧
      KeepsSamples (deployed "2" "remote") s' (eventsOf ticks) := by
  obtain ⟨ticks, s', hrun, hcheck⟩ := exists_ticks (deployed "2" "remote")
    [burstTick [deploymentSample 1, deploymentSample 2] (by decide)]
    (fun ticks _ => (eventsOf ticks).flatMap Event.readSamples =
        [deploymentSample 1, deploymentSample 2] ∧
      (∀ e ∈ eventsOf ticks, e.answered202 = true) ∧
      FitsBuffer (deploymentConfig "2" "remote") ticks) (by decide +kernel)
  obtain ⟨hreads, hhealthy, hfits⟩ := of_decide_eq_true hcheck
  exact ⟨ticks, s', hrun, hreads,
    (keepsSamples_iff_fitsBuffer (deploymentResult_eq (by decide +kernel))
      (configure_deployed (by decide +kernel)) hrun hhealthy).mpr hfits⟩

/-- Two samples of one read in a batch of one: the second drops the first. -/
theorem not_keepsSamples_two_samples :
    ¬ ∀ (conversions : YamlConversions) (load : Bytes → Except Bytes Yaml)
      (file : ConfigFile) (path : Bytes) (config : Config) (input : ConfigureInput)
      (s₀ s s' : TelemetryRuntime) (ticks : List Tick),
      loadConfig conversions load file path = .ok config → config.server.url ≠ [] →
      s₀.configure input config = (true, s) → Ticks s ticks s' →
      (∀ e ∈ eventsOf ticks, e.answered202 = true) →
      KeepsSamples s s' (eventsOf ticks) := by
  intro hclaim
  obtain ⟨ticks, s', hrun, hcheck⟩ := exists_ticks (deployed "1" "remote")
    [burstTick [deploymentSample 1, deploymentSample 2] (by decide)]
    (fun ticks s' => (∀ e ∈ eventsOf ticks, e.answered202 = true) ∧ s'.dropCount = 1)
    (by decide +kernel)
  obtain ⟨hhealthy, hdropped⟩ := of_decide_eq_true hcheck
  have hkeeps := hclaim _ _ _ _ _ _ _ _ s' ticks deploymentResult_one_remote
    (by decide +kernel) configure_one_remote hrun hhealthy
  rw [hkeeps.dropCount_eq] at hdropped
  cases hdropped

end Bossa.Runtime
