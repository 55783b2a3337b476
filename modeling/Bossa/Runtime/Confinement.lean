import Bossa.Runtime.Accounting

/-!
# Local-only samples

The destinations of a channel are looked at only where a sample triggers a flush.
A flush takes everything in the ring buffer, so a sample of a channel without the
remote destination is posted exactly when a flush begins while it is buffered.
-/

namespace Bossa.Runtime

open Bossa.Core Telemetry Storage Sync

/-- The samples read while polling a channel without the remote destination. -/
def Event.localOnlySamples : Event → List Sample
  | .read channel _ sample => if channel.sync.destinationRemote then [] else [sample]
  | _ => []

def localOnly (events : List Event) : List ℕ :=
  (events.flatMap Event.localOnlySamples).map Sample.origin

/-- No POST contains a local-only sample. -/
def Confined (events : List Event) : Prop :=
  ∀ e ∈ events, ∀ x ∈ e.postedSamples, x.origin ∉ localOnly events

instance (events : List Event) : Decidable (Confined events) :=
  inferInstanceAs (Decidable (∀ e ∈ events, _))

/-- In no tick the condition for a flush holds, after the polls, while a local-only
sample is in the ring buffer. -/
def FlushesRemote (ticks : List Tick) : Prop :=
  ∀ t ∈ ticks, ∀ pollEvents polled, t.before.channels.entries ≠ [] →
    t.before.pollDue t.input = .ok (pollEvents, polled) →
    polled.flushDue t.input.flush.now = true →
    ∀ x ∈ polled.residents, x.origin ∉ localOnly (eventsOf ticks)

namespace TelemetryRuntime

theorem postedSamples_isPoll {events : List Event} (h : ∀ e ∈ events, IsPoll e) :
    ∀ e ∈ events, e.postedSamples = [] := by
  intro e he
  cases h e he <;> rfl

theorem mem_postedSamples_attemptEvents {route : Route} {now : ℤ} {attempt : Attempt}
    {e : Event} {x : StoredSample} (he : e ∈ attemptEvents route now attempt)
    (hx : x ∈ e.postedSamples) :
    ∃ exchange, attempt.exchange = some exchange ∧ x ∈ exchange.samples := by
  rcases List.mem_append.mp he with he | he
  · obtain ⟨exchange, hexchange, rfl⟩ := Option.map_eq_some_iff.mp (Option.mem_toList.mp he)
    exact ⟨exchange, hexchange, hx⟩
  · obtain ⟨s, -, rfl⟩ := List.mem_map.mp he
    cases hx

section Tick

variable {s s' : TelemetryRuntime} {events : List Event} {O : List ℕ}

/-- A flush of admitted samples posts and persists admitted samples. -/
theorem maybeFlush_admitted {input : AttemptInput}
    (hrows : ∀ r ∈ s.store.rows, r.origin ∉ O)
    (hflushes : s.flushDue input.now = true → ∀ x ∈ s.residents, x.origin ∉ O)
    (h : s.maybeFlush input = .ok (events, s')) :
    (∀ e ∈ events, ∀ x ∈ e.postedSamples, x.origin ∉ O) ∧
      ∀ r ∈ s'.store.rows, r.origin ∉ O := by
  rcases maybeFlush_cases h with
    ⟨-, rfl, rfl⟩ | ⟨hdue, uploader, buffer, attempt, -, hbuffer, hne, hupload, rfl, rfl⟩
  · exact ⟨by simp, hrows⟩
  · have hbatch : ∀ x ∈ (drain s.maxBatch buffer).1, x.origin ∉ O := by
      intro x hx
      rw [(drain_eq _ _).1] at hx
      exact hflushes hdue x (by simpa [residents, hbuffer] using List.mem_of_mem_take hx)
    obtain ⟨request, _, hexchange, -, hcases⟩ := HttpUploader.upload_cases hne hupload
    constructor
    · intro e he x hx
      obtain ⟨exchange, heq, hx⟩ := mem_postedSamples_attemptEvents he hx
      cases hexchange.symm.trans heq
      exact hbatch x hx
    · have hstore : ∀ r ∈ attempt.store.rows, r.origin ∉ O := by
        rcases hcases with ⟨-, -, hstore⟩ | ⟨-, -, hstore⟩
        · rwa [hstore]
        · obtain ⟨new, heq, hnew⟩ := uploader.persistAll_rows
            (drain s.maxBatch buffer).1 input.faults.insert s.store
          rw [hstore, heq, List.forall_mem_append]
          refine ⟨hrows, fun r hr => ?_⟩
          obtain ⟨sample, hsample, id, rfl⟩ := hnew r hr
          exact hbatch sample hsample
      cases attempt.result <;> exact hstore

theorem maybeRetry_admitted {countFault : Bool} {input : AttemptInput} (hwired : s.Wired)
    (hrows : ∀ r ∈ s.store.rows, r.origin ∉ O)
    (h : s.maybeRetry countFault input = .ok (events, s')) :
    (∀ e ∈ events, ∀ x ∈ e.postedSamples, x.origin ∉ O) ∧
      ∀ r ∈ s'.store.rows, r.origin ∉ O := by
  rcases maybeRetry_cases h with
    ⟨hevents, rfl⟩ | ⟨uploader, attempt, hu, hopen, hattempt, rfl, rfl⟩
  · refine ⟨fun e he x hx => ?_, hrows⟩
    rcases hevents with rfl | rfl
    · cases he
    · cases List.mem_singleton.mp he
      cases hx
  · have hstore : uploader.hasStore = true := (hwired.uploader uploader hu).trans hopen
    obtain ⟨count, -, hpeek⟩ := s.store.peekBatch_eq input.faults.select s.maxBatch
    rcases HttpUploader.retryPending_cases hstore hattempt with
      ⟨-, rfl⟩ | ⟨-, request, _, hexchange, -, hcases⟩
    · refine ⟨fun e he x hx => ?_, hrows⟩
      rcases List.mem_cons.mp he with rfl | he
      · cases hx
      · obtain ⟨exchange, heq, -⟩ := mem_postedSamples_attemptEvents he hx
        cases heq
    · constructor
      · intro e he x hx
        rcases List.mem_cons.mp he with rfl | he
        · cases hx
        · obtain ⟨exchange, heq, hx⟩ := mem_postedSamples_attemptEvents he hx
          cases hexchange.symm.trans heq
          dsimp only at hx
          rw [hpeek, List.map_map, List.mem_map] at hx
          obtain ⟨r, hr, rfl⟩ := hx
          exact hrows r (List.mem_of_mem_take hr)
      · have hsublist : attempt.store.rows.Sublist s.store.rows := by
          rcases hcases with ⟨-, -, heq⟩ | ⟨-, -, heq⟩
          · rw [heq]
          · rw [heq]
            exact HttpUploader.acknowledgeRows_rows _ _ _
        have hkept : ∀ r ∈ attempt.store.rows, r.origin ∉ O :=
          fun r hr => hrows r (hsublist.subset hr)
        cases attempt.result <;> exact hkept

/-- A tick whose flush takes admitted samples posts and persists such samples only. -/
theorem tick_admitted {input : TickInput} (hwired : s.Wired)
    (hrows : ∀ r ∈ s.store.rows, r.origin ∉ O)
    (hflushes : ∀ pollEvents polled, s.channels.entries ≠ [] →
      s.pollDue input = .ok (pollEvents, polled) →
      polled.flushDue input.flush.now = true → ∀ x ∈ polled.residents, x.origin ∉ O)
    (h : s.tick input = .ok (events, s')) :
    (∀ e ∈ events, ∀ x ∈ e.postedSamples, x.origin ∉ O) ∧
      ∀ r ∈ s'.store.rows, r.origin ∉ O := by
  rcases tick_cases h with
    ⟨-, rfl, rfl⟩ | ⟨hne, pollEvents, polled, flushEvents, flushed, retryEvents, hpoll, hflush,
      hretry, rfl⟩
  · exact ⟨by simp, hrows⟩
  · have hpolled := pollDue_frame hpoll
    obtain ⟨hflushPosts, hflushRows⟩ := maybeFlush_admitted (hpolled.store ▸ hrows)
      (hflushes pollEvents polled hne hpoll) hflush
    have hwired' := (hpolled.toFrame.trans (maybeFlush_frame hflush)).wired hwired
    obtain ⟨hretryPosts, hretryRows⟩ := maybeRetry_admitted hwired' hflushRows hretry
    refine ⟨?_, hretryRows⟩
    rw [List.forall_mem_append, List.forall_mem_append]
    refine ⟨⟨fun e he => ?_, hflushPosts⟩, hretryPosts⟩
    simp [postedSamples_isPoll (pollDue_isPoll hpoll) e he]

theorem drain_all (hwired : s.Wired) (hbatch : 0 < s.config.server.maxBatchSize)
    {buffer : RingBuffer} (hbuffer : s.buffer = some buffer) :
    (drain s.maxBatch buffer).1 = buffer.residents ∧
      (drain s.maxBatch buffer).2.residents = [] := by
  have hcapacity := hwired.capacity
  rw [hbuffer, Option.map_some, Option.some_inj] at hcapacity
  have hsize := buffer.size_le
  rw [hcapacity, bufferCapacity, if_pos hbatch] at hsize
  have hlength : buffer.residents.length ≤ s.maxBatch := by
    rw [buffer.length_residents, maxBatch]
    omega
  rw [(drain_eq _ _).1, (drain_eq _ _).2]
  exact ⟨List.take_of_length_le hlength, List.drop_of_length_le hlength⟩

/-- A flush that is due posts everything in the ring buffer. -/
theorem maybeFlush_posts_residents {input : AttemptInput} (hwired : s.Wired)
    (hbatch : 0 < s.config.server.maxBatchSize) (hdue : s.flushDue input.now = true)
    (h : s.maybeFlush input = .ok (events, s')) :
    ∃ e ∈ events, e.postedSamples = s.residents := by
  rcases maybeFlush_cases h with
    ⟨hwait, -, -⟩ | ⟨-, uploader, buffer, attempt, -, hbuffer, hne, hupload, rfl, -⟩
  · rw [hdue] at hwait
    cases hwait
  · obtain ⟨request, hrequest, hexchange, -, -⟩ := HttpUploader.upload_cases hne hupload
    have hposted : Event.post .flush input.now ⟨(drain s.maxBatch buffer).1, request,
        input.client request, HttpUploader.records_request hrequest⟩ ∈
          attemptEvents .flush input.now attempt := by
      simp [attemptEvents, hexchange]
    refine ⟨_, hposted, ?_⟩
    change (drain s.maxBatch buffer).1 = s.residents
    rw [(drain_all hwired hbatch hbuffer).1]
    simp [residents, hbuffer]

end Tick

end TelemetryRuntime

open TelemetryRuntime

theorem mem_eventsOf {ticks : List Tick} {e : Event} :
    e ∈ eventsOf ticks ↔ ∃ t ∈ ticks, e ∈ t.events :=
  List.mem_flatMap

theorem Ticks.admitted {s s' : TelemetryRuntime} {ticks : List Tick} {O : List ℕ}
    (hwired : s.Wired) (hrows : ∀ r ∈ s.store.rows, r.origin ∉ O) (hrun : Ticks s ticks s')
    (hflushes : ∀ t ∈ ticks, ∀ pollEvents polled, t.before.channels.entries ≠ [] →
      t.before.pollDue t.input = .ok (pollEvents, polled) →
      polled.flushDue t.input.flush.now = true → ∀ x ∈ polled.residents, x.origin ∉ O) :
    (∀ e ∈ eventsOf ticks, ∀ x ∈ e.postedSamples, x.origin ∉ O) ∧
      ∀ r ∈ s'.store.rows, r.origin ∉ O := by
  induction hrun with
  | nil => exact ⟨by simp [eventsOf], hrows⟩
  | snoc hinit hstep ih =>
      rw [List.forall_mem_append] at hflushes
      obtain ⟨hposts, hrows'⟩ := ih hflushes.1
      have hlast := hflushes.2 _ (List.mem_singleton_self _)
      rw [hstep.1] at hlast
      obtain ⟨htick, hrows''⟩ :=
        tick_admitted ((frame hinit).wired hwired) hrows' hlast hstep.2
      refine ⟨?_, hrows''⟩
      rw [eventsOf_append, eventsOf_singleton, List.forall_mem_append]
      exact ⟨hposts, htick⟩

theorem Ticks.mem {s s' : TelemetryRuntime} {ticks : List Tick} (hrun : Ticks s ticks s') :
    ∀ t ∈ ticks, Frame s t.before ∧ ∃ s'', t.before.tick t.input = .ok (t.events, s'') := by
  induction hrun with
  | nil => simp
  | snoc hinit hstep ih =>
      rw [List.forall_mem_append]
      refine ⟨ih, fun t ht => ?_⟩
      cases List.mem_singleton.mp ht
      rw [hstep.1]
      exact ⟨frame hinit, _, hstep.2⟩

theorem localOnly_subset_reads (events : List Event) :
    ∀ o ∈ localOnly events, o ∈ readOrigins events := by
  intro o ho
  obtain ⟨sample, hsample, rfl⟩ := List.mem_map.mp ho
  obtain ⟨e, he, hsample⟩ := List.mem_flatMap.mp hsample
  refine List.mem_map_of_mem (List.mem_flatMap.mpr ⟨e, he, ?_⟩)
  cases e with
  | read channel now sample =>
      rw [Event.localOnlySamples] at hsample
      split at hsample
      · cases hsample
      · exact hsample
  | dropped | post | statement => cases hsample

/-- In a run of a loaded configuration no POST contains a local-only sample if and
only if no flush becomes due while one is in the ring buffer. -/
theorem confined_iff_flushesRemote {conversions : YamlConversions}
    {load : Bytes → Except Bytes Yaml} {file : ConfigFile} {path : Bytes} {config : Config}
    {input : ConfigureInput} {s₀ s s' : TelemetryRuntime} {ticks : List Tick}
    (hload : loadConfig conversions load file path = .ok config)
    (hconfigure : s₀.configure input config = (true, s)) (hrun : Ticks s ticks s')
    (hnodup : (rowOrigins s.store.rows + readOrigins (eventsOf ticks)).Nodup) :
    Confined (eventsOf ticks) ↔ FlushesRemote ticks := by
  have hwired := configure_wired hconfigure
  have hconfig := (configure_spec hconfigure).1
  constructor
  · intro hconfined t ht pollEvents polled hne hpoll hdue x hx
    obtain ⟨hframe, s'', htick⟩ := hrun.mem t ht
    have hpolled := hframe.trans (pollDue_frame hpoll).toFrame
    rcases tick_cases htick with
      ⟨hnil, -⟩ | ⟨-, pollEvents', polled', flushEvents, flushed, retryEvents, hpoll', hflush,
        -, hevents⟩
    · exact absurd hnil hne
    · cases hpoll.symm.trans hpoll'
      have hbatch : 0 < polled.config.server.maxBatchSize := by
        rw [hpolled.config, hconfig]
        exact (loadConfig_valid hload).maxBatchSize_pos
      obtain ⟨e, he, hposted⟩ :=
        maybeFlush_posts_residents (hpolled.wired hwired) hbatch hdue hflush
      refine hconfined e (mem_eventsOf.mpr ⟨t, ht, ?_⟩) x (hposted ▸ hx)
      rw [hevents]
      exact List.mem_append_left _ (List.mem_append_right _ he)
  · intro hflushes
    refine (Ticks.admitted hwired (fun r hr hmem => ?_) hrun hflushes).1
    have hread := localOnly_subset_reads _ _ hmem
    have hrow : r.origin ∈ rowOrigins s.store.rows := List.mem_map_of_mem hr
    exact (Multiset.disjoint_left.mp (Multiset.nodup_add.mp hnodup).2.2) hrow hread

/-- A batch of a remote channel is posted, and no flush found a local-only sample. -/
theorem confined_iff_flushesRemote_one_tick :
    ∃ ticks s', Ticks (deployed "1" "remote") ticks s' ∧
      (eventsOf ticks).flatMap Event.postedSamples ≠ [] ∧ FlushesRemote ticks := by
  obtain ⟨ticks, s', hrun, hcheck⟩ := exists_ticks (deployed "1" "remote")
    [deploymentTick 1 (some 1) 202 202]
    (fun ticks _ => decide ((eventsOf ticks).flatMap Event.postedSamples ≠ [] ∧
      Confined (eventsOf ticks) ∧
      (rowOrigins (deployed "1" "remote").store.rows + readOrigins (eventsOf ticks)).Nodup))
    (by decide +kernel)
  obtain ⟨hposted, hconfined, hnodup⟩ := of_decide_eq_true hcheck
  exact ⟨ticks, s', hrun, hposted,
    (confined_iff_flushesRemote deploymentResult_one_remote
      configure_one_remote hrun hnodup).mp hconfined⟩

/-- A channel for the local destination only fills a batch, which is posted. -/
theorem not_confined_local_channel :
    ¬ ∀ (conversions : YamlConversions) (load : Bytes → Except Bytes Yaml)
      (file : ConfigFile) (path : Bytes) (config : Config) (input : ConfigureInput)
      (s₀ s s' : TelemetryRuntime) (ticks : List Tick),
      loadConfig conversions load file path = .ok config →
      s₀.configure input config = (true, s) → Ticks s ticks s' →
      (rowOrigins s.store.rows + readOrigins (eventsOf ticks)).Nodup →
      Confined (eventsOf ticks) := by
  intro hclaim
  obtain ⟨ticks, s', hrun, hcheck⟩ := exists_ticks (deployed "1" "local")
    [deploymentTick 1 (some 1) 202 202]
    (fun ticks _ => decide (¬ Confined (eventsOf ticks) ∧
      (rowOrigins (deployed "1" "local").store.rows + readOrigins (eventsOf ticks)).Nodup))
    (by decide +kernel)
  obtain ⟨hposted, hnodup⟩ := of_decide_eq_true hcheck
  exact hposted (hclaim _ _ _ _ _ _ _ _ _ _ (deploymentResult_eq (by decide +kernel))
    (configure_deployed (by decide +kernel)) hrun hnodup)

end Bossa.Runtime
