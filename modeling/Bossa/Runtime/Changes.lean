import Bossa.Runtime.Interval
import Bossa.Runtime.Steady

/-!
# The changes that are uploaded

The upload policy compares every reading of an on-change channel, but what it finds only
decides when to flush: every reading goes to the buffer, and a flush takes all of it. The
readings that were accepted are the changes when every reading is one, none of them is
dropped and no server refuses one.
-/

namespace Bossa.Runtime

open Bossa.Core Telemetry Storage Sync
open RuntimeState (far)

/-- The values of the samples with one of the origins. -/
def valuesOf (O : List ℕ) (samples : List StoredSample) : List Double :=
  (samples.filter fun x => x.origin ∈ O).map StoredSample.value

def acceptedValues (O : List ℕ) (events : List Event) : List Double :=
  valuesOf O (events.flatMap Event.acceptedSamples)

/-- Every accepted value of the channel differs from the accepted one before it by more than
the threshold, and a tick that reads a value which differs so from the last accepted one
flushes. -/
structure UploadsChanges (c : ChannelConfig) (ticks : List Tick) : Prop where
  changes : (acceptedValues (originsRead c.id (eventsOf ticks)) (eventsOf ticks)).IsChain
    fun w v => far c.sync.onChangeThreshold w v = true
  flushed : ∀ past t rest, ticks = past ++ t :: rest → ∀ channel now sample,
    .read channel now sample ∈ t.events → channel.id = c.id →
    ∀ w ∈ (acceptedValues (originsRead c.id (eventsOf ticks)) (eventsOf past)).getLast?,
      far c.sync.onChangeThreshold w sample.value = true → flushes t.events ≠ []

/-- Every reading of the channel differs from the one before it by more than the threshold,
none of them is dropped, and a flush that carries one is accepted. -/
structure ReadsChanges (c : ChannelConfig) (ticks : List Tick) : Prop where
  changes : (readings c.id (eventsOf ticks)).IsChain
    fun w v => far c.sync.onChangeThreshold w v = true
  kept : ∀ x ∈ (eventsOf ticks).flatMap Event.droppedSamples,
    x.origin ∉ originsRead c.id (eventsOf ticks)
  accepted : ∀ p ∈ flushes (eventsOf ticks),
    Carries (originsRead c.id (eventsOf ticks)) p.2.samples →
      HttpUploader.interpretResponse p.2.response = .accepted

instance (c : ChannelConfig) (ticks : List Tick) : Decidable (ReadsChanges c ticks) :=
  decidable_of_iff _ ⟨fun h => ⟨h.1, h.2.1, h.2.2⟩, fun h =>
    And.intro h.changes (And.intro h.kept h.accepted)⟩

section Values

variable {O : List ℕ} {id : Bytes}

theorem valuesOf_append (samples samples' : List StoredSample) :
    valuesOf O (samples ++ samples') = valuesOf O samples ++ valuesOf O samples' := by
  simp [valuesOf]

theorem acceptedValues_append (events events' : List Event) :
    acceptedValues O (events ++ events') =
      acceptedValues O events ++ acceptedValues O events' := by
  rw [acceptedValues, List.flatMap_append, valuesOf_append]
  rfl

theorem originsRead_append (events events' : List Event) :
    originsRead id (events ++ events') = originsRead id events ++ originsRead id events' :=
  List.filterMap_append

theorem valuesOf_eq_nil {samples : List StoredSample} (h : ∀ x ∈ samples, x.origin ∉ O) :
    valuesOf O samples = [] := by
  rw [valuesOf, List.map_eq_nil_iff, List.filter_eq_nil_iff]
  simpa using h

theorem readOrigins_of_originsRead {events : List Event} {o : ℕ}
    (h : o ∈ originsRead id events) : o ∈ readOrigins events := by
  obtain ⟨e, he, horigin⟩ := List.mem_filterMap.mp h
  cases e with
  | read channel now sample =>
      rw [Event.originRead] at horigin
      split at horigin
      · cases horigin
        refine List.mem_map_of_mem (List.mem_flatMap.mpr ⟨_, he, ?_⟩)
        exact List.mem_singleton_self _
      · cases horigin
  | dropped | post | statement => cases horigin

/-- When origins tell the samples apart, those with an origin that was read for a channel
were read for it. -/
theorem origin_mem_originsRead_iff {events : List Event} (hnodup : (readOrigins events).Nodup)
    {channel : ChannelConfig} {now : ℤ} {sample : Sample}
    (hread : .read channel now sample ∈ events) :
    sample.origin ∈ originsRead id events ↔ channel.id = id := by
  obtain ⟨before, after, rfl⟩ := List.append_of_mem hread
  have hself : sample.origin ∈ readOrigins [.read channel now sample] :=
    List.mem_singleton_self _
  rw [List.append_cons, readOrigins_append, readOrigins_append, Multiset.nodup_add,
    Multiset.nodup_add] at hnodup
  obtain ⟨⟨-, -, hbefore⟩, -, hafter⟩ := hnodup
  constructor
  · intro hmem
    rw [List.append_cons, originsRead_append, originsRead_append, List.mem_append,
      List.mem_append] at hmem
    rcases hmem with (hmem | hmem) | hmem
    · exact absurd hself (Multiset.disjoint_left.mp hbefore (readOrigins_of_originsRead hmem))
    · by_contra hid
      simp [originsRead, Event.originRead, hid] at hmem
    · exact absurd (readOrigins_of_originsRead hmem)
        (Multiset.disjoint_left.mp hafter (Multiset.mem_add.mpr (.inr hself)))
  · rintro rfl
    simp [originsRead, Event.originRead]

/-- The values that the polls bring for the channel are its readings. -/
theorem valuesOf_storedSamples {events : List Event}
    (hO : ∀ channel now sample, .read channel now sample ∈ events →
      (sample.origin ∈ O ↔ channel.id = id)) :
    valuesOf O (events.flatMap Event.storedSamples) = readings id events := by
  induction events with
  | nil => rfl
  | cons e events ih =>
      have hrest := ih fun channel now sample hread =>
        hO channel now sample (List.mem_cons_of_mem _ hread)
      rw [List.flatMap_cons, valuesOf_append, hrest]
      cases e with
      | read channel now sample =>
          have hiff := hO channel now sample List.mem_cons_self
          by_cases hid : channel.id = id
          · simp [valuesOf, Event.storedSamples, readings, Event.reading, hid, hiff.mpr hid,
              StoredSample.fromSample]
          · have hout : sample.origin ∉ O := fun hmem => hid (hiff.mp hmem)
            simp [valuesOf, Event.storedSamples, readings, Event.reading, hid, hout]
      | dropped | post | statement => rfl

end Values

theorem origins_storedSamples (events : List Event) :
    origins (events.flatMap Event.storedSamples) = readOrigins events := by
  induction events with
  | nil => rfl
  | cons e events ih => cases e <;> simp [Event.storedSamples, Event.readSamples, ih]

theorem countP_origins (O : List ℕ) (samples : List StoredSample) :
    (origins samples).countP (· ∈ O) = (samples.filter fun x => x.origin ∈ O).length := by
  rw [← List.countP_eq_length_filter]
  exact (Multiset.coe_countP _ _).trans List.countP_map

namespace TelemetryRuntime

variable {s s' : TelemetryRuntime} {events : List Event} {O : List ℕ} {id : Bytes}

/-- Polls that drop none of the samples add those they read to the ones in the buffer. -/
theorem valuesOf_pollDue {input : TickInput} (hwired : s.Wired)
    (h : s.pollDue input = .ok (events, s'))
    (hkept : ∀ x ∈ events.flatMap Event.droppedSamples, x.origin ∉ O) :
    valuesOf O s'.residents =
      valuesOf O s.residents ++ valuesOf O (events.flatMap Event.storedSamples) := by
  obtain ⟨h', hposts, hbooks⟩ := pollDue_posts hwired.buffer_isSome (booked_openingBooks s) h
  have hbalance := hposts.balance .buffered
  have hflushed : events.flatMap Event.flushedSamples = [] :=
    flatMap_of_isPoll (fun _ _ _ => rfl) (fun _ => rfl) (pollDue_isPoll h)
  have hdropped : (events.flatMap Event.droppedSamples).filter (fun x => x.origin ∈ O) = [] := by
    rw [List.filter_eq_nil_iff]
    simpa using hkept
  rw [outflow_buffered_journal, inflow_buffered_journal, hbooks.buffered, hflushed,
    ← origins_storedSamples] at hbalance
  have hcount := congrArg (Multiset.countP (· ∈ O)) hbalance
  rw [Multiset.countP_add, Multiset.countP_add, Multiset.countP_add] at hcount
  have hlength : (s'.residents.filter fun x => x.origin ∈ O).length =
      ((s.residents ++ events.flatMap Event.storedSamples).filter
        fun x => x.origin ∈ O).length := by
    simpa [openingBooks, countP_origins, hdropped] using hcount
  have hsublist := (residents_pollDue_sublist h).filter fun x => decide (x.origin ∈ O)
  rw [← valuesOf_append, valuesOf, valuesOf, hsublist.eq_of_length hlength]

/-- A flush takes the first samples of the buffer. When it is accepted, or carries none of
the samples, it accepts the values that it takes. -/
theorem acceptedValues_maybeFlush {input : AttemptInput}
    (haccepted : ∀ p ∈ flushes events, Carries O p.2.samples →
      HttpUploader.interpretResponse p.2.response = .accepted)
    (h : s.maybeFlush input = .ok (events, s')) :
    acceptedValues O events ++ valuesOf O s'.residents = valuesOf O s.residents := by
  rcases maybeFlush_cases h with
    ⟨-, rfl, rfl⟩ | ⟨-, uploader, buffer, attempt, -, hbuffer, hne, hupload, rfl, rfl⟩
  · rfl
  · obtain ⟨request, _, hexchange, -, -⟩ := HttpUploader.upload_cases hne hupload
    have hposted : acceptedValues O (attemptEvents .flush input.now attempt) =
        valuesOf O (drain s.maxBatch buffer).1 := by
      have hcarried := haccepted (input.now, _)
        (mem_flushes.mpr (post_mem_attemptEvents.mpr ⟨⟨rfl, rfl⟩, hexchange⟩))
      rw [acceptedValues, attemptEvents, List.flatMap_append, acceptedSamples_statements,
        List.append_nil, hexchange]
      by_cases hcarries : Carries O (drain s.maxBatch buffer).1
      · simp [Event.acceptedSamples, hcarried hcarries]
      · have hnone : ∀ x ∈ (drain s.maxBatch buffer).1, x.origin ∉ O :=
          fun x hx hmem => hcarries ⟨x, hx, hmem⟩
        rw [valuesOf_eq_nil hnone]
        refine valuesOf_eq_nil fun x hx => hnone x ?_
        simp only [Option.map_some, Option.toList_some, List.flatMap_cons, List.flatMap_nil,
          List.append_nil, Event.acceptedSamples] at hx
        split at hx
        · exact hx
        · cases hx
    have hsplit : valuesOf O s.residents =
        valuesOf O (drain s.maxBatch buffer).1 ++
          valuesOf O (drain s.maxBatch buffer).2.residents := by
      rw [← valuesOf_append, drain_append, residents, hbuffer]
      rfl
    rw [hposted, hsplit]
    cases attempt.result <;> rfl

theorem acceptedValues_maybeRetry {countFault : Bool} {input : AttemptInput}
    (hwired : s.Wired) (hrows : ∀ r ∈ s.store.rows, r.origin ∉ O)
    (h : s.maybeRetry countFault input = .ok (events, s')) :
    acceptedValues O events = [] ∧ ∀ r ∈ s'.store.rows, r.origin ∉ O := by
  obtain ⟨hposted, hrows'⟩ := maybeRetry_admitted hwired hrows h
  refine ⟨valuesOf_eq_nil fun x hx => ?_, hrows'⟩
  obtain ⟨e, he, hx⟩ := List.mem_flatMap.mp hx
  apply hposted e he x
  cases e with
  | post route now exchange =>
      rw [Event.acceptedSamples] at hx
      split at hx
      · exact hx
      · cases hx
  | read | dropped | statement => cases hx

end TelemetryRuntime

open TelemetryRuntime

theorem readings_eq_nil {id : Bytes} {events : List Event}
    (h : events.flatMap Event.readSamples = []) : readings id events = [] := by
  refine List.filterMap_eq_nil_iff.mpr fun e he => ?_
  have hnone := List.flatMap_eq_nil_iff.mp h e he
  cases e with
  | read channel now sample => cases hnone
  | dropped | post | statement => rfl

/-- The accepted values and those in the buffer are the readings so far, and none of the
samples is pending. -/
structure Uploaded (O : List ℕ) (id : Bytes) (events : List Event) (s : TelemetryRuntime) :
    Prop where
  conserved : acceptedValues O events ++ valuesOf O s.residents = readings id events
  settled : ∀ r ∈ s.store.rows, r.origin ∉ O

/-- A tick that drops none of the samples, and whose flush is accepted if it carries one,
keeps this so. -/
theorem Uploaded.tick {O : List ℕ} {id : Bytes} {events : List Event} {t : Tick}
    {u : TelemetryRuntime} (huploaded : Uploaded O id events t.before) (hwired : t.before.Wired)
    (hO : ∀ channel now sample, .read channel now sample ∈ t.events →
      (sample.origin ∈ O ↔ channel.id = id))
    (hkept : ∀ x ∈ t.events.flatMap Event.droppedSamples, x.origin ∉ O)
    (haccepted : ∀ p ∈ flushes t.events, Carries O p.2.samples →
      HttpUploader.interpretResponse p.2.response = .accepted)
    (hanswers : ∀ e ∈ t.events, e.answered = true)
    (htick : t.before.tick t.input = .ok (t.events, u)) : Uploaded O id (events ++ t.events) u := by
  obtain ⟨before, input, tickEvents⟩ := t
  dsimp only at huploaded hwired hO hkept haccepted hanswers htick ⊢
  rcases tick_cases htick with
    ⟨-, rfl, rfl⟩ | ⟨-, pollEvents, polled, flushEvents, flushed, retryEvents, hpoll, hflush,
      hretry, rfl⟩
  · rwa [List.append_nil]
  · have hpolled := pollDue_frame hpoll
    simp only [List.mem_append, or_imp, forall_and] at hO hanswers
    rw [List.flatMap_append, List.flatMap_append] at hkept
    simp only [List.mem_append, or_imp, forall_and] at hkept
    have hflushed := acceptedValues_maybeFlush (fun p hp =>
      haccepted p (by simp [flushes_append, hp])) hflush
    have hstore := maybeFlush_store_of_answered hanswers.1.2 hflush
    obtain ⟨hretried, hsettled⟩ := acceptedValues_maybeRetry
      ((hpolled.toFrame.trans (maybeFlush_frame hflush)).wired hwired)
      (by rw [hstore, hpolled.store]; exact huploaded.settled) hretry
    have hpolls : acceptedValues O pollEvents = [] := by
      rw [acceptedValues,
        flatMap_of_isPoll (fun _ _ _ => rfl) (fun _ => rfl) (pollDue_isPoll hpoll)]
      rfl
    have hread : valuesOf O polled.residents =
        valuesOf O before.residents ++ readings id pollEvents := by
      rw [valuesOf_pollDue hwired hpoll hkept.1.1, valuesOf_storedSamples hO.1.1]
    have hlater : readings id (flushEvents ++ retryEvents) = [] :=
      readings_eq_nil (flatMap_flush_retry (fun _ _ _ => rfl) (fun _ => rfl) hflush hretry)
    refine ⟨?_, hsettled⟩
    rw [(maybeRetry_keeps hretry).1, List.append_assoc pollEvents, readings_append,
      readings_append, hlater, List.append_nil, ← huploaded.conserved, List.append_assoc,
      ← hread, ← hflushed, acceptedValues_append, acceptedValues_append, acceptedValues_append,
      hpolls, hretried, List.nil_append, List.append_nil, List.append_assoc]

/-- What was accepted in a run is what was read for the channel, as far as it has left the
buffer. -/
theorem Ticks.uploaded {O : List ℕ} {id : Bytes} {s s' : TelemetryRuntime} {ticks : List Tick}
    (hwired : s.Wired) (hempty : s.residents = []) (hrows : ∀ r ∈ s.store.rows, r.origin ∉ O)
    (hrun : Ticks s ticks s')
    (hO : ∀ channel now sample, .read channel now sample ∈ eventsOf ticks →
      (sample.origin ∈ O ↔ channel.id = id))
    (hkept : ∀ x ∈ (eventsOf ticks).flatMap Event.droppedSamples, x.origin ∉ O)
    (haccepted : ∀ p ∈ flushes (eventsOf ticks), Carries O p.2.samples →
      HttpUploader.interpretResponse p.2.response = .accepted)
    (hanswers : ∀ e ∈ eventsOf ticks, e.answered = true) :
    Uploaded O id (eventsOf ticks) s' := by
  induction hrun with
  | nil => exact ⟨by rw [hempty]; rfl, hrows⟩
  | @snoc v u past t hinit hstep ih =>
      obtain ⟨hbefore, htick⟩ := hstep
      subst hbefore
      rw [eventsOf_append, eventsOf_singleton] at *
      rw [List.flatMap_append, List.forall_mem_append] at hkept
      rw [flushes_append, List.forall_mem_append] at haccepted
      rw [List.forall_mem_append] at hanswers
      have hpast := ih (fun channel now sample hread =>
        hO channel now sample (List.mem_append_left _ hread)) hkept.1 haccepted.1 hanswers.1
      exact hpast.tick ((frame hinit).wired hwired) (fun channel now sample hread =>
        hO channel now sample (List.mem_append_right _ hread)) hkept.2 haccepted.2 hanswers.2
        htick

theorem acceptedSamples_tick_of_uploader_none {input : TickInput} {s s' : TelemetryRuntime}
    {events : List Event} (hnone : s.uploader = none) (h : s.tick input = .ok (events, s')) :
    events.flatMap Event.acceptedSamples = [] := by
  rcases tick_cases h with
    ⟨-, rfl, -⟩ | ⟨-, pollEvents, polled, flushEvents, flushed, retryEvents, hpoll, hflush,
      hretry, rfl⟩
  · rfl
  · have hpolled := (pollDue_frame hpoll).toFrame
    have hpolls : pollEvents.flatMap Event.acceptedSamples = [] :=
      flatMap_of_isPoll (fun _ _ _ => rfl) (fun _ => rfl) (pollDue_isPoll hpoll)
    rcases maybeFlush_cases hflush with ⟨-, rfl, rfl⟩ | ⟨-, uploader, _, _, hsome, -⟩
    · rcases maybeRetry_cases hretry with ⟨rfl | rfl, -⟩ | ⟨uploader, _, hsome, -⟩
      · simpa using hpolls
      · simpa [Event.acceptedSamples] using hpolls
      · rw [hpolled.uploader, hnone] at hsome
        cases hsome
    · rw [hpolled.uploader, hnone] at hsome
      cases hsome

theorem Ticks.acceptedValues_of_uploader_none {O : List ℕ} {s s' : TelemetryRuntime}
    {ticks : List Tick} (hnone : s.uploader = none) (hrun : Ticks s ticks s') :
    acceptedValues O (eventsOf ticks) = [] := by
  have hsamples : (eventsOf ticks).flatMap Event.acceptedSamples = [] := by
    rw [eventsOf, List.flatMap_assoc, List.flatMap_eq_nil_iff]
    intro t ht
    obtain ⟨hframe, u, htick⟩ := hrun.mem t ht
    exact acceptedSamples_tick_of_uploader_none (hframe.uploader.trans hnone) htick
  rw [acceptedValues, hsamples]
  rfl

theorem bindChannels_registered {input : ConfigureInput} :
    ∀ {channels : List ChannelConfig} {index : ℕ} {s : TelemetryRuntime},
      (∀ id ∈ s.channels, id ∈ s.policy.channels) →
      ∀ id ∈ (bindChannels input index channels s).channels,
        id ∈ (bindChannels input index channels s).policy.channels
  | [], _, _, h => h
  | channel :: channels, index, s, h => by
      rw [bindChannels]
      split
      · exact bindChannels_registered h
      · refine bindChannels_registered fun id hid => ?_
        rw [policy_bindChannel, AList.mem_insert]
        exact (mem_bindChannel.mp hid).imp_right (h id)

theorem configure_registered {input : ConfigureInput} {config : Config}
    {s₀ s : TelemetryRuntime} (h : s₀.configure input config = (true, s)) :
    ∀ id ∈ s.channels, id ∈ s.policy.channels := by
  obtain ⟨-, hchannels, hpolicy⟩ := configure_tables h
  rw [hchannels, hpolicy]
  exact bindChannels_registered fun id hid => absurd hid (AList.notMem_empty id)

/-- The policy follows the settings of the on-change channel: no other ones are registered
for its id. -/
def Followed (c : ChannelConfig) (p : UploadPolicy) : Prop :=
  ∀ state ∈ p.channels.lookup c.id, state.config.mode = .onChange ∧
    state.config.destinationRemote = true ∧
    state.config.onChangeThreshold = c.sync.onChangeThreshold

instance (c : ChannelConfig) (p : UploadPolicy) : Decidable (Followed c p) :=
  inferInstanceAs (Decidable (∀ state ∈ p.channels.lookup c.id, _))

/-- When every reading of a channel is a change, each of them triggers a flush. -/
theorem triggered_of_changes {c : ChannelConfig} {s : TelemetryRuntime} {past : List Event}
    {pollEvents : List Event} {later : List Double} {state : RuntimeState}
    (hstate : s.policy.channels.lookup c.id = some state) (hfollowed : Followed c s.policy)
    (hfresh : state.baseline = none)
    (hchanges : (readings c.id (past ++ pollEvents) ++ later).IsChain
      fun w v => far c.sync.onChangeThreshold w v = true)
    {channel : ChannelConfig} {now : ℤ} {sample : Sample}
    (hread : .read channel now sample ∈ pollEvents) (hid : channel.id = c.id) :
    Triggered pollEvents (policyAfter past s.policy) := by
  obtain ⟨hmode, hremote, hthreshold⟩ := hfollowed state hstate
  obtain ⟨before, after, rfl⟩ := List.append_of_mem hread
  have hsplit : readings c.id (past ++ (before ++ .read channel now sample :: after)) ++ later =
      readings c.id (past ++ before) ++ sample.value :: (readings c.id after ++ later) := by
    rw [← List.append_assoc past, readings_append, readings_cons_read hid, List.append_assoc]
    rfl
  rw [hsplit] at hchanges
  have hpasses := Deadband.passes_of_chain _ hchanges
  have hconfig := @stateAfter_config c.id (past ++ before) state
  have hbaseline := @stateAfter_baseline c.id state hremote hmode (past ++ before)
  rw [hfresh, hthreshold] at hbaseline
  have hpast : (policyAfter past s.policy).channels.lookup channel.id =
      some (stateAfter c.id past state) := by
    rw [hid, lookup_policyAfter, hstate, Option.map_some]
  apply triggered_of_read hpast
  rw [hid, ← stateAfter_append, UploadPolicy.triggers, UploadPolicy.changed_eq_passes, hconfig,
    hmode, hremote, hthreshold, hbaseline, hpasses]
  rfl

/-- A sample that was read and not dropped is in the buffer after the polls. -/
theorem residents_ne_nil_of_read {O : List ℕ} {id : Bytes} {input : TickInput}
    {s s' : TelemetryRuntime} {events : List Event} (hwired : s.Wired)
    (h : s.pollDue input = .ok (events, s'))
    (hO : ∀ channel now sample, .read channel now sample ∈ events →
      (sample.origin ∈ O ↔ channel.id = id))
    (hkept : ∀ x ∈ events.flatMap Event.droppedSamples, x.origin ∉ O)
    {channel : ChannelConfig} {now : ℤ} {sample : Sample}
    (hread : .read channel now sample ∈ events) (hid : channel.id = id) : s'.residents ≠ [] := by
  intro hempty
  have hvalues := valuesOf_pollDue hwired h hkept
  obtain ⟨before, after, hevents⟩ := List.append_of_mem hread
  rw [valuesOf_storedSamples hO, hempty, hevents, readings_append, readings_cons_read hid]
    at hvalues
  simp [valuesOf] at hvalues

/-- A tick that reads a change flushes: the reading is in the buffer, and it triggers. -/
theorem flushes_ne_nil_of_change {O : List ℕ} {id : Bytes} {t : Tick} {u : TelemetryRuntime}
    (huploads : t.before.Uploads) (htick : t.before.tick t.input = .ok (t.events, u))
    (hO : ∀ channel now sample, .read channel now sample ∈ t.events →
      (sample.origin ∈ O ↔ channel.id = id))
    (hkept : ∀ x ∈ t.events.flatMap Event.droppedSamples, x.origin ∉ O)
    {channel : ChannelConfig} {now : ℤ} {sample : Sample}
    (hread : .read channel now sample ∈ t.events) (hid : channel.id = id)
    (htriggered : ∀ pollEvents laterEvents, t.events = pollEvents ++ laterEvents →
      readings id laterEvents = [] → .read channel now sample ∈ pollEvents →
      channel.id ∈ t.before.channels → Triggered pollEvents t.before.policy) :
    flushes t.events ≠ [] := by
  obtain ⟨before, input, tickEvents⟩ := t
  dsimp only at *
  rcases tick_cases htick with
    ⟨-, rfl, -⟩ | ⟨-, pollEvents, polled, flushEvents, flushed, retryEvents, hpoll, hflush,
      hretry, rfl⟩
  · cases hread
  · have hreads : (flushEvents ++ retryEvents).flatMap Event.readSamples = [] :=
      flatMap_flush_retry (fun _ _ _ => rfl) (fun _ => rfl) hflush hretry
    rw [List.append_assoc] at *
    rw [List.flatMap_append] at hkept
    have hpolled : .read channel now sample ∈ pollEvents := by
      refine (List.mem_append.mp hread).resolve_right fun hmem => ?_
      cases List.flatMap_eq_nil_iff.mp hreads _ hmem
    have hresident := residents_ne_nil_of_read huploads.wired hpoll
      (fun channel now sample hmem => hO channel now sample (List.mem_append_left _ hmem))
      (fun x hx => hkept x (List.mem_append_left _ hx)) hpolled hid
    obtain ⟨binding, hlookup, -⟩ := read_of_pollDue huploads.boundById hpoll hpolled
    have hmem : channel.id ∈ before.channels :=
      AList.lookup_isSome.mp (by rw [hlookup, Option.isSome_some])
    have hdue := flushDue_of_triggered huploads hpoll
      (htriggered pollEvents _ rfl (readings_eq_nil hreads) hpolled hmem) hresident
      input.flush.now
    rw [flushes_append, flushes_append]
    exact List.append_ne_nil_of_right_ne_nil _
      (List.append_ne_nil_of_left_ne_nil (flushes_ne_nil_of_due hdue hflush) _)

theorem uploadsChanges_of_uploader_none {s s' : TelemetryRuntime} {ticks : List Tick}
    {c : ChannelConfig} (hnone : s.uploader = none) (hrun : Ticks s ticks s') :
    UploadsChanges c ticks := by
  constructor
  · rw [Ticks.acceptedValues_of_uploader_none hnone hrun]
    exact .nil
  · rintro past t rest rfl channel now sample - - w hw
    obtain ⟨v, _, hpast, -⟩ := hrun.exists_step
    rw [Ticks.acceptedValues_of_uploader_none hnone hpast] at hw
    cases hw

/-- In a run that reads changes of a channel only, and loses none, exactly the changes of
the channel are uploaded. -/
theorem uploadsChanges_of_readsChanges {input : ConfigureInput} {config : Config}
    {s₀ s s' : TelemetryRuntime} {ticks : List Tick} {c : ChannelConfig}
    (hconfigure : s₀.configure input config = (true, s)) (hrun : Ticks s ticks s')
    (hanswers : ∀ e ∈ eventsOf ticks, e.answered = true)
    (hnodup : (rowOrigins s.store.rows + readOrigins (eventsOf ticks)).Nodup)
    (hfollowed : Followed c s.policy)
    (hreads : config.server.url ≠ [] → ReadsChanges c ticks) : UploadsChanges c ticks := by
  by_cases hurl : config.server.url = []
  · obtain ⟨hconfig, -, -, huploader⟩ := configure_spec hconfigure
    rw [createUploader, hconfig, if_neg (not_not.mpr hurl)] at huploader
    exact uploadsChanges_of_uploader_none huploader hrun
  · have hreads := hreads hurl
    have hbound := configure_boundById hconfigure
    obtain ⟨-, hdistinct, hdisjoint⟩ := Multiset.nodup_add.mp hnodup
    have hO : ∀ channel now sample, .read channel now sample ∈ eventsOf ticks →
        (sample.origin ∈ originsRead c.id (eventsOf ticks) ↔ channel.id = c.id) :=
      fun _ _ _ hread => origin_mem_originsRead_iff hdistinct hread
    constructor
    · have hrows : ∀ r ∈ s.store.rows, r.origin ∉ originsRead c.id (eventsOf ticks) :=
        fun r hr hmem => Multiset.disjoint_left.mp hdisjoint
          (List.mem_map_of_mem hr : r.origin ∈ rowOrigins s.store.rows)
          (readOrigins_of_originsRead hmem)
      have huploaded := Ticks.uploaded (configure_wired hconfigure)
        (residents_configure hconfigure) hrows hrun hO hreads.kept hreads.accepted hanswers
      exact hreads.changes.prefix ⟨_, huploaded.conserved⟩
    · rintro past t rest rfl channel now sample hread hid - - -
      obtain ⟨v, u, hpast, rfl, htick⟩ := hrun.exists_step
      have hframe := Ticks.frame hpast
      have hmem : ∀ e ∈ t.events, e ∈ eventsOf (past ++ t :: rest) := fun e he =>
        mem_eventsOf.mpr ⟨t, by simp, he⟩
      refine flushes_ne_nil_of_change (hframe.uploads (uploads_of_configure hconfigure hurl)) htick
        (fun channel now sample h => hO channel now sample (hmem _ h)) (fun x hx => ?_) hread hid
        (fun pollEvents laterEvents hevents hlater hpolled hbinding => ?_)
      · obtain ⟨e, he, hx⟩ := List.mem_flatMap.mp hx
        exact hreads.kept x (List.mem_flatMap.mpr ⟨e, hmem e he, hx⟩)
      · rw [hid, hframe.channels] at hbinding
        obtain ⟨state, hstate⟩ := Option.isSome_iff_exists.mp
          (AList.lookup_isSome.mpr (configure_registered hconfigure c.id hbinding))
        have hsplit : readings c.id (eventsOf (past ++ t :: rest)) =
            readings c.id (eventsOf past ++ pollEvents) ++ readings c.id (eventsOf rest) := by
          have hcons : eventsOf (t :: rest) = t.events ++ eventsOf rest := List.flatMap_cons
          rw [eventsOf_append, hcons, hevents, readings_append, readings_append, readings_append,
            readings_append, hlater, List.append_nil, List.append_assoc]
        rw [Ticks.policy_eq hbound hpast]
        exact triggered_of_changes hstate hfollowed (configure_baseline hconfigure hstate)
          (hsplit ▸ hreads.changes) hpolled hid

/-- Two readings that differ by more than the threshold are uploaded. -/
theorem uploadsChanges_of_readsChanges_two_readings :
    ∃ ticks s', Ticks (fleet "10" onChangeFleet) ticks s' ∧
      ∀ c ∈ (fleetConfig "10" onChangeFleet).channels,
        acceptedValues (originsRead c.id (eventsOf ticks)) (eventsOf ticks) =
          [.finite 20, .finite 25] ∧ UploadsChanges c ticks := by
  obtain ⟨ticks, s', hrun, hcheck⟩ := exists_ticks (fleet "10" onChangeFleet)
    [fleetTick 1 [[fleetSample 20 1]] 202, fleetTick 2 [[fleetSample 25 2]] 202]
    (fun ticks _ => (∀ e ∈ eventsOf ticks, e.answered = true) ∧
      (rowOrigins (fleet "10" onChangeFleet).store.rows + readOrigins (eventsOf ticks)).Nodup ∧
      ∀ c ∈ (fleetConfig "10" onChangeFleet).channels,
        acceptedValues (originsRead c.id (eventsOf ticks)) (eventsOf ticks) =
          [.finite 20, .finite 25] ∧
        Followed c (fleet "10" onChangeFleet).policy ∧ ReadsChanges c ticks) (by decide +kernel)
  obtain ⟨hanswers, hnodup, hchannels⟩ := of_decide_eq_true hcheck
  refine ⟨ticks, s', hrun, fun c hc => ?_⟩
  obtain ⟨haccepted, hfollowed, hreads⟩ := hchannels c hc
  exact ⟨haccepted, uploadsChanges_of_readsChanges configure_onChangeFleet hrun hanswers hnodup
    hfollowed fun _ => hreads⟩

/-- A reading that did not change waits in the buffer and goes along with the next that
did. -/
theorem not_uploadsChanges_same_reading :
    ¬ ∀ (input : ConfigureInput) (config : Config) (s₀ s s' : TelemetryRuntime)
      (ticks : List Tick) (c : ChannelConfig),
      s₀.configure input config = (true, s) → Ticks s ticks s' →
      (∀ route now exchange, .post route now exchange ∈ eventsOf ticks →
        exchange.response = ⟨202, []⟩ ∨ exchange.response = ⟨400, []⟩) →
      (rowOrigins s.store.rows + readOrigins (eventsOf ticks)).Nodup →
      c ∈ config.channels → c.sync.mode = .onChange → c.sync.destinationRemote = true →
      (∀ t ∈ ticks, (readings c.id t.events).length = 1) → UploadsChanges c ticks := by
  intro hclaim
  obtain ⟨ticks, s', hrun, hcheck⟩ := exists_ticks (fleet "10" onChangeFleet)
    [fleetTick 1 [[fleetSample 20 1]] 202, fleetTick 2 [[fleetSample 20 2]] 202,
      fleetTick 3 [[fleetSample 25 3]] 202]
    (fun ticks _ => (∀ e ∈ eventsOf ticks, e.answered202 = true) ∧
      (rowOrigins (fleet "10" onChangeFleet).store.rows + readOrigins (eventsOf ticks)).Nodup ∧
      ∃ c ∈ (fleetConfig "10" onChangeFleet).channels, c.sync.mode = .onChange ∧
        c.sync.destinationRemote = true ∧
        (∀ t ∈ ticks, (readings c.id t.events).length = 1) ∧
        ¬ (acceptedValues (originsRead c.id (eventsOf ticks)) (eventsOf ticks)).IsChain
          fun w v => far c.sync.onChangeThreshold w v = true) (by decide +kernel)
  obtain ⟨hanswers, hnodup, c, hc, hmode, hremote, hone, hbroken⟩ := of_decide_eq_true hcheck
  refine hbroken (hclaim _ _ _ _ _ ticks c configure_onChangeFleet hrun
    (fun route now exchange hpost => ?_) hnodup hc hmode hremote hone).changes
  exact .inl (of_decide_eq_true (hanswers _ hpost))

end Bossa.Runtime
