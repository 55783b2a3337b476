import Bossa.Data.Deadband
import Bossa.Runtime.Overflow
import Bossa.Runtime.Tables

/-!
# The history of the upload policy

The policy of a runtime is determined by the samples that were read and the flushes that
were completed, and the state it keeps for a channel by the samples of the channel and the
flushes alone. The value that an on-change channel is compared with is the base of a
deadband after the values read so far.
-/

namespace Bossa.Sync

open Telemetry

namespace RuntimeState

/-- The two values differ by more than the threshold. -/
def far (threshold w v : Double) : Bool := threshold.lt (v.sub w).abs

def baseline (state : RuntimeState) : Option Double :=
  if state.hasUploadedValue then some state.lastUploadedValue else none

/-- What a sample does to the state of its channel. -/
def onSample (value : Double) (state : RuntimeState) : RuntimeState :=
  if !state.config.destinationRemote then state
  else
    match state.config.mode with
    | .realtime => { state with pendingRealtime := true }
    | .onChange =>
        if UploadPolicy.changed state value then
          { state with
            pendingOnChange := true
            lastUploadedValue := value
            hasUploadedValue := true }
        else state
    | .batch => state

/-- What a completed flush does to the state of a channel. -/
def markFlushed (now : ℤ) (state : RuntimeState) : RuntimeState :=
  { state with lastFlush := now, pendingRealtime := false, pendingOnChange := false }

theorem onSample_config (value : Double) (state : RuntimeState) :
    (state.onSample value).config = state.config := by
  unfold onSample
  split
  · rfl
  · split
    · rfl
    · split <;> rfl
    · rfl

theorem onSample_lastFlush (value : Double) (state : RuntimeState) :
    (state.onSample value).lastFlush = state.lastFlush := by
  unfold onSample
  split
  · rfl
  · split
    · rfl
    · split <;> rfl
    · rfl

end RuntimeState

namespace UploadPolicy

open RuntimeState (far)

theorem changed_eq_passes (state : RuntimeState) (value : Double) :
    changed state value =
      Deadband.passes (far state.config.onChangeThreshold) state.baseline value := by
  unfold changed RuntimeState.baseline
  cases state.hasUploadedValue <;> rfl

theorem baseline_onSample {state : RuntimeState} (value : Double)
    (hremote : state.config.destinationRemote = true) (hmode : state.config.mode = .onChange) :
    (state.onSample value).baseline =
      Deadband.next (far state.config.onChangeThreshold) state.baseline value := by
  rw [RuntimeState.onSample, if_neg (by simp [hremote]), hmode, Deadband.next,
    ← changed_eq_passes]
  dsimp only
  split <;> rfl

theorem channels_onSample {channelId : Bytes} {p : UploadPolicy} {state : RuntimeState}
    (h : p.channels.lookup channelId = some state) (value : Double) (now : ℤ) :
    ((p.onSample channelId value now).channels = p.channels ∧
        state.onSample value = state) ∨
      (p.onSample channelId value now).channels =
        p.channels.insert channelId (state.onSample value) := by
  unfold onSample RuntimeState.onSample
  rw [h]
  dsimp only
  cases hremote : state.config.destinationRemote with
  | false => simp
  | true =>
      cases hmode : state.config.mode with
      | realtime => simp
      | onChange => cases hchanged : changed state value <;> simp
      | batch => simp

theorem onSample_of_lookup_eq_none {channelId : Bytes} {p : UploadPolicy}
    (h : p.channels.lookup channelId = none) (value : Double) (now : ℤ) :
    p.onSample channelId value now = p := by
  rw [onSample, h]

theorem lookup_onSample_self (channelId : Bytes) (value : Double) (now : ℤ)
    (p : UploadPolicy) :
    (p.onSample channelId value now).channels.lookup channelId =
      (p.channels.lookup channelId).map (RuntimeState.onSample value) := by
  cases hstate : p.channels.lookup channelId with
  | none => rw [onSample_of_lookup_eq_none hstate, hstate, Option.map_none]
  | some state =>
      rw [Option.map_some]
      rcases channels_onSample hstate value now with ⟨hsame, hstays⟩ | hinsert
      · rw [hsame, hstate, hstays]
      · rw [hinsert, AList.lookup_insert]

theorem lookup_onSample_of_ne {channelId id : Bytes} (hne : channelId ≠ id) (value : Double)
    (now : ℤ) (p : UploadPolicy) :
    (p.onSample channelId value now).channels.lookup id = p.channels.lookup id := by
  cases hstate : p.channels.lookup channelId with
  | none => rw [onSample_of_lookup_eq_none hstate]
  | some state =>
      rcases channels_onSample hstate value now with ⟨hsame, -⟩ | hinsert
      · rw [hsame]
      · rw [hinsert, AList.lookup_insert_ne hne.symm]

theorem lookup_markFlushed (now : ℤ) (p : UploadPolicy) (id : Bytes) :
    (p.markFlushed now).channels.lookup id =
      (p.channels.lookup id).map (RuntimeState.markFlushed now) :=
  AList.lookup_mapValues _ _ id

/-- A sample that triggers a flush: of a realtime channel, or of an on-change channel whose
value has changed. -/
def triggers (state : RuntimeState) (value : Double) : Bool :=
  state.config.destinationRemote &&
    (state.config.mode = .realtime || state.config.mode = .onChange && changed state value)

theorem pending_onSample (channelId : Bytes) (value : Double) (now : ℤ) (p : UploadPolicy) :
    ((p.onSample channelId value now).anyPendingRealtime ||
        (p.onSample channelId value now).anyPendingOnChange) =
      ((p.anyPendingRealtime || p.anyPendingOnChange) ||
        (p.channels.lookup channelId).any fun state => triggers state value) := by
  unfold onSample triggers
  cases hstate : p.channels.lookup channelId with
  | none => simp
  | some state =>
      rw [Option.any_some]
      dsimp only
      cases hremote : state.config.destinationRemote with
      | false => simp
      | true =>
          cases hmode : state.config.mode with
          | realtime => simp
          | onChange => cases hchanged : changed state value <;> simp
          | batch => simp

end UploadPolicy

end Bossa.Sync

namespace Bossa.Runtime

open Bossa.Core Telemetry Storage Sync

namespace Event

/-- The clock reading of a flush that was completed: it was not to be tried again. -/
def completedFlush : Event → Option ℤ
  | post .flush now exchange =>
      if HttpUploader.interpretResponse exchange.response = .transientFailure then none
      else some now
  | _ => none

/-- The value of a sample that was read for the channel with the id. -/
def reading (id : Bytes) : Event → Option Double
  | read channel _ sample => if channel.id = id then some sample.value else none
  | _ => none

def onPolicy (p : UploadPolicy) (e : Event) : UploadPolicy :=
  match e with
  | read channel now sample => p.onSample channel.id sample.value now
  | e => e.completedFlush.elim p fun now => p.markFlushed now

/-- What an event does to the state of the channel with the id. -/
def onState (id : Bytes) (state : RuntimeState) (e : Event) : RuntimeState :=
  match e.reading id with
  | some value => state.onSample value
  | none => e.completedFlush.elim state fun now => state.markFlushed now

end Event

def policyAfter (events : List Event) (p : UploadPolicy) : UploadPolicy :=
  events.foldl Event.onPolicy p

/-- The state of the channel with the id after a list of events. -/
def stateAfter (id : Bytes) (events : List Event) (state : RuntimeState) : RuntimeState :=
  events.foldl (Event.onState id) state

def readings (id : Bytes) (events : List Event) : List Double :=
  events.filterMap (Event.reading id)

theorem readings_append {id : Bytes} (events events' : List Event) :
    readings id (events ++ events') = readings id events ++ readings id events' :=
  List.filterMap_append

theorem readings_cons_read {channel : ChannelConfig} {id : Bytes} (hid : channel.id = id)
    {now : ℤ} {sample : Sample} (events : List Event) :
    readings id (.read channel now sample :: events) = sample.value :: readings id events :=
  List.filterMap_cons_some (if_pos hid)

def lastCompleted (events : List Event) : Option ℤ :=
  (events.filterMap Event.completedFlush).getLast?

theorem policyAfter_append (events events' : List Event) (p : UploadPolicy) :
    policyAfter (events ++ events') p = policyAfter events' (policyAfter events p) :=
  List.foldl_append

theorem lookup_onPolicy (p : UploadPolicy) (e : Event) (id : Bytes) :
    (e.onPolicy p).channels.lookup id = (p.channels.lookup id).map (Event.onState id · e) := by
  cases e with
  | read channel now sample =>
      by_cases hid : channel.id = id
      · subst hid
        simp [Event.onPolicy, Event.onState, Event.reading, UploadPolicy.lookup_onSample_self]
      · simp [Event.onPolicy, Event.onState, Event.reading, hid, Event.completedFlush,
          UploadPolicy.lookup_onSample_of_ne hid]
  | dropped sample => simp [Event.onPolicy, Event.onState, Event.reading, Event.completedFlush]
  | post route now exchange =>
      cases hflush : (Event.post route now exchange).completedFlush with
      | none => simp [Event.onPolicy, Event.onState, Event.reading, hflush]
      | some reading =>
          simp [Event.onPolicy, Event.onState, Event.reading, hflush,
            UploadPolicy.lookup_markFlushed]
  | statement s => simp [Event.onPolicy, Event.onState, Event.reading, Event.completedFlush]

theorem lookup_policyAfter (id : Bytes) :
    ∀ (events : List Event) (p : UploadPolicy),
      (policyAfter events p).channels.lookup id =
        (p.channels.lookup id).map (stateAfter id events)
  | [], p => (Option.map_id' : (p.channels.lookup id).map (fun state => state) = _).symm
  | e :: events, p => by
      have hrest := lookup_policyAfter id events (e.onPolicy p)
      rw [lookup_onPolicy, Option.map_map] at hrest
      exact hrest

theorem stateAfter_append (id : Bytes) (events events' : List Event) (state : RuntimeState) :
    stateAfter id (events ++ events') state = stateAfter id events' (stateAfter id events state) :=
  List.foldl_append

section State

variable {id : Bytes}

theorem onState_config (state : RuntimeState) (e : Event) :
    (e.onState id state).config = state.config := by
  unfold Event.onState
  cases e.reading id with
  | none => cases e.completedFlush <;> rfl
  | some value => exact state.onSample_config value

theorem stateAfter_config (events : List Event) (state : RuntimeState) :
    (stateAfter id events state).config = state.config := by
  induction events generalizing state with
  | nil => rfl
  | cons e events ih => exact (ih _).trans (onState_config state e)

/-- The last flush of a channel is the last completed flush. -/
theorem stateAfter_lastFlush (events : List Event) (state : RuntimeState) :
    (stateAfter id events state).lastFlush = (lastCompleted events).getD state.lastFlush := by
  induction events using List.reverseRecOn with
  | nil => rfl
  | append_singleton events e ih =>
      have hstep : stateAfter id (events ++ [e]) state =
          e.onState id (stateAfter id events state) := List.foldl_append
      rw [hstep, lastCompleted, List.filterMap_append, Event.onState]
      cases hreading : e.reading id with
      | none =>
          cases hflush : e.completedFlush with
          | none =>
              rw [List.filterMap_cons_none hflush, List.filterMap_nil, List.append_nil]
              exact ih
          | some now => simp [hflush, RuntimeState.markFlushed]
      | some value =>
          have hflush : e.completedFlush = none := by
            cases e <;> first | rfl | cases hreading
          rw [List.filterMap_cons_none hflush, List.filterMap_nil, List.append_nil]
          exact ((stateAfter id events state).onSample_lastFlush value).trans ih

/-- The value that the next sample of an on-change channel is compared with is the base of
its deadband after the values read so far. -/
theorem stateAfter_baseline {state : RuntimeState}
    (hremote : state.config.destinationRemote = true) (hmode : state.config.mode = .onChange)
    (events : List Event) :
    (stateAfter id events state).baseline =
      Deadband.anchor (RuntimeState.far state.config.onChangeThreshold) state.baseline
        (readings id events) := by
  induction events using List.reverseRecOn with
  | nil => rfl
  | append_singleton events e ih =>
      have hstep : stateAfter id (events ++ [e]) state =
          e.onState id (stateAfter id events state) := List.foldl_append
      have hconfig := @stateAfter_config id events state
      rw [hstep, readings, List.filterMap_append, Deadband.anchor_append, ← readings, ← ih,
        Event.onState]
      cases hreading : e.reading id with
      | none =>
          rw [List.filterMap_cons_none hreading]
          cases e.completedFlush <;> rfl
      | some value =>
          rw [List.filterMap_cons_some hreading]
          have hbase := UploadPolicy.baseline_onSample value
            ((congrArg ChannelSyncState.destinationRemote hconfig).trans hremote)
            ((congrArg ChannelSyncState.mode hconfig).trans hmode)
          rw [hconfig] at hbase
          exact hbase

end State

/-- A sample that triggers a flush is read, with the policy as it is then. -/
def Triggered (events : List Event) (p : UploadPolicy) : Prop :=
  ∃ before channel now sample after, events = before ++ .read channel now sample :: after ∧
    ((policyAfter before p).channels.lookup channel.id).any
      (fun state => UploadPolicy.triggers state sample.value) = true

theorem triggered_of_read {before after : List Event} {p : UploadPolicy} {state : RuntimeState}
    {channel : ChannelConfig} {now : ℤ} {sample : Sample}
    (hstate : p.channels.lookup channel.id = some state)
    (htriggers : UploadPolicy.triggers (stateAfter channel.id before state) sample.value = true) :
    Triggered (before ++ .read channel now sample :: after) p := by
  refine ⟨before, channel, now, sample, after, rfl, ?_⟩
  rwa [lookup_policyAfter, hstate, Option.map_some, Option.any_some]

/-- After polls in which a sample triggers a flush, a flag is set. -/
theorem pending_of_triggered {events : List Event} {p : UploadPolicy}
    (hpolls : ∀ e ∈ events, TelemetryRuntime.IsPoll e) (h : Triggered events p) :
    ((policyAfter events p).anyPendingRealtime ||
      (policyAfter events p).anyPendingOnChange) = true := by
  obtain ⟨before, channel, now, sample, after, rfl, htriggers⟩ := h
  rw [List.forall_mem_append, List.forall_mem_cons] at hpolls
  have hkept : ∀ (after : List Event) (p : UploadPolicy),
      (∀ e ∈ after, TelemetryRuntime.IsPoll e) →
      (p.anyPendingRealtime || p.anyPendingOnChange) = true →
      ((policyAfter after p).anyPendingRealtime ||
        (policyAfter after p).anyPendingOnChange) = true := by
    intro after
    induction after with
    | nil => exact fun _ _ hset => hset
    | cons e after ih =>
        intro p hpolls hset
        rw [List.forall_mem_cons] at hpolls
        apply ih (e.onPolicy p) hpolls.2
        cases hpolls.1 with
        | read channel now sample =>
            rw [Event.onPolicy, UploadPolicy.pending_onSample, hset, Bool.true_or]
        | dropped sample => exact hset
  rw [policyAfter_append]
  apply hkept after _ hpolls.2.2
  rw [Event.onPolicy, UploadPolicy.pending_onSample, htriggers, Bool.or_true]

namespace TelemetryRuntime

variable {s s' : TelemetryRuntime} {events : List Event}

/-- Every binding stands under the id of its channel. -/
def BoundById (s : TelemetryRuntime) : Prop :=
  ∀ id binding, s.channels.lookup id = some binding → binding.config.id = id

theorem Frame.boundById (h : Frame s s') (hbound : s.BoundById) : s'.BoundById := by
  intro id binding hlookup
  rw [h.channels] at hlookup
  exact hbound id binding hlookup

theorem configure_boundById {input : ConfigureInput} {config : Config}
    (h : s.configure input config = (true, s')) : s'.BoundById := by
  intro id binding hlookup
  rw [(configure_tables h).2.1] at hlookup
  rcases lookup_channels_bindChannels hlookup with hold | ⟨c, -, hid, rfl⟩
  · cases hold
  · exact hid

theorem recordSamples_policy (channel : ChannelConfig) (now : ℤ) :
    ∀ (samples : List Sample) (s : TelemetryRuntime),
      (s.recordSamples channel.id channel now samples).2.policy =
        policyAfter (s.recordSamples channel.id channel now samples).1 s.policy
  | [], _ => rfl
  | sample :: samples, s => by
      have hrest := recordSamples_policy channel now samples
        (s.recordSample channel.id channel now sample).2
      have hrecord : (s.recordSample channel.id channel now sample).2.policy =
          policyAfter (s.recordSample channel.id channel now sample).1 s.policy := by
        cases hdropped : s.buffer.bind fun b =>
            b.dropped (.fromSample sample channel.sync.priority) with
        | none => simp [recordSample, hdropped, policyAfter, Event.onPolicy]
        | some d =>
            simp [recordSample, hdropped, policyAfter, Event.onPolicy, Event.completedFlush]
      rw [recordSamples]
      dsimp only
      rw [policyAfter_append, ← hrecord, hrest]

theorem pollChannels_policy (input : TickInput) :
    ∀ (polls : List Bytes) (index : ℕ) {s : TelemetryRuntime}, s.BoundById →
      (s.pollChannels input index polls).2.policy =
        policyAfter (s.pollChannels input index polls).1 s.policy
  | [], _, _, _ => rfl
  | channelId :: polls, index, s, hbound => by
      have hframe := pollChannel_frame channelId (input.reads index) (input.pollNow index) s
      have hrest := pollChannels_policy input polls (index + 1)
        (hframe.toFrame.boundById hbound)
      have hpoll : (s.pollChannel channelId (input.reads index) (input.pollNow index)).2.policy =
          policyAfter (s.pollChannel channelId (input.reads index) (input.pollNow index)).1
            s.policy := by
        unfold pollChannel
        split
        · rfl
        · next binding hbinding =>
            cases hbound channelId binding hbinding
            exact recordSamples_policy _ _ _ _
      rw [pollChannels]
      dsimp only
      rw [policyAfter_append, ← hpoll, hrest]

theorem pollDue_policy {input : TickInput} (hbound : s.BoundById)
    (h : s.pollDue input = .ok (events, s')) : s'.policy = policyAfter events s.policy := by
  obtain ⟨dispatch, -, rfl, rfl⟩ := pollDue_cases h
  exact pollChannels_policy input dispatch.polls 0 hbound

theorem policyAfter_attemptEvents (route : Route) (now : ℤ) (attempt : Attempt)
    (p : UploadPolicy) :
    policyAfter (attemptEvents route now attempt) p =
      policyAfter (attempt.exchange.map (Event.post route now)).toList p := by
  have hstatements : ∀ (statements : List Statement) (p : UploadPolicy),
      policyAfter (statements.map Event.statement) p = p := by
    intro statements
    induction statements with
    | nil => exact fun _ => rfl
    | cons statement statements ih => exact fun p => ih p
  rw [attemptEvents, policyAfter_append, hstatements]

theorem maybeFlush_policy {input : AttemptInput} (h : s.maybeFlush input = .ok (events, s')) :
    s'.policy = policyAfter events s.policy := by
  rcases maybeFlush_cases h with
    ⟨-, rfl, rfl⟩ | ⟨-, uploader, buffer, attempt, -, -, hne, hupload, rfl, rfl⟩
  · rfl
  · obtain ⟨request, _, hexchange, hresult, -⟩ := HttpUploader.upload_cases hne hupload
    rw [policyAfter_attemptEvents, hexchange]
    cases hanswer : HttpUploader.interpretResponse (input.client request) <;>
      simp [hresult, hanswer, policyAfter, Event.onPolicy, Event.completedFlush, afterFlush,
        resetBackoffAfterSuccess, advanceBackoffAfterFailure]

theorem maybeRetry_policy {countFault : Bool} {input : AttemptInput}
    (h : s.maybeRetry countFault input = .ok (events, s')) :
    s'.policy = policyAfter events s.policy := by
  rcases maybeRetry_cases h with ⟨hevents, rfl⟩ | ⟨uploader, attempt, -, -, -, rfl, rfl⟩
  · rcases hevents with rfl | rfl <;> rfl
  · have hevents : policyAfter (.statement (.count !countFault) ::
        attemptEvents .retry input.now attempt) s.policy = s.policy := by
      change policyAfter (attemptEvents .retry input.now attempt) s.policy = s.policy
      rw [policyAfter_attemptEvents]
      cases attempt.exchange <;> rfl
    rw [hevents]
    cases attempt.result <;> rfl

theorem tick_policy {input : TickInput} (hbound : s.BoundById)
    (h : s.tick input = .ok (events, s')) : s'.policy = policyAfter events s.policy := by
  rcases tick_cases h with
    ⟨-, rfl, rfl⟩ | ⟨-, pollEvents, polled, flushEvents, flushed, retryEvents, hpoll, hflush,
      hretry, rfl⟩
  · rfl
  · rw [policyAfter_append, policyAfter_append, ← pollDue_policy hbound hpoll,
      ← maybeFlush_policy hflush, maybeRetry_policy hretry]

end TelemetryRuntime

open TelemetryRuntime

theorem Ticks.policy_eq {s s' : TelemetryRuntime} {ticks : List Tick} (hbound : s.BoundById)
    (hrun : Ticks s ticks s') : s'.policy = policyAfter (eventsOf ticks) s.policy := by
  induction hrun with
  | nil => rfl
  | snoc hinit hstep ih =>
      rw [eventsOf_append, eventsOf_singleton, policyAfter_append, ← ih]
      exact tick_policy ((frame hinit).boundById hbound) hstep.2

end Bossa.Runtime
