import Bossa.Runtime.Flush

/-!
# The interval between flushes

All channels share one buffer and one decision to flush. The interval of a channel is kept
when every flush of its samples is a flush that its own interval, or a full buffer, asks
for, and none of them has to be tried again: a flush that failed is not recorded, so the
next one may follow at once.
-/

namespace Bossa.Runtime

open Bossa.Core Telemetry Storage Sync

/-- The origin of a sample that was read for the channel with the id. -/
def Event.originRead (id : Bytes) : Event → Option ℕ
  | read channel _ sample => if channel.id = id then some sample.origin else none
  | _ => none

/-- The origins of the samples that were read for the channel with the id. -/
def originsRead (id : Bytes) (events : List Event) : List ℕ :=
  events.filterMap (Event.originRead id)

/-- One of the samples has one of the origins. -/
def Carries (O : List ℕ) (samples : List StoredSample) : Prop := ∃ x ∈ samples, x.origin ∈ O

instance (O : List ℕ) (samples : List StoredSample) : Decidable (Carries O samples) :=
  inferInstanceAs (Decidable (∃ x ∈ samples, _))

def flushesWith (O : List ℕ) (events : List Event) : List (ℤ × Exchange) :=
  (flushes events).filter fun p => Carries O p.2.samples

/-- A flush is begun at least the interval of the channel after another one, or it takes a
full buffer. -/
def Apart (config : Config) (c : ChannelConfig) (a b : ℤ × Exchange) : Prop :=
  a.1 + c.sync.remoteIntervalSeconds * 1000000000 ≤ b.1 ∨
    (b.2.samples.length : ℤ) = config.server.maxBatchSize

/-- Successive flushes that carry samples of the channel are apart. -/
def KeepsInterval (config : Config) (c : ChannelConfig) (events : List Event) : Prop :=
  (flushesWith (originsRead c.id events) events).IsChain (Apart config c)

/-- When a flush in the tick carries one of the samples, the buffer is full or the interval
of the channel has elapsed since the last completed flush, and the flush is not to be tried
again. -/
structure FlushesFor (c : ChannelConfig) (O : List ℕ) (t : Tick) : Prop where
  elapsed : ∀ r ∈ (t.before.pollDue t.input).toOption,
    r.2.flushDue t.input.flush.now = true → Carries O r.2.residents →
    (r.2.residents.length : ℤ) < r.2.config.server.maxBatchSize →
    ∀ state ∈ r.2.policy.channels.lookup c.id,
      c.sync.remoteIntervalSeconds * 1000000000 ≤ t.input.flush.now - state.lastFlush
  completed : ∀ p ∈ flushes t.events, Carries O p.2.samples →
    HttpUploader.interpretResponse p.2.response ≠ .transientFailure

instance (config : Config) (c : ChannelConfig) : DecidableRel (Apart config c) :=
  fun _ _ => inferInstanceAs (Decidable (_ ∨ _))

instance (config : Config) (c : ChannelConfig) (events : List Event) :
    Decidable (KeepsInterval config c events) :=
  inferInstanceAs (Decidable (List.IsChain _ _))

instance (c : ChannelConfig) (O : List ℕ) (t : Tick) : Decidable (FlushesFor c O t) :=
  decidable_of_iff _ ⟨fun h => ⟨h.1, h.2⟩, fun h => And.intro h.elapsed h.completed⟩

theorem filterMap_completedFlush (events : List Event) :
    events.filterMap Event.completedFlush = (flushes events).filterMap fun p =>
      if HttpUploader.interpretResponse p.2.response = .transientFailure then none
      else some p.1 := by
  rw [flushes, List.filterMap_filterMap]
  refine List.filterMap_congr fun e _ => ?_
  rcases e with _ | _ | ⟨_ | _⟩ | _ <;> rfl

theorem lastCompleted_of_no_flush {events : List Event} (h : flushes events = []) :
    lastCompleted events = none := by
  rw [lastCompleted, filterMap_completedFlush, h]
  rfl

theorem lastCompleted_of_flush {events : List Event} {now : ℤ} {exchange : Exchange}
    (h : flushes events = [(now, exchange)]) :
    lastCompleted events =
      if HttpUploader.interpretResponse exchange.response = .transientFailure then none
      else some now := by
  rw [lastCompleted, filterMap_completedFlush, h]
  split <;> simp [*]

namespace TelemetryRuntime

variable {s s' : TelemetryRuntime} {events : List Event}

theorem length_residents_le (hwired : s.Wired) (hbatch : 0 < s.config.server.maxBatchSize) :
    (s.residents.length : ℤ) ≤ s.config.server.maxBatchSize := by
  obtain ⟨buffer, hbuffer⟩ := Option.isSome_iff_exists.mp hwired.buffer_isSome
  have hcapacity := hwired.capacity
  rw [hbuffer, Option.map_some, Option.some_inj, bufferCapacity, if_pos hbatch] at hcapacity
  have hsize := buffer.size_le
  rw [residents, hbuffer, Option.elim_some, RingBuffer.length_residents]
  omega

theorem lastFlush_of_lookup {p p' : UploadPolicy} {events : List Event} {id : Bytes}
    {state : RuntimeState} (hpolicy : p' = policyAfter events p)
    (hstate : p'.channels.lookup id = some state) :
    ∃ before ∈ p.channels.lookup id,
      state.lastFlush = (lastCompleted events).getD before.lastFlush := by
  rw [hpolicy, lookup_policyAfter] at hstate
  obtain ⟨before, hbefore, rfl⟩ := Option.map_eq_some_iff.mp hstate
  exact ⟨before, hbefore, stateAfter_lastFlush events before⟩

end TelemetryRuntime

open TelemetryRuntime

/-- The flushes so far are apart, and the policy has recorded them. -/
structure Spaced (config : Config) (c : ChannelConfig) (O : List ℕ) (events : List Event)
    (s : TelemetryRuntime) : Prop where
  chain : (flushesWith O events).IsChain (Apart config c)
  registered : (s.policy.channels.lookup c.id).isSome = true
  recorded : ∀ state ∈ s.policy.channels.lookup c.id, ∀ p ∈ flushesWith O events,
    p.1 ≤ state.lastFlush

section Tick

variable {config : Config} {c : ChannelConfig} {O : List ℕ} {events : List Event} {t : Tick}
  {u : TelemetryRuntime}

/-- A flush for the channel is apart from those before it. -/
theorem Spaced.apart (hspaced : Spaced config c O events t.before)
    (hframe : t.before.config = config) (hwired : t.before.Wired)
    (hbatch : 0 < config.server.maxBatchSize) (hbound : t.before.BoundById)
    (hfor : FlushesFor c O t) {pollEvents : List Event} {polled : TelemetryRuntime}
    (hpoll : t.before.pollDue t.input = .ok (pollEvents, polled))
    (hdue : polled.flushDue t.input.flush.now = true) {exchange : Exchange}
    (hsamples : exchange.samples = polled.residents) (hcarries : Carries O exchange.samples) :
    ∀ p ∈ flushesWith O events, Apart config c p (t.input.flush.now, exchange) := by
  intro p hp
  have hpolled := (pollDue_frame hpoll).toFrame
  have hconfig : polled.config = config := hpolled.config.trans hframe
  have hle := length_residents_le (hpolled.wired hwired) (hconfig ▸ hbatch)
  rw [hconfig, ← hsamples] at hle
  rcases hle.lt_or_eq with hroom | hfull
  · left
    have hregistered := hspaced.registered
    rw [← Option.isSome_map (f := stateAfter c.id pollEvents), ← lookup_policyAfter,
      ← pollDue_policy hbound hpoll] at hregistered
    obtain ⟨state, hstate⟩ := Option.isSome_iff_exists.mp hregistered
    obtain ⟨before, hbefore, hlast⟩ := lastFlush_of_lookup (pollDue_policy hbound hpoll) hstate
    rw [lastCompleted_of_no_flush (flushes_of_isPoll (pollDue_isPoll hpoll)), Option.getD_none]
      at hlast
    have helapsed := hfor.elapsed (pollEvents, polled) (by rw [hpoll]; rfl) hdue
      (hsamples ▸ hcarries) (by rwa [hconfig, ← hsamples]) state hstate
    have hrecorded := hspaced.recorded before hbefore p hp
    omega
  · exact .inr hfull

/-- A tick whose flush is one for the channel keeps the flushes apart. -/
theorem Spaced.tick (hspaced : Spaced config c O events t.before)
    (hframe : t.before.config = config) (hwired : t.before.Wired)
    (hbatch : 0 < config.server.maxBatchSize) (hbound : t.before.BoundById)
    (hfor : FlushesFor c O t) (hclock : ∀ p ∈ flushes events, p.1 ≤ t.input.flush.now)
    (htick : t.before.tick t.input = .ok (t.events, u)) :
    Spaced config c O (events ++ t.events) u := by
  have hpolicy := tick_policy hbound htick
  have hregistered : (u.policy.channels.lookup c.id).isSome = true := by
    rw [hpolicy, lookup_policyAfter, Option.isSome_map]
    exact hspaced.registered
  rcases flushes_tick hwired (hframe ▸ hbatch) htick with
    hnone | ⟨pollEvents, polled, exchange, hpoll, hdue, hsamples, hone⟩
  · have hsame : flushesWith O (events ++ t.events) = flushesWith O events := by
      simp [flushesWith, flushes_append, hnone]
    refine ⟨hsame ▸ hspaced.chain, hregistered, fun state hstate p hp => ?_⟩
    obtain ⟨before, hbefore, hlast⟩ := lastFlush_of_lookup hpolicy hstate
    rw [lastCompleted_of_no_flush hnone, Option.getD_none] at hlast
    exact (hspaced.recorded before hbefore p (hsame ▸ hp)).trans_eq hlast.symm
  · have hcompleted := lastCompleted_of_flush hone
    have hold : ∀ state ∈ u.policy.channels.lookup c.id, ∀ p ∈ flushesWith O events,
        p.1 ≤ state.lastFlush := by
      intro state hstate p hp
      obtain ⟨before, hbefore, hlast⟩ := lastFlush_of_lookup hpolicy hstate
      rw [hlast, hcompleted]
      split
      · exact hspaced.recorded before hbefore p hp
      · exact hclock p (List.mem_of_mem_filter hp)
    by_cases hcarries : Carries O exchange.samples
    · have hmore : flushesWith O (events ++ t.events) =
          flushesWith O events ++ [(t.input.flush.now, exchange)] := by
        simp [flushesWith, flushes_append, hone, hcarries]
      refine ⟨?_, hregistered, fun state hstate p hp => ?_⟩
      · rw [hmore, List.isChain_append]
        refine ⟨hspaced.chain, .singleton _, fun p hp q hq => ?_⟩
        cases hq
        exact hspaced.apart hframe hwired hbatch hbound hfor hpoll hdue hsamples hcarries p
          (List.mem_of_mem_getLast? hp)
      · rw [hmore, List.mem_append, List.mem_singleton] at hp
        rcases hp with hp | rfl
        · exact hold state hstate p hp
        · obtain ⟨before, -, hlast⟩ := lastFlush_of_lookup hpolicy hstate
          have hfinal : HttpUploader.interpretResponse exchange.response ≠ .transientFailure :=
            hfor.completed _ (hone ▸ List.mem_singleton_self _) hcarries
          rw [hlast, hcompleted, if_neg hfinal, Option.getD_some]
    · have hsame : flushesWith O (events ++ t.events) = flushesWith O events := by
        simp [flushesWith, flushes_append, hone, hcarries]
      exact ⟨hsame ▸ hspaced.chain, hregistered, hsame ▸ hold⟩

end Tick

theorem Ticks.exists_flush_now {s s' : TelemetryRuntime} {ticks : List Tick}
    (hwired : s.Wired) (hbatch : 0 < s.config.server.maxBatchSize) (hrun : Ticks s ticks s')
    {now : ℤ} {exchange : Exchange} (hflush : (now, exchange) ∈ flushes (eventsOf ticks)) :
    ∃ t ∈ ticks, now = t.input.flush.now := by
  rw [mem_flushes, mem_eventsOf] at hflush
  obtain ⟨t, ht, hpost⟩ := hflush
  obtain ⟨hframe, u, htick⟩ := hrun.mem t ht
  rcases flushes_tick (hframe.wired hwired) (by rwa [hframe.config]) htick with
    hnone | ⟨_, _, _, -, -, -, hone⟩
  · rw [← mem_flushes, hnone] at hpost
    cases hpost
  · rw [← mem_flushes, hone] at hpost
    exact ⟨t, ht, congrArg Prod.fst (List.mem_singleton.mp hpost)⟩

/-- A run all of whose flushes of the samples are flushes for the channel keeps them
apart. -/
theorem Ticks.spaced {config : Config} {c : ChannelConfig} {O : List ℕ}
    {s s' : TelemetryRuntime} {ticks : List Tick} (hconfig : s.config = config)
    (hwired : s.Wired) (hbatch : 0 < config.server.maxBatchSize) (hbound : s.BoundById)
    (hregistered : (s.policy.channels.lookup c.id).isSome = true) (hrun : Ticks s ticks s')
    (hclock : (ticks.map fun t => t.input.flush.now).Pairwise (· ≤ ·))
    (hfor : ∀ t ∈ ticks, FlushesFor c O t) : Spaced config c O (eventsOf ticks) s' := by
  induction hrun with
  | nil => exact ⟨.nil, hregistered, fun _ _ p hp => by cases hp⟩
  | @snoc v u past t hinit hstep ih =>
      rw [List.map_append, List.pairwise_append] at hclock
      rw [List.forall_mem_append, List.forall_mem_singleton] at hfor
      obtain ⟨hbefore, htick⟩ := hstep
      subst hbefore
      have hframe := frame hinit
      rw [eventsOf_append, eventsOf_singleton]
      refine (ih hclock.1 hfor.1).tick (hframe.config.trans hconfig) (hframe.wired hwired) hbatch
        (hframe.boundById hbound) hfor.2 (fun p hp => ?_) htick
      obtain ⟨t', ht', hnow⟩ := Ticks.exists_flush_now hwired (hconfig ▸ hbatch) hinit hp
      rw [hnow]
      exact hclock.2.2 _ (List.mem_map_of_mem ht') _ (List.mem_singleton_self _)

/-- The interval of a channel is kept in a run all of whose flushes of its samples are
flushes for the channel. The steady clock does not go back. -/
theorem keepsInterval_of_flushesFor {conversions : YamlConversions}
    {load : Bytes → Except Bytes Yaml} {file : ConfigFile} {path : Bytes} {config : Config}
    {input : ConfigureInput} {s₀ s s' : TelemetryRuntime} {ticks : List Tick}
    {c : ChannelConfig} (hload : loadConfig conversions load file path = .ok config)
    (hconfigure : s₀.configure input config = (true, s)) (hrun : Ticks s ticks s')
    (hclock : (ticks.map fun t => t.input.flush.now).Pairwise (· ≤ ·))
    (hc : c ∈ config.channels)
    (hfor : ∀ t ∈ ticks, FlushesFor c (originsRead c.id (eventsOf ticks)) t) :
    KeepsInterval config c (eventsOf ticks) := by
  have hvalid := loadConfig_valid hload
  obtain ⟨d, -, state, hstate, -⟩ := exists_registered
    (fun c hc => polled_of_valid (hvalid.channels c hc)) hconfigure hc
  exact (Ticks.spaced (configure_spec hconfigure).1 (configure_wired hconfigure)
    hvalid.maxBatchSize_pos (configure_boundById hconfigure) (by rw [hstate]; rfl) hrun hclock
    hfor).chain

/-- The samples of a batch channel are flushed at 60 s and at 120 s. -/
theorem keepsInterval_of_flushesFor_two_flushes :
    ∃ ticks s', Ticks (fleet "10" [⟨"t", "remote", "batch", "60", "0"⟩]) ticks s' ∧
      (flushes (eventsOf ticks)).map Prod.fst = [60000000000, 120000000000] ∧
      ∀ c ∈ (fleetConfig "10" [⟨"t", "remote", "batch", "60", "0"⟩]).channels,
        KeepsInterval (fleetConfig "10" [⟨"t", "remote", "batch", "60", "0"⟩]) c
          (eventsOf ticks) := by
  obtain ⟨ticks, s', hrun, hcheck⟩ :=
    exists_ticks (fleet "10" [⟨"t", "remote", "batch", "60", "0"⟩])
    [fleetTick 60 [[fleetSample 20 1]] 202, fleetTick 61 [[fleetSample 20 2]] 202,
      fleetTick 120 [[fleetSample 20 3]] 202]
    (fun ticks _ =>
      (flushes (eventsOf ticks)).map Prod.fst = [60000000000, 120000000000] ∧
      (ticks.map fun t => t.input.flush.now).Pairwise (· ≤ ·) ∧
      ∀ c ∈ (fleetConfig "10" [⟨"t", "remote", "batch", "60", "0"⟩]).channels,
        ∀ t ∈ ticks, FlushesFor c (originsRead c.id (eventsOf ticks)) t) (by decide +kernel)
  obtain ⟨hflushes, hclock, hfor⟩ := of_decide_eq_true hcheck
  exact ⟨ticks, s', hrun, hflushes, fun c hc =>
    keepsInterval_of_flushesFor (fleetResult_eq _ _ (by decide +kernel))
      (configure_fleet _ _ (by decide +kernel)) hrun hclock hc (hfor c hc)⟩

/-- A realtime channel takes the samples of a batch channel along, every second. -/
theorem not_keepsInterval_realtime_channel :
    ¬ ∀ (conversions : YamlConversions) (load : Bytes → Except Bytes Yaml)
      (file : ConfigFile) (path : Bytes) (config : Config) (input : ConfigureInput)
      (s₀ s s' : TelemetryRuntime) (ticks : List Tick) (c : ChannelConfig),
      loadConfig conversions load file path = .ok config →
      s₀.configure input config = (true, s) → Ticks s ticks s' →
      (ticks.map fun t => t.input.flush.now).Pairwise (· ≤ ·) →
      (rowOrigins s.store.rows + readOrigins (eventsOf ticks)).Nodup →
      c ∈ config.channels → c.sync.mode = .batch → c.sync.destinationRemote = true →
      KeepsInterval config c (eventsOf ticks) := by
  intro hclaim
  let channels : List FleetChannel :=
    [⟨"t", "remote", "batch", "60", "0"⟩, ⟨"h", "remote", "realtime", "60", "0"⟩]
  obtain ⟨ticks, s', hrun, hcheck⟩ := exists_ticks (fleet "10" channels)
    [fleetTick 1 [[fleetSample 20 1], [fleetSample 50 2]] 202,
      fleetTick 2 [[fleetSample 20 3], [fleetSample 50 4]] 202]
    (fun ticks _ => (ticks.map fun t => t.input.flush.now).Pairwise (· ≤ ·) ∧
      (rowOrigins (fleet "10" channels).store.rows + readOrigins (eventsOf ticks)).Nodup ∧
      ∃ c ∈ (fleetConfig "10" channels).channels, c.sync.mode = .batch ∧
        c.sync.destinationRemote = true ∧
        ¬ KeepsInterval (fleetConfig "10" channels) c (eventsOf ticks)) (by decide +kernel)
  obtain ⟨hclock, hnodup, c, hc, hmode, hremote, hbroken⟩ := of_decide_eq_true hcheck
  exact hbroken (hclaim _ _ _ _ _ _ _ _ _ _ c (fleetResult_eq _ _ (by decide +kernel))
    (configure_fleet _ _ (by decide +kernel)) hrun hclock hnodup hc hmode hremote)

end Bossa.Runtime
