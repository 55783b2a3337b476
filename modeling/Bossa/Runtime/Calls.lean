import Bossa.Runtime.Accounting

/-!
# Calls of the service

The service calls `configure`, which may fail, and `tick`, in any order. A call of
`configure` that fails leaves its work half done: everything in front of the failure has
replaced what was there before, and what comes behind it, the scheduler and the uploader
among it, has not been built.
-/

namespace Bossa.Runtime

open Bossa.Core Telemetry Storage Sync

/-- A call of the service: a configuration, or a tick that comes to its end. -/
inductive Call where
  | configure (input : ConfigureInput) (config : Config)
  | tick (t : Tick)

/-- The transition that a call is. -/
def Call.Step (s : TelemetryRuntime) : Call → TelemetryRuntime → Prop
  | .configure input config, s' => s' = (s.configure input config).2
  | .tick t, s' => t.Step s s'

/-- The events of a call. A configuration has none. -/
def Call.events : Call → List Event
  | .configure _ _ => []
  | .tick t => t.events

/-- A run of calls. -/
abbrev Calls : TelemetryRuntime → List Call → TelemetryRuntime → Prop :=
  Transition.Run Call.Step

namespace TelemetryRuntime

/-- Binding the channels that are polled, from an index on. -/
def bindChannels (input : ConfigureInput) :
    ℕ → List ChannelConfig → TelemetryRuntime → TelemetryRuntime
  | _, [], s => s
  | index, channel :: channels, s =>
      if channel.sampleRateHz.le (.finite 0) then bindChannels input (index + 1) channels s
      else
        bindChannels input (index + 1) channels
          (s.bindChannel (input.channelNow index) channel)

/-- The channel at the index cannot be configured: its driver is not known or throws. -/
def ChannelFails (input : ConfigureInput) (index : ℕ) (channel : ChannelConfig) : Prop :=
  channel.sampleRateHz.le (.finite 0) = false ∧
    (input.registered channel.driver = false ∨ ∃ message, input.driverFault index = some message)

/-- No channel of a list that stands from an index on fails. -/
def NoneFails (input : ConfigureInput) (index : ℕ) (channels : List ChannelConfig) : Prop :=
  ∀ i channel, channels[i]? = some channel → ¬ ChannelFails input (index + i) channel

theorem NoneFails.nil {input : ConfigureInput} {index : ℕ} : NoneFails input index [] := by
  intro i channel h
  simp at h

theorem NoneFails.cons {input : ConfigureInput} {index : ℕ} {channel : ChannelConfig}
    {channels : List ChannelConfig} (hhead : ¬ ChannelFails input index channel)
    (htail : NoneFails input (index + 1) channels) :
    NoneFails input index (channel :: channels)
  | 0, _, h => by
      cases h
      exact hhead
  | i + 1, c, h => by
      rw [← Nat.add_assoc, Nat.add_right_comm]
      exact htail i c h

/-- The channel loop binds all channels that are polled, or those in front of the first
one that fails. -/
theorem configureChannels_cases (input : ConfigureInput) :
    ∀ (channels : List ChannelConfig) (index : ℕ) (s : TelemetryRuntime),
      ((configureChannels input index channels s).1 = true ∧
          (configureChannels input index channels s).2.2 =
            bindChannels input index channels s) ∨
        ((configureChannels input index channels s).1 = false ∧
          ∃ bound channel rest lastError, channels = bound ++ channel :: rest ∧
            NoneFails input index bound ∧
            ChannelFails input (index + bound.length) channel ∧
            (configureChannels input index channels s).2.2 =
              { bindChannels input index bound s with lastError := lastError })
  | [], _, _ => .inl ⟨rfl, rfl⟩
  | channel :: channels, index, s => by
      rw [configureChannels, bindChannels]
      split
      · next hskip =>
          rcases configureChannels_cases input channels (index + 1) s with
            h | ⟨hfails, bound, failing, rest, lastError, rfl, hbound, hchannel, heq⟩
          · exact .inl h
          · have hhead : ¬ ChannelFails input index channel := by
              rintro ⟨hpolled, -⟩
              rw [hskip] at hpolled
              cases hpolled
            refine .inr ⟨hfails, channel :: bound, failing, rest, lastError, rfl,
              hbound.cons hhead, ?_, ?_⟩
            · rwa [List.length_cons, ← Nat.add_assoc, Nat.add_right_comm]
            · rw [heq, bindChannels, if_pos hskip]
      · next hpolled =>
          rw [Bool.not_eq_true] at hpolled
          split
          · next hdriver =>
              refine .inr ⟨rfl, [], channel, channels, _, rfl, .nil, ⟨hpolled, .inl ?_⟩, rfl⟩
              simpa using hdriver
          · next hdriver =>
              split
              · next message hmessage =>
                  exact .inr ⟨rfl, [], channel, channels, _, rfl, .nil,
                    ⟨hpolled, .inr ⟨message, hmessage⟩⟩, rfl⟩
              · next hnone =>
                  rcases configureChannels_cases input channels (index + 1)
                    (s.bindChannel (input.channelNow index) channel) with
                    h | ⟨hfails, bound, failing, rest, lastError, rfl, hbound, hchannel, heq⟩
                  · exact .inl h
                  · have hhead : ¬ ChannelFails input index channel := by
                      rintro ⟨-, hunknown | ⟨message, hmessage⟩⟩
                      · rw [hunknown] at hdriver
                        exact hdriver rfl
                      · rw [hnone] at hmessage
                        cases hmessage
                    refine .inr ⟨hfails, channel :: bound, failing, rest, lastError, rfl,
                      hbound.cons hhead, ?_, ?_⟩
                    · rwa [List.length_cons, ← Nat.add_assoc, Nat.add_right_comm]
                    · dsimp only
                      rw [heq, bindChannels, if_neg (by simp [hpolled])]

theorem mem_bindChannel {now : ℤ} {channel : ChannelConfig} {s : TelemetryRuntime}
    {id : Bytes} : id ∈ (s.bindChannel now channel).channels ↔
      id = channel.id ∨ id ∈ s.channels := by
  unfold bindChannel
  dsimp only
  split
  · next hbound =>
      constructor
      · exact .inr
      · rintro (rfl | h)
        · exact hbound
        · exact h
  · rw [AList.mem_insert]

theorem mem_bindChannels {input : ConfigureInput} {id : Bytes} :
    ∀ {channels : List ChannelConfig} {index : ℕ} {s : TelemetryRuntime},
      id ∈ s.channels → id ∈ (bindChannels input index channels s).channels
  | [], _, _, h => h
  | channel :: channels, index, s, h => by
      rw [bindChannels]
      split
      · exact mem_bindChannels h
      · exact mem_bindChannels (mem_bindChannel.mpr (.inr h))

theorem id_mem_bindChannels {input : ConfigureInput} {channel : ChannelConfig}
    (hpolled : channel.sampleRateHz.le (.finite 0) = false) {channels : List ChannelConfig} :
    ∀ {index : ℕ} {s : TelemetryRuntime}, channel ∈ channels →
      channel.id ∈ (bindChannels input index channels s).channels := by
  induction channels with
  | nil =>
      intro index s hmem
      cases hmem
  | cons c channels ih =>
      intro index s hmem
      rw [bindChannels]
      rcases List.mem_cons.mp hmem with rfl | hmem
      · rw [if_neg (by simp [hpolled])]
        exact mem_bindChannels (mem_bindChannel.mpr (.inl rfl))
      · split
        · exact ih hmem
        · exact ih hmem

theorem entries_ne_nil_of_mem {bindings : AList fun _ : Bytes => ChannelBinding} {id : Bytes}
    (h : id ∈ bindings) : bindings.entries ≠ [] := by
  intro hnil
  rw [AList.mem_keys, AList.keys, hnil] at h
  cases h

/-- After a successful `configure` with a channel that is polled there is a binding. -/
theorem configure_channels_ne_nil {input : ConfigureInput} {config : Config}
    {s s' : TelemetryRuntime} (h : s.configure input config = (true, s'))
    (hpolled : ∃ channel ∈ config.channels, channel.sampleRateHz.le (.finite 0) = false) :
    s'.channels.entries ≠ [] := by
  obtain ⟨channel, hmem, hrate⟩ := hpolled
  unfold configure at h
  dsimp only at h
  split at h
  · cases h
  · rcases configureChannels_cases input config.channels 0
      ((s.reset input config).openStore input).2 with ⟨-, heq⟩ | ⟨hfails, -⟩
    · split at h
      · cases h
      · rw [heq] at h
        obtain ⟨-, rfl⟩ := Prod.mk.inj h
        have hbound := @id_mem_bindChannels input channel hrate _ 0
          ((s.reset input config).openStore input).2 hmem
        exact entries_ne_nil_of_mem hbound
    · rw [hfails] at h
      cases h

theorem bindChannels_eq (input : ConfigureInput) :
    ∀ (channels : List ChannelConfig) (index : ℕ) (s s' : TelemetryRuntime),
      s.policy = s'.policy → s.channels = s'.channels →
      bindChannels input index channels s =
        { s with
          policy := (bindChannels input index channels s').policy
          channels := (bindChannels input index channels s').channels }
  | [], _, _, _, hpolicy, hchannels => by
      rw [bindChannels, bindChannels, ← hpolicy, ← hchannels]
  | channel :: channels, index, s, s', hpolicy, hchannels => by
      rw [bindChannels, bindChannels]
      split
      · exact bindChannels_eq input channels (index + 1) s s' hpolicy hchannels
      · exact bindChannels_eq input channels (index + 1) _ _ (by simp [bindChannel, hpolicy])
          (by simp [bindChannel, hchannels])

theorem openStore_spec (input : ConfigureInput) (s : TelemetryRuntime) :
    (s.openStore input).1 = (decide (s.config.localStorage.path = []) ||
        (s.store.open input.openFault s.config.localStorage.path).1) ∧
      ∃ lastError, (s.openStore input).2 =
        { s with
          store :=
            if s.config.localStorage.path = [] then s.store
            else (s.store.open input.openFault s.config.localStorage.path).2
          storeOpen := decide (s.config.localStorage.path ≠ []) &&
            (s.store.open input.openFault s.config.localStorage.path).1
          lastError := lastError } := by
  unfold openStore
  by_cases hpath : s.config.localStorage.path = []
  · simp [hpath]
  · cases hopened : (s.store.open input.openFault s.config.localStorage.path).1 with
    | false => simp [hpath, hopened]
    | true => exact ⟨by simp [hpath, hopened], s.lastError, by simp [hpath, hopened]⟩

/-- What a call of `configure` leaves that fails: the schedule of before, an empty buffer,
no failure and no uploader, the store as it was found on opening it, and the channels in
front of the first that fails, or none when the store cannot be opened. -/
structure HalfConfigured (input : ConfigureInput) (config : Config)
    (s s' : TelemetryRuntime) : Prop where
  config_eq : s'.config = config
  scheduler_eq : s'.scheduler = s.scheduler
  buffer_eq : s'.buffer = some (.new (bufferCapacity config) (bufferCapacity_pos config))
  uploader_eq : s'.uploader = none
  backoff_eq : s'.retryAttempt = 0 ∧ s'.nextRetryAt = 0
  acceptedUploadCount_eq : s'.acceptedUploadCount = 0
  store_eq : s'.store =
    if config.localStorage.path = [] then s.store
    else (s.store.open input.openFault config.localStorage.path).2
  storeOpen_eq : s'.storeOpen = (decide (config.localStorage.path ≠ []) &&
    (s.store.open input.openFault config.localStorage.path).1)
  bindings : ∃ bound, s'.policy = (bindChannels input 0 bound (s.reset input config)).policy ∧
    s'.channels = (bindChannels input 0 bound (s.reset input config)).channels ∧
    ((config.localStorage.path ≠ [] ∧
        (s.store.open input.openFault config.localStorage.path).1 = false ∧ bound = []) ∨
      ∃ channel rest, config.channels = bound ++ channel :: rest ∧
        NoneFails input 0 bound ∧ ChannelFails input bound.length channel)

theorem configure_halfConfigured {input : ConfigureInput} {config : Config}
    {s s' : TelemetryRuntime} (h : s.configure input config = (false, s')) :
    HalfConfigured input config s s' := by
  obtain ⟨hopened, lastError, hopen⟩ := openStore_spec input (s.reset input config)
  unfold configure at h
  dsimp only at h
  split at h
  · next hfault =>
      rw [hopened] at hfault
      simp only [Bool.not_eq_true', Bool.or_eq_false_iff, decide_eq_false_iff_not] at hfault
      cases h
      rw [hopen]
      exact
        { config_eq := rfl
          scheduler_eq := rfl
          buffer_eq := rfl
          uploader_eq := rfl
          backoff_eq := ⟨rfl, rfl⟩
          acceptedUploadCount_eq := rfl
          store_eq := rfl
          storeOpen_eq := rfl
          bindings := ⟨[], rfl, rfl, .inl ⟨hfault.1, hfault.2, rfl⟩⟩ }
  · rcases configureChannels_cases input config.channels 0
      ((s.reset input config).openStore input).2 with
      ⟨htrue, -⟩ | ⟨hfails, bound, channel, rest, lastError', hsplit, hbound, hchannel, heq⟩
    · rw [htrue] at h
      cases h
    · rw [hfails] at h
      cases h
      have hbind := bindChannels_eq input bound 0 ((s.reset input config).openStore input).2
        (s.reset input config) (by rw [hopen]) (by rw [hopen])
      rw [heq, hbind, hopen]
      rw [Nat.zero_add] at hchannel
      exact
        { config_eq := rfl
          scheduler_eq := rfl
          buffer_eq := rfl
          uploader_eq := rfl
          backoff_eq := ⟨rfl, rfl⟩
          acceptedUploadCount_eq := rfl
          store_eq := rfl
          storeOpen_eq := rfl
          bindings := ⟨bound, rfl, rfl, .inr ⟨channel, rest, hsplit, hbound, hchannel⟩⟩ }

/-- Without an uploader a tick polls and does nothing else. -/
theorem tick_of_uploader_eq_none {input : TickInput} {s s' : TelemetryRuntime}
    {events : List Event} (huploader : s.uploader = none)
    (h : s.tick input = .ok (events, s')) :
    (∀ e ∈ events, IsPoll e) ∧ s'.store = s.store := by
  rcases tick_cases h with
    ⟨-, rfl, rfl⟩ | ⟨-, pollEvents, polled, flushEvents, flushed, retryEvents, hpoll, hflush,
      hretry, rfl⟩
  · exact ⟨by simp, rfl⟩
  · have hframe := pollDue_frame hpoll
    have hpolled : polled.uploader = none := hframe.uploader.trans huploader
    rw [maybeFlush, hpolled] at hflush
    cases hflush
    rw [maybeRetry, hpolled] at hretry
    cases hretry
    refine ⟨?_, hframe.store⟩
    rw [List.append_nil, List.append_nil]
    exact pollDue_isPoll hpoll

end TelemetryRuntime

open TelemetryRuntime

theorem Ticks.of_uploader_eq_none {s s' : TelemetryRuntime} {ticks : List Tick}
    (huploader : s.uploader = none) (hrun : Ticks s ticks s') :
    (∀ e ∈ eventsOf ticks, IsPoll e) ∧ s'.store = s.store := by
  induction hrun with
  | nil => exact ⟨by simp [eventsOf], rfl⟩
  | snoc hinit hstep ih =>
      obtain ⟨hevents, hstore⟩ :=
        tick_of_uploader_eq_none ((frame hinit).uploader.trans huploader) hstep.2
      rw [eventsOf_append, eventsOf_singleton, List.forall_mem_append]
      exact ⟨⟨ih.1, hevents⟩, hstore.trans ih.2⟩

/-- A call of `configure` that fails keeps the schedule and nothing else of before. Until
the next call the ticks poll and neither upload nor touch the table. -/
theorem configure_failed {input : ConfigureInput} {config : Config}
    {s s' : TelemetryRuntime} (h : s.configure input config = (false, s')) :
    HalfConfigured input config s s' ∧
      ∀ ticks s'', Ticks s' ticks s'' →
        (∀ e ∈ eventsOf ticks, IsPoll e) ∧ s''.store = s'.store := by
  have hhalf := configure_halfConfigured h
  exact ⟨hhalf, fun ticks s'' hrun => hrun.of_uploader_eq_none hhalf.uploader_eq⟩

/-- The configuration with a second channel, of a driver that is not known. -/
def unknownDriverConfig : Config :=
  let config := deploymentConfig "1" "remote"
  { config with
    channels := config.channels ++ config.channels.map fun channel =>
      { channel with id := Bytes.ascii "u", driver := Bytes.ascii "none" } }

theorem configure_unknownDriver :
    (deployed "1" "remote").configure deploymentInput unknownDriverConfig =
      (false, ((deployed "1" "remote").configure deploymentInput unknownDriverConfig).2) :=
  Prod.ext (by decide +kernel) rfl

/-- A runtime is left with the first of two channels. -/
theorem configure_failed_unknown_driver :
    ∃ s', (deployed "1" "remote").configure deploymentInput unknownDriverConfig = (false, s') ∧
      HalfConfigured deploymentInput unknownDriverConfig (deployed "1" "remote") s' ∧
      ∀ ticks s'', Ticks s' ticks s'' →
        (∀ e ∈ eventsOf ticks, IsPoll e) ∧ s''.store = s'.store :=
  ⟨_, configure_unknownDriver, configure_failed configure_unknownDriver⟩

/-- A reload that fails takes the uploader from the runtime that was there before. -/
theorem not_configure_atomic :
    ¬ ∀ (files : Bytes → PendingUploads) (calls : List Call) (s s' : TelemetryRuntime)
      (input : ConfigureInput) (config : Config),
      Calls (TelemetryRuntime.new files) calls s → s.configure input config = (false, s') →
      s'.channels = s.channels ∧ s'.scheduler = s.scheduler ∧ s'.residents = s.residents ∧
        s'.policy = s.policy ∧ (s'.storeOpen = s.storeOpen ∧ s'.store.db = s.store.db) ∧
        s'.uploader = s.uploader := by
  intro hclaim
  have hcalls : Calls (TelemetryRuntime.new fun _ => .empty)
      ([] ++ [.configure deploymentInput (deploymentConfig "1" "remote")])
      (deployed "1" "remote") := Transition.Run.nil.snoc rfl
  obtain ⟨-, -, -, -, -, huploader⟩ := hclaim _ _ _ _ _ _ hcalls configure_unknownDriver
  exact absurd huploader (by decide +kernel)

end Bossa.Runtime
