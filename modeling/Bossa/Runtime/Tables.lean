import Bossa.Runtime.Calls

/-!
# The tables of the channels

`configure` fills three tables from the list of channels: the schedule gets an entry for
each, the map of bindings keeps the first of those with one id, the policy the last. They
agree exactly when no id occurs twice.
-/

namespace Bossa.Core.ChannelConfig

open Telemetry

def scheduleEntry (c : ChannelConfig) : ScheduleEntry := ⟨c.id, c.sampleRateHz⟩

/-- The binding of the channel: itself, and the driver made for it. -/
def binding (c : ChannelConfig) : Runtime.ChannelBinding := ⟨c, ⟨c.driver, c.parameters⟩⟩

/-- The channel is polled: its rate is not zero or less. -/
def polled (c : ChannelConfig) : Bool := !c.sampleRateHz.le (.finite 0)

end Bossa.Core.ChannelConfig

def Bossa.Core.Config.lastEntry (config : Config) (id : Bytes) : Option ChannelConfig :=
  config.channels.reverse.find? fun c => c.id = id

namespace Bossa.Runtime

open Bossa.Core Telemetry Storage Sync

namespace TelemetryRuntime

/-- When the channel loop comes to its end, the schedule lists the channels that are
polled. -/
theorem configureChannels_schedule_eq (input : ConfigureInput) :
    ∀ (channels : List ChannelConfig) (index : ℕ) (s : TelemetryRuntime),
      (configureChannels input index channels s).1 = true →
      (configureChannels input index channels s).2.1 =
        (channels.filter ChannelConfig.polled).map ChannelConfig.scheduleEntry
  | [], _, _, _ => rfl
  | channel :: channels, index, s, h => by
      rw [configureChannels] at h ⊢
      split at h
      · next hskip =>
          rw [if_pos hskip, List.filter_cons_of_neg (by simp [ChannelConfig.polled, hskip])]
          exact configureChannels_schedule_eq input channels (index + 1) s h
      · next hpolled =>
          rw [if_neg hpolled, List.filter_cons_of_pos (by simpa [ChannelConfig.polled] using hpolled)]
          split at h
          · cases h
          · next hdriver =>
              rw [if_neg hdriver]
              split at h
              · cases h
              · dsimp only at h ⊢
                rw [configureChannels_schedule_eq input channels (index + 1) _ h]
                rfl

/-- What a successful `configure` puts into the three tables. -/
theorem configure_tables {input : ConfigureInput} {config : Config} {s s' : TelemetryRuntime}
    (h : s.configure input config = (true, s')) :
    s'.scheduler = .configure
        ((config.channels.filter ChannelConfig.polled).map ChannelConfig.scheduleEntry)
        input.schedulerNow ∧
      s'.channels = (bindChannels input 0 config.channels (s.reset input config)).channels ∧
      s'.policy = (bindChannels input 0 config.channels (s.reset input config)).policy := by
  obtain ⟨-, lastError, hopen⟩ := openStore_spec input (s.reset input config)
  have hschedule := configureChannels_schedule_eq input config.channels 0
    ((s.reset input config).openStore input).2
  unfold configure at h
  dsimp only at h
  split at h
  · cases h
  · rcases configureChannels_cases input config.channels 0
      ((s.reset input config).openStore input).2 with ⟨htrue, heq⟩ | ⟨hfails, -⟩
    · rw [htrue] at h
      cases h
      have hbind := bindChannels_eq input config.channels 0
        ((s.reset input config).openStore input).2 (s.reset input config) (by rw [hopen])
        (by rw [hopen])
      rw [heq, hbind, hschedule htrue]
      exact ⟨rfl, rfl, rfl⟩
    · rw [hfails] at h
      cases h

section Binding

variable {input : ConfigureInput} {now : ℤ} {channel : ChannelConfig} {s : TelemetryRuntime}

theorem channels_bindChannel (now : ℤ) (channel : ChannelConfig) (s : TelemetryRuntime) :
    (s.bindChannel now channel).channels =
      if channel.id ∈ s.channels then s.channels
      else s.channels.insert channel.id channel.binding := rfl

theorem policy_bindChannel (now : ℤ) (channel : ChannelConfig) (s : TelemetryRuntime) :
    (s.bindChannel now channel).policy.channels =
      s.policy.channels.insert channel.id { config := syncState channel, lastFlush := now } :=
  rfl

/-- A binding is that of a channel with the id, or was there before. -/
theorem lookup_channels_bindChannels {id : Bytes} {b : ChannelBinding} :
    ∀ {channels : List ChannelConfig} {index : ℕ} {s : TelemetryRuntime},
      (bindChannels input index channels s).channels.lookup id = some b →
      s.channels.lookup id = some b ∨ ∃ c ∈ channels, c.id = id ∧ b = c.binding
  | [], _, _, h => .inl h
  | channel :: channels, index, s, h => by
      rw [bindChannels] at h
      split at h
      · rcases lookup_channels_bindChannels h with hold | ⟨c, hc, hnew⟩
        · exact .inl hold
        · exact .inr ⟨c, List.mem_cons_of_mem _ hc, hnew⟩
      · rcases lookup_channels_bindChannels h with hold | ⟨c, hc, hnew⟩
        · rw [channels_bindChannel] at hold
          split at hold
          · exact .inl hold
          · by_cases hid : id = channel.id
            · rw [hid, AList.lookup_insert] at hold
              cases hold
              exact .inr ⟨channel, List.mem_cons_self, hid.symm, rfl⟩
            · rw [AList.lookup_insert_ne hid] at hold
              exact .inl hold
        · exact .inr ⟨c, List.mem_cons_of_mem _ hc, hnew⟩

/-- A state of the policy is that of a channel with the id, or was there before. -/
theorem lookup_policy_bindChannels {id : Bytes} {state : RuntimeState} :
    ∀ {channels : List ChannelConfig} {index : ℕ} {s : TelemetryRuntime},
      (bindChannels input index channels s).policy.channels.lookup id = some state →
      s.policy.channels.lookup id = some state ∨ ∃ c ∈ channels, c.id = id ∧ ∃ now,
        state = { config := syncState c, lastFlush := now }
  | [], _, _, h => .inl h
  | channel :: channels, index, s, h => by
      rw [bindChannels] at h
      split at h
      · rcases lookup_policy_bindChannels h with hold | ⟨c, hc, hnew⟩
        · exact .inl hold
        · exact .inr ⟨c, List.mem_cons_of_mem _ hc, hnew⟩
      · rcases lookup_policy_bindChannels h with hold | ⟨c, hc, hnew⟩
        · rw [policy_bindChannel] at hold
          by_cases hid : id = channel.id
          · rw [hid, AList.lookup_insert] at hold
            cases hold
            exact .inr ⟨channel, List.mem_cons_self, hid.symm, _, rfl⟩
          · rw [AList.lookup_insert_ne hid] at hold
            exact .inl hold
        · exact .inr ⟨c, List.mem_cons_of_mem _ hc, hnew⟩

/-- The policy applies the settings of the last channel with the id. -/
theorem config_lookup_bindChannels (id : Bytes) :
    ∀ {channels : List ChannelConfig} {index : ℕ} {s : TelemetryRuntime},
      (∀ c ∈ channels, c.polled = true) →
      ((bindChannels input index channels s).policy.channels.lookup id).map
          RuntimeState.config =
        ((channels.reverse.find? fun c => c.id = id).map syncState).or
          ((s.policy.channels.lookup id).map RuntimeState.config)
  | [], _, _, _ => rfl
  | channel :: channels, index, s, hpolled => by
      rw [List.forall_mem_cons] at hpolled
      rw [bindChannels, if_neg (by simpa [ChannelConfig.polled] using hpolled.1),
        config_lookup_bindChannels id hpolled.2, policy_bindChannel, List.reverse_cons,
        List.find?_append]
      cases (channels.reverse.find? fun c => c.id = id) with
      | some c => rfl
      | none =>
          by_cases hid : channel.id = id
          · subst hid
            simp [AList.lookup_insert]
          · simp [hid, AList.lookup_insert_ne (Ne.symm hid)]

/-- When no id occurs twice, every channel gets its own binding and its own state of the
policy. -/
theorem entries_bindChannels :
    ∀ {channels : List ChannelConfig} {index : ℕ} {s : TelemetryRuntime},
      (∀ c ∈ channels, c.polled = true) → (channels.map ChannelConfig.id).Nodup →
      (∀ c ∈ channels, c.id ∉ s.channels ∧ c.id ∉ s.policy.channels) →
      (bindChannels input index channels s).channels.entries.Perm
          (channels.map (fun c => ⟨c.id, c.binding⟩) ++ s.channels.entries) ∧
        ((bindChannels input index channels s).policy.channels.entries.map
            fun e => (e.1, e.2.config)).Perm
          (channels.map (fun c => (c.id, syncState c)) ++
            s.policy.channels.entries.map fun e => (e.1, e.2.config))
  | [], _, _, _, _, _ => ⟨.refl _, .refl _⟩
  | channel :: channels, index, s, hpolled, hids, hfresh => by
      rw [List.forall_mem_cons] at hpolled hfresh
      obtain ⟨hid, hids⟩ := List.nodup_cons.mp hids
      rw [bindChannels, if_neg (by simpa [ChannelConfig.polled] using hpolled.1)]
      have hlater : ∀ c ∈ channels,
          c.id ∉ (s.bindChannel (input.channelNow index) channel).channels ∧
            c.id ∉ (s.bindChannel (input.channelNow index) channel).policy.channels := by
        intro c hc
        have hne : c.id ≠ channel.id := fun heq => hid (heq ▸ List.mem_map_of_mem hc)
        obtain ⟨hchannels, hpolicy⟩ := hfresh.2 c hc
        rw [policy_bindChannel, mem_bindChannel, AList.mem_insert]
        exact ⟨not_or.mpr ⟨hne, hchannels⟩, not_or.mpr ⟨hne, hpolicy⟩⟩
      obtain ⟨hbound, hpoliced⟩ := entries_bindChannels hpolled.2 hids hlater
      rw [channels_bindChannel, if_neg hfresh.1.1, AList.entries_insert_of_notMem hfresh.1.1]
        at hbound
      rw [policy_bindChannel, AList.entries_insert_of_notMem hfresh.1.2, List.map_cons]
        at hpoliced
      exact ⟨hbound.trans List.perm_middle, hpoliced.trans List.perm_middle⟩

end Binding

end TelemetryRuntime

open TelemetryRuntime

/-- The schedule, the bindings and the policy correspond to the channels one by one, and
what is looked up for a channel comes from its own entry. -/
structure TablesAgree (config : Config) (s : TelemetryRuntime) : Prop where
  scheduled : s.scheduler.channels.map (fun c => (c.entry, c.period)) =
    config.channels.map fun c => (c.scheduleEntry, Scheduler.periodFromHz c.sampleRateHz)
  bound : s.channels.entries.Perm (config.channels.map fun c => ⟨c.id, c.binding⟩)
  policed : (s.policy.channels.entries.map fun e => (e.1, e.2.config)).Perm
    (config.channels.map fun c => (c.id, syncState c))
  resolved : ∀ c ∈ config.channels, s.channels.lookup c.id = some c.binding ∧
    ∃ state, s.policy.channels.lookup c.id = some state ∧ state.config = syncState c

theorem polled_of_valid {channel : ChannelConfig} (h : channel.Valid) :
    channel.polled = true := by
  have hrate := h.sampleRateHz_pos
  unfold ChannelConfig.polled
  cases hvalue : channel.sampleRateHz <;> simp_all [Double.lt, Double.le]

/-- The tables of a loaded configuration agree if and only if no id occurs twice. -/
theorem tablesAgree_iff {conversions : YamlConversions} {load : Bytes → Except Bytes Yaml}
    {file : ConfigFile} {path : Bytes} {config : Config} {input : ConfigureInput}
    {s₀ s : TelemetryRuntime} (hload : loadConfig conversions load file path = .ok config)
    (hconfigure : s₀.configure input config = (true, s)) :
    TablesAgree config s ↔ (config.channels.map ChannelConfig.id).Nodup := by
  obtain ⟨hscheduler, hchannels, hpolicy⟩ := configure_tables hconfigure
  have hpolled : ∀ c ∈ config.channels, c.polled = true := fun c hc =>
    polled_of_valid ((loadConfig_valid hload).channels c hc)
  constructor
  · intro hagree
    have hkeys := hagree.bound.map Sigma.fst
    rw [List.map_map] at hkeys
    exact hkeys.nodup_iff.mp s.channels.keys_nodup
  · intro hids
    have hbind := @entries_bindChannels input _ 0 (s₀.reset input config) hpolled hids
      fun c _ => ⟨AList.notMem_empty c.id, AList.notMem_empty c.id⟩
    have hbound : s.channels.entries.Perm
        (config.channels.map fun c => ⟨c.id, c.binding⟩) := by
      rw [hchannels]
      simpa [reset] using hbind.1
    have hpoliced : (s.policy.channels.entries.map fun e => (e.1, e.2.config)).Perm
        (config.channels.map fun c => (c.id, syncState c)) := by
      rw [hpolicy]
      simpa [reset, UploadPolicy.clear, UploadPolicy.empty] using hbind.2
    refine ⟨?_, hbound, hpoliced, fun c hc => ⟨?_, ?_⟩⟩
    · rw [hscheduler, Scheduler.configure, List.filter_eq_self.mpr hpolled, List.map_map,
        List.map_map]
      rfl
    · refine AList.mem_lookup_iff.mpr (hbound.mem_iff.mpr ?_)
      exact List.mem_map_of_mem (f := fun c : ChannelConfig =>
        (⟨c.id, c.binding⟩ : Sigma fun _ : Bytes => ChannelBinding)) hc
    · have hmem := hpoliced.mem_iff.mpr (List.mem_map_of_mem hc)
      obtain ⟨⟨id, state⟩, hstate, heq⟩ := List.mem_map.mp hmem
      obtain ⟨rfl, hsync⟩ := Prod.mk.inj heq
      exact ⟨state, AList.mem_lookup_iff.mpr hstate, hsync⟩

/-- After a successful `configure` the policy applies the settings of the last channel with
an id, and the bindings are of channels with their ids. -/
theorem configure_lookup {input : ConfigureInput} {config : Config} {s₀ s : TelemetryRuntime}
    (hpolled : ∀ c ∈ config.channels, c.polled = true)
    (hconfigure : s₀.configure input config = (true, s)) (id : Bytes) :
    (s.policy.channels.lookup id).map RuntimeState.config =
        (config.lastEntry id).map syncState ∧
      ∀ binding, s.channels.lookup id = some binding →
        binding.config ∈ config.channels ∧ binding.config.id = id := by
  obtain ⟨-, hchannels, hpolicy⟩ := configure_tables hconfigure
  constructor
  · rw [hpolicy, config_lookup_bindChannels id hpolled]
    exact Option.or_none
  · intro binding hbinding
    rw [hchannels] at hbinding
    rcases lookup_channels_bindChannels hbinding with hold | ⟨c, hc, hid, rfl⟩
    · cases hold
    · exact ⟨hc, hid⟩

section Fleet

/-!
Deployments with several channels of the simulated sensor at one hertz, with the members
of their sync sections given.
-/

/-- A channel in the source of a configuration. -/
structure FleetChannel where
  id : String
  destination : String
  mode : String
  interval : String
  threshold : String

def FleetChannel.text (c : FleetChannel) : String :=
  "  - id: " ++ c.id ++ "\n    driver: sim\n    sample_rate_hz: 1\n    sync:\n" ++
    "      destinations: [" ++ c.destination ++ "]\n      mode: " ++ c.mode ++
    "\n      remote_interval_seconds: " ++ c.interval ++
    "\n      on_change_threshold: " ++ c.threshold ++ "\n"

def FleetChannel.document (c : FleetChannel) : Yaml :=
  .map
    [(yamlText "id", yamlText c.id), (yamlText "driver", yamlText "sim"),
      (yamlText "sample_rate_hz", yamlText "1"),
      (yamlText "sync", .map
        [(yamlText "destinations", .sequence [yamlText c.destination]),
          (yamlText "mode", yamlText c.mode),
          (yamlText "remote_interval_seconds", yamlText c.interval),
          (yamlText "on_change_threshold", yamlText c.threshold)])]

def fleetText (maxBatchSize : String) (channels : List FleetChannel) : String :=
  "config_version: 1\nnode:\n  id: edge-1\n  api_key_file: key\nserver:\n  url: http://host\n" ++
    "  max_batch_size: " ++ maxBatchSize ++ "\nchannels:\n" ++
    String.join (channels.map FleetChannel.text)

def fleetDocument (maxBatchSize : String) (channels : List FleetChannel) : Yaml :=
  .map
    [(yamlText "config_version", yamlText "1"),
      (yamlText "node", .map
        [(yamlText "id", yamlText "edge-1"), (yamlText "api_key_file", yamlText "key")]),
      (yamlText "server", .map
        [(yamlText "url", yamlText "http://host"),
          (yamlText "max_batch_size", yamlText maxBatchSize)]),
      (yamlText "channels", .sequence (channels.map FleetChannel.document))]

def fleetFile (maxBatchSize : String) (channels : List FleetChannel) : ConfigFile where
  «exists» := some true
  size := some (113 + maxBatchSize.length + (channels.map fun c => 153 + c.id.length +
    c.destination.length + c.mode.length + c.interval.length + c.threshold.length).sum)
  opens := true
  text := some (Bytes.ascii (fleetText maxBatchSize channels))

def fleetResult (maxBatchSize : String) (channels : List FleetChannel) :
    ConfigLoadResult Config :=
  loadConfig plainConversions (fun _ => .ok (fleetDocument maxBatchSize channels))
    (fleetFile maxBatchSize channels) (Bytes.ascii "config.yaml")

def fleetConfig (maxBatchSize : String) (channels : List FleetChannel) : Config :=
  (fleetResult maxBatchSize channels).toOption.getD {}

def fleet (maxBatchSize : String) (channels : List FleetChannel) : TelemetryRuntime :=
  ((TelemetryRuntime.new fun _ => .empty).configure deploymentInput
    (fleetConfig maxBatchSize channels)).2

theorem fleetResult_eq (maxBatchSize : String) (channels : List FleetChannel)
    (h : (fleetResult maxBatchSize channels).toOption.isSome = true) :
    fleetResult maxBatchSize channels = .ok (fleetConfig maxBatchSize channels) :=
  eq_ok_getD h

theorem configure_fleet (maxBatchSize : String) (channels : List FleetChannel)
    (h : ((TelemetryRuntime.new fun _ => .empty).configure deploymentInput
      (fleetConfig maxBatchSize channels)).1 = true) :
    (TelemetryRuntime.new fun _ => .empty).configure deploymentInput
        (fleetConfig maxBatchSize channels) =
      (true, fleet maxBatchSize channels) :=
  Prod.ext h rfl

def fleetSample (value : ℚ) (origin : ℕ) : Sample :=
  { deploymentSample origin with value := .finite value }

/-- A tick at a second in which the polls read the given samples and uploads are answered
with a status. -/
def fleetTick (second : ℤ) (reads : List (List Sample)) (status : ℤ) : TickInput :=
  { deploymentTick second none status status with
    reads := fun i => ⟨(reads.getD i []).take 8, List.length_take_le _ _⟩ }

end Fleet

/-- Two channels, each with its own entries in the tables. -/
theorem tablesAgree_iff_two_channels :
    ∃ channels : List FleetChannel, channels.length = 2 ∧
      TablesAgree (fleetConfig "2" channels) (fleet "2" channels) :=
  ⟨[⟨"t", "remote", "batch", "60", "0"⟩, ⟨"h", "remote", "realtime", "60", "0"⟩], rfl,
    (tablesAgree_iff (fleetResult_eq _ _ (by decide +kernel))
      (configure_fleet _ _ (by decide +kernel))).mpr (by decide +kernel)⟩

/-- Two entries of one id share a binding. -/
theorem not_tablesAgree_one_id :
    ¬ ∀ (conversions : YamlConversions) (load : Bytes → Except Bytes Yaml)
      (file : ConfigFile) (path : Bytes) (config : Config) (input : ConfigureInput)
      (s₀ s : TelemetryRuntime), loadConfig conversions load file path = .ok config →
      s₀.configure input config = (true, s) → TablesAgree config s := by
  intro hclaim
  have hagree := hclaim _ _ _ _ _ _ _ _
    (fleetResult_eq "2" [⟨"t", "remote", "realtime", "60", "0"⟩,
      ⟨"t", "remote", "batch", "60", "0"⟩] (by decide +kernel))
    (configure_fleet _ _ (by decide +kernel))
  have hlength := hagree.bound.length_eq
  revert hlength
  decide +kernel

end Bossa.Runtime
