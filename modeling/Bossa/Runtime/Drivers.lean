import Bossa.Drivers.Session
import Bossa.Runtime.Calls
import Bossa.Transition.Collection

/-!
# The drivers of the runtime

The model of `TelemetryRuntime` knows its drivers by their names and takes what they throw and
return from outside. Here they are the objects that `configure` creates, holds in the bindings
of `channels_` and destroys, and that `poll_channel` reads: a BME280 with its bus, or a driver
of another kind, which throws and returns what the outside says. The runtime takes its faults
and readings from them.

Every driver then has a session of its own with its sensor, whatever is configured and polled
in between, and none is lost on the way.
-/

namespace Bossa.Runtime

open Bossa.Core Drivers Io Telemetry Storage

/-- A driver that the runtime has created. -/
inductive HeldDriver where
  | bme280 (s : Bme280)
  | other

/-- The outside of the drivers in a call of `configure`, for each channel of the configuration:
the descriptor and the answers of the kernel, and what a driver of another kind throws. -/
structure SetUpOutside where
  fd : ℕ → Option ℕ
  kernel : ℕ → I2cBus
  fault : ℕ → Option Bytes

/-- The outside of the drivers in a tick, for each poll: the answers of the kernel, the system
clock, and what a driver of another kind reads. -/
structure ReadOutside where
  kernel : ℕ → I2cBus
  now : ℕ → ℤ
  other : ℕ → ReadResult

theorem length_read_le (kernel : I2cBus) (now : ℤ) (s : Bme280) :
    (s.read kernel now).2.length ≤ 8 := by
  have hread : ∀ samples, s.driver.read wrap32 (s.bus.seen kernel) now = .ok samples →
      samples.length ≤ 8 := by
    intro samples hread
    unfold Bme280Driver.read at hread
    split at hread
    · cases hread
      exact Nat.zero_le _
    · split at hread
      · cases hread
        exact Nat.zero_le _
      · split at hread
        · cases hread
          exact Nat.zero_le _
        · obtain ⟨⟨celsius, fine⟩, -, hread⟩ := Abort.bind_eq_ok_iff.mp hread
          obtain ⟨percent, -, hread⟩ := Abort.bind_eq_ok_iff.mp hread
          cases hread
          exact (by decide : 2 ≤ 8)
  unfold Bme280.read
  dsimp only
  split
  · next samples hsamples => exact hread samples hsamples
  · exact Nat.zero_le _

namespace HeldDriver

/-- `Registry::create` and the call of `configure` of the driver: what it throws, if it does,
the events and the driver. -/
def setUp (undefined : ℤ) (outside : SetUpOutside) (index : ℕ) (channel : ChannelConfig) :
    Option Bytes × List DriverEvent × HeldDriver :=
  if channel.driver = Bytes.ascii "bme280" then
    let result := Bme280.configure undefined (outside.fd index) (outside.kernel index)
      channel.parameters {}
    (result.1, .created channel.driver :: Bme280.configureEvents channel.parameters result,
      .bme280 result.2.2)
  else
    (outside.fault index,
      [.created channel.driver, .configuring channel.parameters,
        match outside.fault index with
        | some what => .threw what
        | none => .configured],
      .other)

/-- The call of `read` of the driver. -/
def read (outside : ReadOutside) (index : ℕ) : HeldDriver → List DriverEvent × ReadResult
  | bme280 s =>
      (s.readEvents (outside.kernel index) (outside.now index),
        ⟨(s.read (outside.kernel index) (outside.now index)).2,
          length_read_le (outside.kernel index) (outside.now index) s⟩)
  | other => ([.returned (outside.now index) (outside.other index).samples], outside.other index)

/-- The destructor of the driver. -/
def destroy : HeldDriver → List DriverEvent
  | bme280 s => s.destroyEvents
  | other => [.destroyed]

/-- The session of a driver that is held, between two calls. -/
def Between : HeldDriver → Session → Prop
  | bme280 s, session => s.Idle session
  | other, session => session = .other

end HeldDriver

/-- The runtime with its drivers, under the ids of their channels. -/
structure Rig where
  runtime : TelemetryRuntime
  drivers : Collection Bytes HeldDriver

/-- A call of the runtime with the outside of its drivers. -/
inductive RigCall where
  | configure (input : ConfigureInput) (outside : SetUpOutside) (config : Config)
  | tick (input : TickInput) (outside : ReadOutside)

namespace Rig

/-- The drivers of the channel loop of `configure`, from an index on. A driver that throws is
destroyed, and so is one whose id is bound already. -/
def setUpChannels (undefined : ℤ) (registered : Bytes → Bool) (outside : SetUpOutside) :
    ℕ → List ChannelConfig → Collection Bytes HeldDriver →
      List (ℕ × DriverEvent) × Collection Bytes HeldDriver
  | _, [], c => ([], c)
  | index, channel :: channels, c =>
      if channel.sampleRateHz.le (.finite 0) then
        setUpChannels undefined registered outside (index + 1) channels c
      else if !registered channel.driver then ([], c)
      else
        let result := HeldDriver.setUp undefined outside index channel
        match result.1 with
        | some _ => (Collection.tag c.created (result.2.1 ++ result.2.2.destroy), c.drop)
        | none =>
            if channel.id ∈ c.objects then
              let rest := setUpChannels undefined registered outside (index + 1) channels c.drop
              (Collection.tag c.created (result.2.1 ++ result.2.2.destroy) ++ rest.1, rest.2)
            else
              let rest := setUpChannels undefined registered outside (index + 1) channels
                (c.keep channel.id result.2.2)
              (Collection.tag c.created result.2.1 ++ rest.1, rest.2)

def faults (undefined : ℤ) (outside : SetUpOutside) (config : Config) (index : ℕ) :
    Option Bytes :=
  config.channels[index]?.bind fun channel =>
    (HeldDriver.setUp undefined outside index channel).1

/-- The outside of a call of `configure` as the runtime sees it. -/
def seenBy (undefined : ℤ) (input : ConfigureInput) (outside : SetUpOutside) (config : Config) :
    ConfigureInput :=
  { input with driverFault := faults undefined outside config }

/-- `TelemetryRuntime::configure`. The drivers of before are destroyed first. -/
def configure (undefined : ℤ) (input : ConfigureInput) (outside : SetUpOutside) (config : Config)
    (s : Rig) : List (ℕ × DriverEvent) × Rig :=
  let input := seenBy undefined input outside config
  let runtime := (s.runtime.configure input config).2
  let destroyed := s.drivers.destroyAll HeldDriver.destroy
  if !((s.runtime.reset input config).openStore input).1 then
    (destroyed, ⟨runtime, s.drivers.clear⟩)
  else
    let set := setUpChannels undefined input.registered outside 0 config.channels s.drivers.clear
    (destroyed ++ set.1, ⟨runtime, set.2⟩)

def polls (input : TickInput) (s : Rig) : List Bytes :=
  if s.runtime.channels.entries = [] then []
  else
    match s.runtime.scheduler.dispatchDue add64 input.fuel input.now with
    | .ok dispatch => dispatch.polls
    | .error _ => []

/-- The driver of a channel is read. -/
def pollDriver (outside : ReadOutside) (index : ℕ) (channelId : Bytes)
    (c : Collection Bytes HeldDriver) : List (ℕ × DriverEvent) × ReadResult :=
  match c.objects.lookup channelId with
  | none => ([], outside.other index)
  | some (n, d) =>
      let (events, result) := d.read outside index
      (Collection.tag n events, result)

/-- The events of the polls of a tick from an index on. -/
def pollEvents (outside : ReadOutside) (c : Collection Bytes HeldDriver) :
    ℕ → List Bytes → List (ℕ × DriverEvent)
  | _, [] => []
  | index, channelId :: polls =>
      (pollDriver outside index channelId c).1 ++ pollEvents outside c (index + 1) polls

def reads (outside : ReadOutside) (c : Collection Bytes HeldDriver) (polls : List Bytes)
    (index : ℕ) : ReadResult :=
  match polls[index]? with
  | none => outside.other index
  | some channelId => (pollDriver outside index channelId c).2

/-- `TelemetryRuntime::tick`, when it comes to its end. -/
def tick (input : TickInput) (outside : ReadOutside) (s : Rig) :
    Except Abort (List (ℕ × DriverEvent) × Rig) := do
  let polls := s.polls input
  let ticked ← s.runtime.tick { input with reads := reads outside s.drivers polls }
  pure (pollEvents outside s.drivers 0 polls, ⟨ticked.2, s.drivers⟩)

def call (undefined : ℤ) : RigCall → Rig → Except Abort (List (ℕ × DriverEvent) × Rig)
  | .configure input outside config, s => pure (s.configure undefined input outside config)
  | .tick input outside, s => s.tick input outside

/-- A run of calls, with the events of the drivers in each. -/
abbrev Run (undefined : ℤ) :
    Rig → List (RigCall × List (ℕ × DriverEvent)) → Rig → Prop :=
  Transition.Run fun s l t => s.call undefined l.1 = .ok (l.2, t)

/-- The runtime before its first configuration. -/
def new (files : Bytes → PendingUploads) : Rig := ⟨.new files, ⟨∅, 0⟩⟩

/-- The events of a run and of the destructor behind it. -/
def lifeEvents (labels : List (RigCall × List (ℕ × DriverEvent))) (s : Rig) :
    List (ℕ × DriverEvent) :=
  labels.flatMap Prod.snd ++ s.drivers.destroyAll HeldDriver.destroy

def returned (trace : List (ℕ × DriverEvent)) : List Sample :=
  trace.flatMap fun e => e.2.returnedSamples

variable {undefined : ℤ} {s t : Rig} {trace events : List (ℕ × DriverEvent)}
  {c : Collection Bytes HeldDriver}

/-- Each driver is in its session. -/
abbrev Tracks (undefined : ℤ) : List (ℕ × DriverEvent) → Collection Bytes HeldDriver → Prop :=
  Collection.Tracks (fun s e t => Session.step undefined s e = some t) .absent .gone
    HeldDriver.Between

/-- A driver that is created and configured can be kept, unless it throws, and destroyed. -/
theorem run_setUp (outside : SetUpOutside) (index : ℕ) (channel : ChannelConfig)
    {result : Option Bytes × List DriverEvent × HeldDriver}
    (hresult : HeldDriver.setUp undefined outside index channel = result) :
    Session.Run undefined .absent (result.2.1 ++ result.2.2.destroy) .gone ∧
      (result.1 = none → ∃ session, result.2.2.Between session ∧
        Session.Run undefined .absent result.2.1 session) := by
  subst hresult
  unfold HeldDriver.setUp
  by_cases hdriver : channel.driver = Bytes.ascii "bme280"
  · rw [if_pos hdriver]
    obtain ⟨result, hresult⟩ : ∃ result, Bme280.configure undefined (outside.fd index)
        (outside.kernel index) channel.parameters {} = result := ⟨_, rfl⟩
    obtain ⟨hthrew, hready⟩ := Session.run_configure _ _ _ hresult
    have hcreated : Session.step undefined .absent (.created channel.driver) =
        some .created := by
      rw [Session.step, if_pos hdriver]
    rw [hresult]
    refine ⟨.cons hcreated ?_, fun hnone => ?_⟩
    · cases hresult' : result.1 with
      | some what => exact (hthrew what hresult').append (Session.run_destroy_ended _)
      | none =>
          obtain ⟨session, hidle, hrun⟩ := hready hresult'
          exact hrun.append (Session.run_destroy hidle)
    · obtain ⟨session, hidle, hrun⟩ := hready hnone
      exact ⟨session, hidle, .cons hcreated hrun⟩
  · rw [if_neg hdriver]
    have hcreated : Session.step undefined .absent (.created channel.driver) =
        some .other := by
      rw [Session.step, if_neg hdriver]
    have hother : Session.Run undefined .absent
        [.created channel.driver, .configuring channel.parameters,
          match outside.fault index with
          | some what => .threw what
          | none => .configured] .other := by
      refine .cons hcreated (.cons rfl (.snoc .nil ?_))
      cases outside.fault index <;> rfl
    exact ⟨hother.append (.snoc .nil rfl), fun _ => ⟨.other, rfl, hother⟩⟩

theorem run_heldRead (outside : ReadOutside) (index : ℕ) (d : HeldDriver) {session : Session}
    (h : d.Between session) :
    Session.Run undefined session (d.read outside index).1 session := by
  cases d with
  | bme280 s => exact Session.run_read h _ _
  | other =>
      cases h
      exact .snoc .nil rfl

theorem run_heldDestroy (d : HeldDriver) (session : Session) (h : d.Between session) :
    Session.Run undefined session d.destroy .gone := by
  cases d with
  | bme280 s => exact Session.run_destroy h
  | other =>
      cases h
      exact .snoc .nil rfl

/-- The channel loop keeps every driver in its session. -/
theorem tracks_setUpChannels (registered : Bytes → Bool) (outside : SetUpOutside) :
    ∀ (channels : List ChannelConfig) (index : ℕ) (c : Collection Bytes HeldDriver)
      (trace : List (ℕ × DriverEvent)), Tracks undefined trace c →
      Tracks undefined
        (trace ++ (setUpChannels undefined registered outside index channels c).1)
        (setUpChannels undefined registered outside index channels c).2
  | [], _, c, trace, h => by
      rw [setUpChannels, List.append_nil]
      exact h
  | channel :: channels, index, c, trace, h => by
      obtain ⟨result, hresult⟩ :
          ∃ result, HeldDriver.setUp undefined outside index channel = result := ⟨_, rfl⟩
      obtain ⟨hlife, hready⟩ := run_setUp outside index channel hresult
      rw [setUpChannels]
      split
      · exact tracks_setUpChannels registered outside channels (index + 1) c trace h
      · split
        · rw [List.append_nil]
          exact h
        · dsimp only
          rw [hresult]
          split
          · exact h.drop hlife
          · next hnone =>
              split
              · rw [← List.append_assoc]
                exact tracks_setUpChannels registered outside channels (index + 1) _ _
                  (h.drop hlife)
              · next hfree =>
                  obtain ⟨session, hsession, hrun⟩ := hready hnone
                  rw [← List.append_assoc]
                  exact tracks_setUpChannels registered outside channels (index + 1) _ _
                    (h.keep hfree hrun hsession)

theorem tracks_pollEvents (outside : ReadOutside) :
    ∀ (polls : List Bytes) (index : ℕ) (trace : List (ℕ × DriverEvent)),
      Tracks undefined trace c → Tracks undefined (trace ++ pollEvents outside c index polls) c
  | [], _, trace, h => by
      rw [pollEvents, List.append_nil]
      exact h
  | channelId :: polls, index, trace, h => by
      rw [pollEvents, ← List.append_assoc]
      refine tracks_pollEvents outside polls (index + 1) _ ?_
      unfold pollDriver
      split
      · rw [List.append_nil]
        exact h
      · next n d hlookup =>
          exact h.call hlookup fun session hsession => run_heldRead outside index d hsession

theorem forall_tail {α β : Type*} {f : ℕ → β} {g : ℕ → α → β} {x : α} {xs : List α} {index : ℕ}
    (h : ∀ i y, (x :: xs)[i]? = some y → f (index + i) = g (index + i) y) :
    ∀ i y, xs[i]? = some y → f (index + 1 + i) = g (index + 1 + i) y := by
  intro i y hi
  have hnext := h (i + 1) y hi
  rwa [← Nat.add_assoc, Nat.add_right_comm] at hnext

/-- The loop holds a driver for each channel that it binds. -/
theorem mem_setUpChannels_iff {input : ConfigureInput} (outside : SetUpOutside) :
    ∀ (channels : List ChannelConfig) (index : ℕ) (c : Collection Bytes HeldDriver)
      (s : TelemetryRuntime),
      (∀ i channel, channels[i]? = some channel → input.driverFault (index + i) =
        (HeldDriver.setUp undefined outside (index + i) channel).1) →
      (∀ id, id ∈ c.objects ↔ id ∈ s.channels) →
      ∀ id, id ∈ (setUpChannels undefined input.registered outside index channels c).2.objects ↔
        id ∈ (TelemetryRuntime.configureChannels input index channels s).2.2.channels
  | [], _, _, _, _, hkeys => hkeys
  | channel :: channels, index, c, s, hfaults, hkeys => by
      have hhead : input.driverFault index =
          (HeldDriver.setUp undefined outside index channel).1 := hfaults 0 channel rfl
      have htail := @forall_tail _ _ input.driverFault
        (fun i channel => (HeldDriver.setUp undefined outside i channel).1) _ _ _ hfaults
      rw [setUpChannels, TelemetryRuntime.configureChannels]
      split
      · exact mem_setUpChannels_iff outside channels (index + 1) c s htail hkeys
      · split
        · exact hkeys
        · dsimp only
          rw [hhead]
          cases hfault : (HeldDriver.setUp undefined outside index channel).1 with
          | some what => exact hkeys
          | none =>
              dsimp only
              have hbound : (channel.id ∈ c.objects) ↔ channel.id ∈ s.channels := hkeys _
              by_cases hmem : channel.id ∈ c.objects
              · rw [if_pos hmem]
                refine mem_setUpChannels_iff outside channels (index + 1) _ _ htail ?_
                intro id
                simp only [TelemetryRuntime.bindChannel, if_pos (hbound.mp hmem)]
                exact hkeys id
              · rw [if_neg hmem]
                refine mem_setUpChannels_iff outside channels (index + 1) _ _ htail ?_
                intro id
                simp only [TelemetryRuntime.bindChannel, if_neg (hbound.not.mp hmem),
                  Collection.keep, AList.mem_insert]
                rw [hkeys id]

theorem openStore_channels (input : ConfigureInput) (config : Config) (s : TelemetryRuntime) :
    ((s.reset input config).openStore input).2.channels = ∅ := by
  obtain ⟨lastError, heq⟩ := (TelemetryRuntime.openStore_spec input (s.reset input config)).2
  rw [heq]
  rfl

theorem configure_channels (input : ConfigureInput) (config : Config) (s : TelemetryRuntime) :
    (s.configure input config).2.channels =
      if !((s.reset input config).openStore input).1 then ∅
      else (TelemetryRuntime.configureChannels input 0 config.channels
        ((s.reset input config).openStore input).2).2.2.channels := by
  unfold TelemetryRuntime.configure
  dsimp only
  split
  · exact openStore_channels input config s
  · split <;> rfl

theorem configure_runtime (input : ConfigureInput) (outside : SetUpOutside) (config : Config) :
    (s.configure undefined input outside config).2.runtime =
      (s.runtime.configure (seenBy undefined input outside config) config).2 := by
  unfold configure
  dsimp only
  split <;> rfl

@[simp] theorem returned_append (trace trace' : List (ℕ × DriverEvent)) :
    returned (trace ++ trace') = returned trace ++ returned trace' :=
  List.flatMap_append

theorem returned_tag (n : ℕ) (events : List DriverEvent) :
    returned (Collection.tag n events) = events.flatMap DriverEvent.returnedSamples := by
  induction events with
  | nil => rfl
  | cons e events ih => simp [returned, Collection.tag, List.flatMap_map]

theorem returnedSamples_heldRead (outside : ReadOutside) (index : ℕ) (d : HeldDriver) :
    (d.read outside index).1.flatMap DriverEvent.returnedSamples =
      (d.read outside index).2.samples := by
  cases d with
  | bme280 s =>
      simp [HeldDriver.read, Bme280.readEvents, DriverEvent.returnedSamples_bus, DriverEvent.returnedSamples]
  | other => simp [HeldDriver.read, DriverEvent.returnedSamples]

theorem returnedSamples_heldDestroy (d : HeldDriver) :
    d.destroy.flatMap DriverEvent.returnedSamples = [] := by
  cases d with
  | bme280 s =>
      simp [HeldDriver.destroy, Bme280.destroyEvents, DriverEvent.returnedSamples_bus,
        DriverEvent.returnedSamples]
  | other => rfl

theorem returnedSamples_setUp (outside : SetUpOutside) (index : ℕ) (channel : ChannelConfig) :
    (HeldDriver.setUp undefined outside index channel).2.1.flatMap
      DriverEvent.returnedSamples = [] := by
  unfold HeldDriver.setUp
  split
  · obtain ⟨result, hresult⟩ : ∃ result, Bme280.configure undefined (outside.fd index)
        (outside.kernel index) channel.parameters {} = result := ⟨_, rfl⟩
    dsimp only
    rw [hresult, Bme280.configureEvents]
    cases result.1 <;> simp [DriverEvent.returnedSamples_bus, DriverEvent.returnedSamples]
  · cases outside.fault index <;> rfl

theorem returned_destroyAll (c : Collection Bytes HeldDriver) :
    returned (c.destroyAll HeldDriver.destroy) = [] := by
  unfold returned Collection.destroyAll
  rw [List.flatMap_assoc, List.flatMap_eq_nil_iff]
  intro e _
  exact (returned_tag _ _).trans (returnedSamples_heldDestroy e.2.2)

theorem returned_setUpChannels (registered : Bytes → Bool) (outside : SetUpOutside) :
    ∀ (channels : List ChannelConfig) (index : ℕ) (c : Collection Bytes HeldDriver),
      returned (setUpChannels undefined registered outside index channels c).1 = []
  | [], _, _ => rfl
  | channel :: channels, index, c => by
      have hsetUp := @returnedSamples_setUp undefined outside index channel
      obtain ⟨result, hresult⟩ :
          ∃ result, HeldDriver.setUp undefined outside index channel = result := ⟨_, rfl⟩
      rw [hresult] at hsetUp
      have hboth : (result.2.1 ++ result.2.2.destroy).flatMap DriverEvent.returnedSamples =
          [] := by
        rw [List.flatMap_append, hsetUp, returnedSamples_heldDestroy, List.append_nil]
      rw [setUpChannels]
      split
      · exact returned_setUpChannels registered outside channels (index + 1) c
      · split
        · rfl
        · dsimp only
          rw [hresult]
          split
          · rw [returned_tag, hboth]
          · split
            · rw [returned_append, returned_tag, hboth, List.nil_append]
              exact returned_setUpChannels registered outside channels (index + 1) _
            · rw [returned_append, returned_tag, hsetUp, List.nil_append]
              exact returned_setUpChannels registered outside channels (index + 1) _

theorem returned_configure (input : ConfigureInput) (outside : SetUpOutside) (config : Config) :
    returned (s.configure undefined input outside config).1 = [] := by
  unfold configure
  dsimp only
  split
  · exact returned_destroyAll s.drivers
  · rw [returned_append, returned_destroyAll, returned_setUpChannels]
    rfl

theorem readSamples_recordSamples (channelId : Bytes) (channel : ChannelConfig) (now : ℤ) :
    ∀ (samples : List Sample) (s : TelemetryRuntime),
      (s.recordSamples channelId channel now samples).1.flatMap Event.readSamples = samples
  | [], _ => rfl
  | sample :: samples, s => by
      have hdropped : ∀ dropped : Option StoredSample,
          (dropped.map Event.dropped).toList.flatMap Event.readSamples = [] := by
        rintro (_ | dropped) <;> rfl
      rw [TelemetryRuntime.recordSamples]
      dsimp only [TelemetryRuntime.recordSample]
      rw [List.flatMap_append, List.flatMap_cons, hdropped, List.append_nil,
        readSamples_recordSamples channelId channel now samples]
      rfl

theorem readSamples_pollChannels {input : TickInput} (outside : ReadOutside) :
    ∀ (polls : List Bytes) (index : ℕ) (s : TelemetryRuntime),
      (∀ i id, polls[i]? = some id →
        input.reads (index + i) = (pollDriver outside (index + i) id c).2) →
      (∀ id, id ∈ c.objects ↔ id ∈ s.channels) →
      (s.pollChannels input index polls).1.flatMap Event.readSamples =
        returned (pollEvents outside c index polls)
  | [], _, _, _, _ => rfl
  | channelId :: polls, index, s, hreads, hkeys => by
      have hhead : input.reads index = (pollDriver outside index channelId c).2 :=
        hreads 0 channelId rfl
      have htail := @forall_tail _ _ input.reads
        (fun i id => (pollDriver outside i id c).2) _ _ _ hreads
      have hpoll : (s.pollChannel channelId (input.reads index) (input.pollNow index)).1.flatMap
          Event.readSamples = returned (pollDriver outside index channelId c).1 := by
        rw [hhead]
        unfold pollDriver TelemetryRuntime.pollChannel
        cases hbinding : s.channels.lookup channelId with
        | none =>
            have hdriver : c.objects.lookup channelId = none := by
              rw [AList.lookup_eq_none, hkeys, ← AList.lookup_eq_none]
              exact hbinding
            rw [hdriver]
            rfl
        | some binding =>
            have hmem : channelId ∈ c.objects := by
              rw [hkeys, ← AList.lookup_isSome, hbinding]
              rfl
            obtain ⟨⟨n, d⟩, hdriver⟩ := Option.isSome_iff_exists.mp
              (AList.lookup_isSome.mpr hmem)
            rw [hdriver]
            dsimp only
            rw [readSamples_recordSamples, returned_tag, returnedSamples_heldRead]
      have hframe := TelemetryRuntime.pollChannel_frame channelId (input.reads index)
        (input.pollNow index) s
      rw [TelemetryRuntime.pollChannels, pollEvents, returned_append]
      dsimp only
      rw [List.flatMap_append, hpoll]
      refine congrArg _ (readSamples_pollChannels outside polls (index + 1) _ htail ?_)
      rw [hframe.channels]
      exact hkeys

theorem readSamples_tick {input : TickInput} (outside : ReadOutside) {ticked : List Event}
    {runtime : TelemetryRuntime} (hkeys : ∀ id, id ∈ s.drivers.objects ↔ id ∈ s.runtime.channels)
    (h : s.runtime.tick { input with reads := reads outside s.drivers (s.polls input) } =
      .ok (ticked, runtime)) :
    ticked.flatMap Event.readSamples =
      returned (pollEvents outside s.drivers 0 (s.polls input)) := by
  rcases TelemetryRuntime.tick_cases h with
    ⟨hnil, rfl, -⟩ | ⟨hne, pollEvents, polled, flushEvents, flushed, retryEvents, hpoll, hflush,
      hretry, rfl⟩
  · rw [polls, if_pos hnil]
    rfl
  · have hlater : (flushEvents ++ retryEvents).flatMap Event.readSamples = [] :=
      TelemetryRuntime.flatMap_flush_retry (fun _ _ _ => rfl) (fun _ => rfl) hflush hretry
    obtain ⟨dispatch, hdispatch, rfl, -⟩ := TelemetryRuntime.pollDue_cases hpoll
    have hpolls : s.polls input = dispatch.polls := by
      rw [polls, if_neg hne, hdispatch]
    rw [List.append_assoc, List.flatMap_append, hlater, List.append_nil, hpolls]
    refine readSamples_pollChannels outside dispatch.polls 0 s.runtime (fun i id hi => ?_) hkeys
    rw [Nat.zero_add]
    dsimp only
    rw [reads, hi]

/-- What holds of the runtime with its drivers in every run. -/
structure Regular (undefined : ℤ) (files : Bytes → PendingUploads)
    (labels : List (RigCall × List (ℕ × DriverEvent))) (s : Rig) : Prop where
  calls : ∃ calls, Calls (.new files) calls s.runtime ∧
    (calls.flatMap Call.events).flatMap Event.readSamples = returned (labels.flatMap Prod.snd)
  keys : ∀ id, id ∈ s.drivers.objects ↔ id ∈ s.runtime.channels
  tracks : Tracks undefined (labels.flatMap Prod.snd) s.drivers

/-- A call of `configure` destroys the drivers of before and holds one for each channel. -/
theorem configure_spec (input : ConfigureInput) (outside : SetUpOutside) (config : Config)
    (h : Tracks undefined trace s.drivers) :
    Tracks undefined (trace ++ (s.configure undefined input outside config).1)
        (s.configure undefined input outside config).2.drivers ∧
      ∀ id, id ∈ (s.configure undefined input outside config).2.drivers.objects ↔
        id ∈ (s.configure undefined input outside config).2.runtime.channels := by
  have hclear := h.clear run_heldDestroy
  rw [configure_runtime, configure_channels]
  unfold configure
  dsimp only
  split
  · exact ⟨hclear, fun _ => Iff.rfl⟩
  · rw [← List.append_assoc]
    refine ⟨tracks_setUpChannels _ outside config.channels 0 _ _ hclear, ?_⟩
    refine @mem_setUpChannels_iff undefined (seenBy undefined input outside config) outside
      config.channels 0 s.drivers.clear _ (fun i channel hi => ?_) (fun id => ?_)
    · change (config.channels[0 + i]?).bind _ = _
      rw [Nat.zero_add, hi]
      rfl
    · rw [openStore_channels]
      rfl

theorem Regular.step {files : Bytes → PendingUploads}
    {labels : List (RigCall × List (ℕ × DriverEvent))} {l : RigCall × List (ℕ × DriverEvent)}
    (h : s.Regular undefined files labels) (hstep : s.call undefined l.1 = .ok (l.2, t)) :
    t.Regular undefined files (labels ++ [l]) := by
  obtain ⟨calls, hcalls, hreturned⟩ := h.calls
  obtain ⟨call, events⟩ := l
  have htrace : (labels ++ [(call, events)]).flatMap Prod.snd =
      labels.flatMap Prod.snd ++ events := by
    simp
  cases call with
  | configure input outside config =>
      have hresult : s.configure undefined input outside config = (events, t) :=
        Except.ok.inj hstep
      obtain ⟨htracks, hkeys⟩ := configure_spec input outside config h.tracks
      have hruntime := @configure_runtime undefined s input outside config
      rw [hresult] at htracks hkeys hruntime
      have hcall : Call.Step s.runtime (.configure (seenBy undefined input outside config) config)
          t.runtime := hruntime
      have hnone := @returned_configure undefined s input outside config
      rw [hresult] at hnone
      refine ⟨⟨_, hcalls.snoc hcall, ?_⟩, hkeys, htrace ▸ htracks⟩
      rw [htrace, returned_append, ← hreturned, hnone]
      simp [Call.events]
  | tick input outside =>
      obtain ⟨⟨ticked, runtime⟩, hticked, hresult⟩ := Abort.bind_eq_ok_iff.mp hstep
      cases hresult
      have hcall : Call.Step s.runtime (.tick ⟨s.runtime, _, ticked⟩) runtime := ⟨rfl, hticked⟩
      refine ⟨⟨_, hcalls.snoc hcall, ?_⟩, fun id => ?_,
        htrace ▸ tracks_pollEvents outside _ 0 _ h.tracks⟩
      · rw [htrace, returned_append, ← hreturned, ← readSamples_tick outside h.keys hticked]
        simp [Call.events]
      · rw [(TelemetryRuntime.tick_frame hticked).channels]
        exact h.keys id

theorem regular_of_run {files : Bytes → PendingUploads}
    {labels : List (RigCall × List (ℕ × DriverEvent))}
    (hrun : Run undefined (new files) labels s) : s.Regular undefined files labels := by
  induction hrun with
  | nil => exact ⟨⟨[], .nil, rfl⟩, fun _ => Iff.rfl, .new⟩
  | snoc _ hstep ih => exact ih.step hstep

/-- The drivers of the runtime, over any calls of `configure` and `tick`, whatever the kernel
answers and drivers of other kinds throw and return. The runtime reads the samples that its
drivers return and no others, there is one driver for each bound channel, and every driver ever
created has a complete session with its sensor, from its creation to its only destruction:
when the runtime is destroyed, all descriptors have been closed once, and nothing was written
to a sensor that had not identified itself. -/
theorem drivers_sound {files : Bytes → PendingUploads}
    {labels : List (RigCall × List (ℕ × DriverEvent))}
    (hrun : Run undefined (new files) labels s) :
    (∃ calls, Calls (.new files) calls s.runtime ∧
        (calls.flatMap Call.events).flatMap Event.readSamples =
          returned (labels.flatMap Prod.snd)) ∧
      (∀ id, id ∈ s.drivers.objects ↔ id ∈ s.runtime.channels) ∧
      ∀ n < s.drivers.created,
        Session.Run undefined .absent (Collection.eventsOf n (s.lifeEvents labels)) .gone ∧
          Session.Sound (Collection.eventsOf n (s.lifeEvents labels)) := by
  have hregular := regular_of_run hrun
  refine ⟨hregular.calls, hregular.keys, fun n hn => ?_⟩
  have hlife := (hregular.tracks.clear run_heldDestroy).dropped n hn (fun hmem => nomatch hmem)
  exact ⟨hlife, Session.Run.sound hlife⟩

/-- A configuration with one channel, which reads a BME280. -/
def sensorConfig : Config :=
  { deploymentConfig "1" "remote" with
    channels :=
      [{ id := Bytes.ascii "t"
         driver := Bytes.ascii "bme280"
         parameters := .obj
          [(Bytes.ascii "bus", .str (Bytes.ascii "/dev/i2c-1")),
            (Bytes.ascii "address", .num (.finite 118))] }] }

/-- The configuration with the sensor of the unit test. -/
def sensorCall : RigCall :=
  .configure { deploymentInput with registered := fun _ => true }
    ⟨fun _ => some 3, fun _ => .ofRegisters Bme280Driver.unitTestRegisters, fun _ => none⟩
    sensorConfig

def sensorTick : RigCall :=
  .tick (deploymentTick 1 none 200 200)
    ⟨fun _ => .ofRegisters Bme280Driver.unitTestRegisters, fun _ => 0,
      (deploymentTick 1 none 200 200).reads⟩

theorem drivers_sound_one_sensor :
    ∃ labels s, Run 0 (new fun _ => .empty) labels s ∧ s.drivers.created = 1 ∧
      (returned (labels.flatMap Prod.snd)).length = 2 ∧
      Session.Run 0 .absent (Collection.eventsOf 0 (s.lifeEvents labels)) .gone := by
  have hcheck : (((new fun _ => .empty).call 0 sensorCall).toOption.any fun configured =>
      (configured.2.call 0 sensorTick).toOption.any fun ticked =>
        decide (ticked.2.drivers.created = 1 ∧
          (returned ([(sensorCall, configured.1), (sensorTick, ticked.1)].flatMap
            Prod.snd)).length = 2)) = true := by
    decide +kernel
  obtain ⟨configured, hconfigure, hcheck⟩ := Abort.exists_ok_of_any hcheck
  obtain ⟨ticked, htick, hcheck⟩ := Abort.exists_ok_of_any hcheck
  obtain ⟨hcreated, hreturned⟩ := of_decide_eq_true hcheck
  have hrun : Run 0 (new fun _ => .empty)
      [(sensorCall, configured.1), (sensorTick, ticked.1)] ticked.2 :=
    .snoc (.snoc .nil hconfigure) htick
  exact ⟨_, _, hrun, hcreated, hreturned,
    ((drivers_sound hrun).2.2 0 (hcreated ▸ Nat.zero_lt_one)).1⟩

end Rig

end Bossa.Runtime
