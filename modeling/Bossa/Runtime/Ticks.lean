import Bossa.Core.LoadConfig
import Bossa.Runtime.Books
import Bossa.Transition.Run

/-!
# Runs of ticks

A successful `configure` leaves a runtime whose buffer and uploader fit its
configuration, a tick keeps them so, and a run of ticks posts the entries of its
events. The run is a list of ticks that come to their ends, with the state each
starts from.
-/

namespace Bossa.Runtime

open Bossa.Core Telemetry Storage Sync
open Ledger (Entry Posts)

namespace TelemetryRuntime

/-- The buffer and the uploader of the runtime fit its configuration. -/
structure Wired (s : TelemetryRuntime) : Prop where
  capacity : s.buffer.map RingBuffer.capacity = some (bufferCapacity s.config)
  uploader : ∀ u, s.uploader = some u → u.hasStore = s.storeOpen

theorem Wired.buffer_isSome {s : TelemetryRuntime} (h : s.Wired) :
    s.buffer.isSome = true := by
  rw [← Option.isSome_map (f := RingBuffer.capacity), h.capacity, Option.isSome_some]

theorem Frame.wired {s s' : TelemetryRuntime} (h : Frame s s') (hwired : s.Wired) :
    s'.Wired where
  capacity := by rw [h.capacity, h.config, hwired.capacity]
  uploader := fun u hu => h.storeOpen ▸ hwired.uploader u (h.uploader ▸ hu)

/-- The channel loop of `configure` changes the policy, the bindings and the last
error only. -/
theorem configureChannels_eq (input : ConfigureInput) :
    ∀ (channels : List ChannelConfig) (index : ℕ) (s : TelemetryRuntime),
      ∃ policy bindings lastError, (configureChannels input index channels s).2.2 =
        { s with policy := policy, channels := bindings, lastError := lastError }
  | [], _, s => ⟨s.policy, s.channels, s.lastError, rfl⟩
  | channel :: channels, index, s => by
      rw [configureChannels]
      split
      · exact configureChannels_eq input channels (index + 1) s
      · split
        · exact ⟨s.policy, s.channels, _, rfl⟩
        · split
          · exact ⟨s.policy, s.channels, _, rfl⟩
          · exact configureChannels_eq input channels (index + 1) (s.bindChannel _ channel)

theorem openStore_eq (input : ConfigureInput) (s : TelemetryRuntime) :
    ∃ store storeOpen lastError, (s.openStore input).2 =
      { s with store := store, storeOpen := storeOpen, lastError := lastError } := by
  unfold openStore
  split
  · dsimp only
    split
    · exact ⟨_, _, _, rfl⟩
    · exact ⟨_, _, s.lastError, rfl⟩
  · exact ⟨s.store, _, s.lastError, rfl⟩

/-- Whether it succeeds or not, `configure` resets the runtime and then changes the store,
the policy, the bindings, the scheduler, the uploader and the last error only. -/
theorem configure_eq (input : ConfigureInput) (config : Config) (s : TelemetryRuntime) :
    ∃ store storeOpen policy bindings scheduler uploader lastError,
      (s.configure input config).2 =
        { s.reset input config with
          store := store, storeOpen := storeOpen, policy := policy, channels := bindings,
          scheduler := scheduler, uploader := uploader, lastError := lastError } := by
  obtain ⟨store, storeOpen, lastError, hopen⟩ := openStore_eq input (s.reset input config)
  obtain ⟨policy, bindings, lastError', hchannels⟩ :=
    configureChannels_eq input config.channels 0 ((s.reset input config).openStore input).2
  unfold configure
  dsimp only
  split
  · rw [hopen]
    exact ⟨_, _, _, _, _, _, _, rfl⟩
  · split
    · rw [hchannels, hopen]
      exact ⟨_, _, _, _, _, _, _, rfl⟩
    · rw [hchannels, hopen]
      exact ⟨_, _, _, _, _, _, _, rfl⟩

theorem configure_spec {input : ConfigureInput} {config : Config} {s s' : TelemetryRuntime}
    (h : s.configure input config = (true, s')) :
    s'.config = config ∧
      s'.buffer = some (.new (bufferCapacity config) (bufferCapacity_pos config)) ∧
      (s'.storeOpen = decide (config.localStorage.path ≠ []) ∧
        (s'.storeOpen = true → s'.store.db = some config.localStorage.path)) ∧
      s'.uploader = s'.createUploader := by
  unfold configure at h
  dsimp only at h
  split at h
  · cases h
  · next hopened =>
      split at h
      · cases h
      · obtain ⟨policy, bindings, lastError, hchannels⟩ :=
          configureChannels_eq input config.channels 0 ((s.reset input config).openStore input).2
        rw [hchannels] at h
        obtain ⟨-, rfl⟩ := Prod.mk.inj h
        unfold openStore at hopened ⊢
        dsimp only
        split
        · next hpath =>
            rw [if_pos hpath] at hopened
            dsimp only at hopened ⊢
            split
            · next hfail =>
                rw [if_pos hfail] at hopened
                simp at hopened
            · next hfound =>
                rw [Bool.not_eq_true', Bool.not_eq_false] at hfound
                exact ⟨rfl, rfl, ⟨by simpa [reset] using hpath, fun _ =>
                  LocalStore.open_db hfound⟩, rfl⟩
        · next hpath => exact ⟨rfl, rfl, ⟨by simpa [reset] using hpath, by simp⟩, rfl⟩

theorem configure_wired {input : ConfigureInput} {config : Config} {s s' : TelemetryRuntime}
    (h : s.configure input config = (true, s')) : s'.Wired := by
  obtain ⟨hconfig, hbuffer, -, huploader⟩ := configure_spec h
  refine ⟨by rw [hbuffer, hconfig]; rfl, fun u hu => ?_⟩
  rw [huploader, createUploader] at hu
  split at hu
  · cases hu
    rfl
  · cases hu

theorem drain_capacity :
    ∀ (count : ℕ) (b : RingBuffer), (drain count b).2.capacity = b.capacity
  | 0, _ => rfl
  | count + 1, b => by
      have hcapacity := b.dequeue_capacity
      rw [drain]
      split
      · next b' hdequeue => rwa [hdequeue] at hcapacity
      · next sample b' hdequeue =>
          rw [hdequeue] at hcapacity
          exact (drain_capacity count b').trans hcapacity

theorem maybeFlush_frame {input : AttemptInput} {s s' : TelemetryRuntime}
    {events : List Event} (h : s.maybeFlush input = .ok (events, s')) : Frame s s' := by
  rcases maybeFlush_cases h with
    ⟨-, -, rfl⟩ | ⟨-, uploader, buffer, attempt, -, hbuffer, -, -, -, rfl⟩
  · exact .refl s'
  · have hcapacity : (some (drain s.maxBatch buffer).2).map RingBuffer.capacity =
        s.buffer.map RingBuffer.capacity := by
      rw [hbuffer, Option.map_some, Option.map_some, drain_capacity]
    cases attempt.result <;> exact ⟨rfl, rfl, rfl, rfl, hcapacity⟩

/-- The batch that `maybe_flush` takes off the buffer, and the runtime without it. -/
def drained (s : TelemetryRuntime) : List StoredSample × TelemetryRuntime :=
  match s.buffer with
  | none => ([], s)
  | some buffer =>
      let (batch, buffer) := drain s.maxBatch buffer
      (batch, { s with buffer := some buffer })

/-- A flush that is due takes a batch whose payload can be built. -/
def FlushBuilds (now : ℤ) (s : TelemetryRuntime) : Prop :=
  s.flushDue now = true → ∀ u ∈ s.uploader,
    Bytes.validUtf8 u.nodeId = true ∧ ∀ x ∈ s.drained.1, ValidText x

instance (now : ℤ) (s : TelemetryRuntime) : Decidable (s.FlushBuilds now) :=
  inferInstanceAs (Decidable (_ → ∀ u ∈ s.uploader, _))

section Drained

variable {s s' : TelemetryRuntime} {events : List Event}

theorem origins_drained (s : TelemetryRuntime) :
    origins s.drained.1 + origins s.drained.2.residents = origins s.residents := by
  rw [← origins_append]
  cases hb : s.buffer with
  | none => simp [drained, residents, hb]
  | some buffer => simp [drained, residents, hb, drain_append]

theorem drained_frame (s : TelemetryRuntime) : Frame s s.drained.2 := by
  unfold drained
  split
  · exact .refl s
  · next buffer hb => exact ⟨rfl, rfl, rfl, rfl, by simp [hb, drain_capacity]⟩

@[simp] theorem store_drained (s : TelemetryRuntime) : s.drained.2.store = s.store := by
  unfold drained
  split <;> rfl

theorem residents_drained_subset (s : TelemetryRuntime) :
    s.drained.1 ⊆ s.residents ∧ s.drained.2.residents ⊆ s.residents := by
  cases hb : s.buffer with
  | none => simp [drained, residents, hb]
  | some buffer =>
      simp only [drained, residents, hb, Option.elim_some, (drain_eq _ _).1, (drain_eq _ _).2]
      exact ⟨List.take_subset _ _, List.drop_subset _ _⟩

/-- A flush throws exactly when its payload cannot be built. -/
theorem maybeFlush_isOk_iff {input : AttemptInput} :
    (∃ r, s.maybeFlush input = .ok r) ↔ s.FlushBuilds input.now := by
  constructor
  · rintro ⟨⟨events, s'⟩, h⟩ hdue u hu
    rcases maybeFlush_cases h with
      ⟨hwait, -⟩ | ⟨-, uploader, buffer, attempt, huploader, hbuffer, hne, hupload, -⟩
    · rw [hdue] at hwait
      cases hwait
    · obtain ⟨request, hrequest, -⟩ := HttpUploader.upload_cases hne hupload
      obtain rfl : uploader = u := Option.some_inj.mp (huploader.symm.trans hu)
      have hbatch : s.drained.1 = (drain s.maxBatch buffer).1 := by simp [drained, hbuffer]
      rw [hbatch]
      exact HttpUploader.request_isOk_iff.mp ⟨request, hrequest⟩
  · intro hbuilds
    unfold maybeFlush
    split
    · next uploader buffer huploader hbuffer =>
        split
        · exact ⟨_, rfl⟩
        · next hflush =>
            dsimp only
            split
            · exact ⟨_, rfl⟩
            · have hdue : s.flushDue input.now = true := by
                simpa [flushDue, huploader, hbuffer] using hflush
              have hbatch : s.drained.1 = (drain s.maxBatch buffer).1 := by
                simp [drained, hbuffer]
              have hvalid := hbuilds hdue uploader huploader
              rw [hbatch] at hvalid
              obtain ⟨attempt, hattempt⟩ : ∃ attempt, uploader.upload input.client input.faults
                  input.sentAt (drain s.maxBatch buffer).1 s.store = .ok attempt :=
                HttpUploader.upload_isOk hvalid
              rw [hattempt]
              exact ⟨_, rfl⟩
    · exact ⟨_, rfl⟩

theorem drained_ne_nil {input : AttemptInput} {e : Abort}
    (h : s.maybeFlush input = .error e) : s.drained.1 ≠ [] := by
  intro hnil
  unfold maybeFlush at h
  split at h
  · next uploader buffer huploader hbuffer =>
      have hbatch : (drain s.maxBatch buffer).1 = [] := by simpa [drained, hbuffer] using hnil
      split at h
      · cases h
      · dsimp only at h
        rw [if_pos hbatch] at h
        cases h
  · cases h

end Drained

theorem maybeRetry_frame {countFault : Bool} {input : AttemptInput}
    {s s' : TelemetryRuntime} {events : List Event}
    (h : s.maybeRetry countFault input = .ok (events, s')) : Frame s s' := by
  rcases maybeRetry_cases h with ⟨-, rfl⟩ | ⟨uploader, attempt, -, -, -, -, rfl⟩
  · exact .refl s'
  · cases attempt.result <;> exact ⟨rfl, rfl, rfl, rfl, rfl⟩

theorem tick_cases {input : TickInput} {s s' : TelemetryRuntime} {events : List Event}
    (h : s.tick input = .ok (events, s')) :
    (s.channels.entries = [] ∧ events = [] ∧ s' = s) ∨
      (s.channels.entries ≠ [] ∧
        ∃ pollEvents polled flushEvents flushed retryEvents,
          s.pollDue input = .ok (pollEvents, polled) ∧
          polled.maybeFlush input.flush = .ok (flushEvents, flushed) ∧
          flushed.maybeRetry input.countFault input.retry = .ok (retryEvents, s') ∧
          events = pollEvents ++ flushEvents ++ retryEvents) := by
  unfold tick at h
  split at h
  · next hnil =>
      cases h
      exact .inl ⟨hnil, rfl, rfl⟩
  · next hne =>
      obtain ⟨polled, hpoll, h⟩ := Abort.bind_eq_ok_iff.mp h
      obtain ⟨flushed, hflush, h⟩ := Abort.bind_eq_ok_iff.mp h
      obtain ⟨retried, hretry, h⟩ := Abort.bind_eq_ok_iff.mp h
      cases h
      exact .inr ⟨hne, polled.1, polled.2, flushed.1, flushed.2, retried.1, hpoll, hflush,
        hretry, rfl⟩

theorem tick_frame {input : TickInput} {s s' : TelemetryRuntime} {events : List Event}
    (h : s.tick input = .ok (events, s')) : Frame s s' := by
  rcases tick_cases h with
    ⟨-, -, rfl⟩ | ⟨-, pollEvents, polled, flushEvents, flushed, retryEvents, hpoll, hflush,
      hretry, -⟩
  · exact .refl s'
  · exact ((pollDue_frame hpoll).toFrame.trans (maybeFlush_frame hflush)).trans
      (maybeRetry_frame hretry)

/-- The part of `tick` in front of the retry. -/
def pollAndFlush (input : TickInput) (s : TelemetryRuntime) :
    Except Abort (List Event × TelemetryRuntime) := do
  let polled ← s.pollDue input
  let flushed ← polled.2.maybeFlush input.flush
  pure (polled.1 ++ flushed.1, flushed.2)

theorem pollAndFlush_eq_ok_iff {input : TickInput} {s s' : TelemetryRuntime}
    {events : List Event} :
    s.pollAndFlush input = .ok (events, s') ↔ ∃ pollEvents polled flushEvents,
      s.pollDue input = .ok (pollEvents, polled) ∧
        polled.maybeFlush input.flush = .ok (flushEvents, s') ∧
        events = pollEvents ++ flushEvents := by
  rw [pollAndFlush, Abort.bind_eq_ok_iff]
  constructor
  · rintro ⟨polled, hpoll, h⟩
    obtain ⟨flushed, hflush, h⟩ := Abort.bind_eq_ok_iff.mp h
    cases h
    exact ⟨_, _, _, hpoll, hflush, rfl⟩
  · rintro ⟨pollEvents, polled, flushEvents, hpoll, hflush, rfl⟩
    exact ⟨_, hpoll, Abort.bind_eq_ok_iff.mpr ⟨_, hflush, rfl⟩⟩

theorem pollAndFlush_frame {input : TickInput} {s s' : TelemetryRuntime}
    {events : List Event} (h : s.pollAndFlush input = .ok (events, s')) : Frame s s' := by
  obtain ⟨pollEvents, polled, flushEvents, hpoll, hflush, -⟩ := pollAndFlush_eq_ok_iff.mp h
  exact (pollDue_frame hpoll).toFrame.trans (maybeFlush_frame hflush)

theorem tick_stages {input : TickInput} {s s' : TelemetryRuntime} {events : List Event}
    (h : s.tick input = .ok (events, s')) :
    (s.channels.entries = [] ∧ events = [] ∧ s' = s) ∨
      (s.channels.entries ≠ [] ∧ ∃ firstEvents flushed retryEvents,
        s.pollAndFlush input = .ok (firstEvents, flushed) ∧
        flushed.maybeRetry input.countFault input.retry = .ok (retryEvents, s') ∧
        events = firstEvents ++ retryEvents) := by
  rcases tick_cases h with
    hnil | ⟨hne, pollEvents, polled, flushEvents, flushed, retryEvents, hpoll, hflush, hretry,
      hevents⟩
  · exact .inl hnil
  · exact .inr ⟨hne, _, flushed, retryEvents,
      pollAndFlush_eq_ok_iff.mpr ⟨_, _, _, hpoll, hflush, rfl⟩, hretry, hevents⟩

theorem tick_posts {input : TickInput} {s s' : TelemetryRuntime} {events : List Event}
    {h : Ledger Place ℕ} (hwired : s.Wired) (hbooks : s.Booked h)
    (htick : s.tick input = .ok (events, s')) :
    ∃ h', Posts h (journal events) h' ∧ s'.Booked h' := by
  rcases tick_cases htick with
    ⟨-, rfl, rfl⟩ | ⟨-, pollEvents, polled, flushEvents, flushed, retryEvents, hpoll, hflush,
      hretry, rfl⟩
  · exact ⟨h, .nil h, hbooks⟩
  · have hframe := (pollDue_frame hpoll).toFrame.trans (maybeFlush_frame hflush)
    obtain ⟨h₁, hposts₁, hbooks₁⟩ := pollDue_posts hwired.buffer_isSome hbooks hpoll
    obtain ⟨h₂, hposts₂, hbooks₂⟩ := maybeFlush_posts hbooks₁ hflush
    obtain ⟨h₃, hposts₃, hbooks₃⟩ :=
      maybeRetry_posts (hframe.wired hwired).uploader hbooks₂ hretry
    refine ⟨h₃, ?_, hbooks₃⟩
    rw [journal_append, journal_append]
    exact (hposts₁.append hposts₂).append hposts₃

end TelemetryRuntime

/-- A tick that came to its end: the state it started from, its input and its
events. -/
structure Tick where
  before : TelemetryRuntime
  input : TickInput
  events : List Event

/-- The transition that a tick is. -/
def Tick.Step (s : TelemetryRuntime) (t : Tick) (s' : TelemetryRuntime) : Prop :=
  t.before = s ∧ s.tick t.input = .ok (t.events, s')

/-- A run of ticks. -/
abbrev Ticks : TelemetryRuntime → List Tick → TelemetryRuntime → Prop :=
  Transition.Run Tick.Step

def eventsOf (ticks : List Tick) : List Event := ticks.flatMap Tick.events

@[simp] theorem eventsOf_append (ticks ticks' : List Tick) :
    eventsOf (ticks ++ ticks') = eventsOf ticks ++ eventsOf ticks' := by
  simp [eventsOf]

@[simp] theorem eventsOf_singleton (t : Tick) : eventsOf [t] = t.events := by
  simp [eventsOf]

namespace Ticks

open TelemetryRuntime

variable {s s' : TelemetryRuntime} {ticks : List Tick}

theorem frame (hrun : Ticks s ticks s') : Frame s s' := by
  induction hrun with
  | nil => exact .refl s
  | snoc _ hstep ih => exact ih.trans (tick_frame hstep.2)

theorem posts {h : Ledger Place ℕ} (hwired : s.Wired) (hbooks : s.Booked h)
    (hrun : Ticks s ticks s') :
    ∃ h', Posts h (journal (eventsOf ticks)) h' ∧ s'.Booked h' := by
  induction hrun with
  | nil => exact ⟨h, .nil h, hbooks⟩
  | snoc hinit hstep ih =>
      obtain ⟨h', hposts, hbooks'⟩ := ih
      obtain ⟨h'', hlast, hbooks''⟩ :=
        tick_posts ((frame hinit).wired hwired) hbooks' hstep.2
      refine ⟨h'', ?_, hbooks''⟩
      rw [eventsOf_append, eventsOf_singleton, journal_append]
      exact hposts.append hlast

end Ticks

def runTicks : TelemetryRuntime → List TickInput → Except Abort (List Tick × TelemetryRuntime)
  | s, [] => pure ([], s)
  | s, input :: inputs => do
      let ticked ← s.tick input
      let rest ← runTicks ticked.2 inputs
      pure (⟨s, input, ticked.1⟩ :: rest.1, rest.2)

theorem ticks_of_runTicks :
    ∀ {inputs : List TickInput} {s : TelemetryRuntime} {r : List Tick × TelemetryRuntime},
      runTicks s inputs = .ok r → Ticks s r.1 r.2
  | [], s, r, h => by
      cases h
      exact .nil
  | input :: inputs, s, r, h => by
      obtain ⟨ticked, hticked, h⟩ := Abort.bind_eq_ok_iff.mp h
      obtain ⟨rest, hrest, h⟩ := Abort.bind_eq_ok_iff.mp h
      cases h
      have hfirst : Ticks s ([] ++ [⟨s, input, ticked.1⟩]) ticked.2 :=
        Transition.Run.nil.snoc ⟨rfl, hticked⟩
      exact hfirst.append (ticks_of_runTicks hrest)

theorem exists_ticks (s : TelemetryRuntime) (inputs : List TickInput)
    (p : List Tick → TelemetryRuntime → Bool)
    (h : ((runTicks s inputs).toOption.any fun r => p r.1 r.2) = true) :
    ∃ ticks s', Ticks s ticks s' ∧ p ticks s' = true := by
  obtain ⟨r, hrun, hp⟩ := Abort.exists_ok_of_any h
  exact ⟨r.1, r.2, ticks_of_runTicks hrun, hp⟩

section Deployment

/-!
A small deployment on which the theorems are tried: one channel of a simulated
sensor at one hertz, with the batch size and the destination given.
-/

def digits? (text : Bytes) : Option ℕ :=
  if text ≠ [] ∧ text.all (fun c => 48 ≤ c ∧ c ≤ 57) then
    some (text.foldl (fun n c => 10 * n + (c.toNat - 48)) 0)
  else none

def plainConversions : YamlConversions where
  asBool := fun text =>
    if text = Bytes.ascii "true" then some true
    else if text = Bytes.ascii "false" then some false
    else none
  asInt := fun text => (digits? text).map fun n => (n : ℤ)
  asDouble := fun text => (digits? text).map fun n => .finite n
  nullString := some (Bytes.ascii "null")

def yamlText (text : String) : Yaml := .scalar (Bytes.ascii text)

def deploymentText (maxBatchSize destination : String) : String :=
  "config_version: 1\nnode:\n  id: edge-1\n  api_key_file: key\nserver:\n  url: http://host\n" ++
    "  max_batch_size: " ++ maxBatchSize ++ "\nchannels:\n  - id: t\n    driver: sim\n" ++
    "    sample_rate_hz: 1\n    sync:\n      destinations: [" ++ destination ++ "]\n"

/-- The document of the configuration. -/
def deploymentDocument (maxBatchSize destination : String) : Yaml :=
  .map
    [(yamlText "config_version", yamlText "1"),
      (yamlText "node", .map
        [(yamlText "id", yamlText "edge-1"), (yamlText "api_key_file", yamlText "key")]),
      (yamlText "server", .map
        [(yamlText "url", yamlText "http://host"),
          (yamlText "max_batch_size", yamlText maxBatchSize)]),
      (yamlText "channels", .sequence
        [.map
          [(yamlText "id", yamlText "t"), (yamlText "driver", yamlText "sim"),
            (yamlText "sample_rate_hz", yamlText "1"),
            (yamlText "sync", .map
              [(yamlText "destinations", .sequence [yamlText destination])])]])]

def deploymentFile (maxBatchSize destination : String) : ConfigFile where
  «exists» := some true
  size := some (194 + maxBatchSize.length + destination.length)
  opens := true
  text := some (Bytes.ascii (deploymentText maxBatchSize destination))

def deploymentResult (maxBatchSize destination : String) : ConfigLoadResult Config :=
  loadConfig plainConversions (fun _ => .ok (deploymentDocument maxBatchSize destination))
    (deploymentFile maxBatchSize destination) (Bytes.ascii "config.yaml")

def deploymentConfig (maxBatchSize destination : String) : Config :=
  (deploymentResult maxBatchSize destination).toOption.getD {}

theorem eq_ok_getD {result : ConfigLoadResult Config}
    (h : result.toOption.isSome = true) : result = .ok (result.toOption.getD {}) := by
  cases result with
  | error e => cases h
  | ok config => rfl

theorem deploymentResult_eq {maxBatchSize destination : String}
    (h : (deploymentResult maxBatchSize destination).toOption.isSome = true) :
    deploymentResult maxBatchSize destination =
      .ok (deploymentConfig maxBatchSize destination) :=
  eq_ok_getD h

def deploymentInput : ConfigureInput where
  apiKey := []
  keyFile := some (Bytes.ascii "secret")
  openFault := none
  registered := fun name => name = Bytes.ascii "sim"
  driverFault := fun _ => none
  channelNow := fun _ => 0
  schedulerNow := 0

def deployed (maxBatchSize destination : String) : TelemetryRuntime :=
  ((TelemetryRuntime.new fun _ => .empty).configure deploymentInput
    (deploymentConfig maxBatchSize destination)).2

theorem configure_deployed {maxBatchSize destination : String}
    (h : ((TelemetryRuntime.new fun _ => .empty).configure deploymentInput
      (deploymentConfig maxBatchSize destination)).1 = true) :
    (TelemetryRuntime.new fun _ => .empty).configure deploymentInput
        (deploymentConfig maxBatchSize destination) =
      (true, deployed maxBatchSize destination) := by
  rw [deployed, ← h]

theorem deploymentResult_one_remote :
    deploymentResult "1" "remote" = .ok (deploymentConfig "1" "remote") :=
  deploymentResult_eq (by decide +kernel)

theorem configure_one_remote :
    (TelemetryRuntime.new fun _ => .empty).configure deploymentInput
        (deploymentConfig "1" "remote") =
      (true, deployed "1" "remote") :=
  configure_deployed (by decide +kernel)

def deploymentSample (origin : ℕ) : Sample where
  channelId := Bytes.ascii "t"
  value := .finite 20
  timestamp := origin * 1000000000
  unit := Bytes.ascii "celsius"
  quality := .good
  origin := origin

def deploymentAttempt (second status : ℤ) : AttemptInput where
  now := second * 1000000000
  sentAt := second * 1000000000
  client := fun _ => ⟨status, []⟩
  faults := {}
  failedNow := second * 1000000000

/-- A tick at a second that reads the sample with the given origin, if any, and in
which the flush and the retry are answered with a status. -/
def deploymentTick (second : ℤ) (origin : Option ℕ) (flushStatus retryStatus : ℤ) :
    TickInput where
  fuel := 100
  now := second * 1000000000
  reads := fun _ => ⟨(origin.map deploymentSample).toList, by cases origin <;> simp⟩
  pollNow := fun _ => second * 1000000000
  flush := deploymentAttempt second flushStatus
  countFault := false
  retry := deploymentAttempt second retryStatus

end Deployment

end Bossa.Runtime
